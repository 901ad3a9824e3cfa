import RecordQuery.Query.Token

/-!
# Query trees

A query is a binary tree: conditions joined by AND and OR, any part of it negated.
-/

namespace RecordQuery

/-- A term at its place in the query, negated or not. -/
structure Condition where
  term : Term
  position : Nat
  negated : Bool
  deriving DecidableEq

inductive Connective where
  | and
  | or
  deriving DecidableEq, Repr

namespace Connective

def ofJoiner (j : Joiner) : Connective := if j.isDisjunction then or else and

def spelling : Connective → String
  | and => "AND"
  | or => "OR"

def eval : Connective → Bool → Bool → Bool
  | and, a, b => a && b
  | or, a, b => a || b

end Connective

inductive Tree where
  | leaf (c : Condition)
  | node (connective : Connective) (left right : Tree) (negated : Bool)
  deriving DecidableEq

namespace Tree

/-- Whether the root is negated. -/
def isNegated : Tree → Bool
  | leaf c => c.negated
  | node _ _ _ n => n

/-- The tree with its root negated, once and for all. -/
def negate : Tree → Tree
  | leaf c => leaf { c with negated := true }
  | node o l r _ => node o l r true

/-- The tree negated if `n` holds. -/
def negateIf (n : Bool) (t : Tree) : Tree := if n then t.negate else t

/-- The lines of the tree from the root on, each two spaces further in than its parent. -/
def linesAt (depth : Nat) : Tree → List String
  | leaf c => [line depth c.negated c.term.describe]
  | node o l r n => line depth n o.spelling :: (l.linesAt (depth + 1) ++ r.linesAt (depth + 1))
where
  line (depth : Nat) (negated : Bool) (text : String) : String :=
    String.ofList (List.replicate (2 * depth) ' ') ++ (if negated then "NOT " else "") ++ text

/-- The drawing of the tree, a node or leaf on each line. -/
def draw (t : Tree) : String := String.join ((t.linesAt 0).map (· ++ "\n"))

end Tree

end RecordQuery
