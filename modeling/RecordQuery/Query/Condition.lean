import RecordQuery.Query.Tree

/-!
# Conditions of a tree

The flat view of a tree: its conditions from left to right, each negated if it or any group around
it is.
-/

namespace RecordQuery

namespace Tree

/-- The conditions of the tree, within groups that are negated if `negated` holds. -/
def conditionsWithin (negated : Bool) : Tree → List Condition
  | leaf c => [{ c with negated := negated || c.negated }]
  | node _ l r n =>
    l.conditionsWithin (negated || n) ++ r.conditionsWithin (negated || n)

def conditions (t : Tree) : List Condition := t.conditionsWithin false

end Tree

/-- Whether a condition on this term counts: empty text does not, and with `dropZero` zero does not
either. -/
def Term.counts (dropZero : Bool) (t : Term) : Bool :=
  !(t.isEmpty || (dropZero && t.isZero))

/-- The conditions of a tree that count. -/
def conditionsOf (dropZero : Bool) (tree : Option Tree) : List Condition :=
  match tree with
  | some t => t.conditions.filter (·.term.counts dropZero)
  | none => []

namespace Condition

/-- Key, comparison, value and place on one line; `*` stands for every field, and `~` for a match
of text. -/
def summary (c : Condition) : String :=
  let value := match c.term with
    | .text _ .regex s => "/" ++ s ++ "/"
    | t => t.valueText
  (if c.negated then "NOT " else "") ++ c.term.key?.getD "*" ++ " " ++
    (c.term.comparison?.map Comparison.spelling).getD "~" ++ " " ++ value ++ "  [" ++
    c.term.kindName ++ " @" ++ toString c.position ++ "]"

end Condition

end RecordQuery
