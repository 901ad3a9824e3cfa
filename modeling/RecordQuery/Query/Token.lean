import RecordQuery.Query.Term

/-!
# Tokens

The pieces of a query that its tree is built from: terms, the words that join them, and the signs of
grouping and negation. Several tokens may stem from one place in the query, which is then the
position of all of them.
-/

namespace RecordQuery

/-- A word that joins two operands, in one of its spellings. -/
inductive Joiner where
  | and
  | or
  | ampersand
  | pipe
  deriving DecidableEq, Repr

namespace Joiner

def spelling : Joiner → String
  | and => "AND"
  | or => "OR"
  | ampersand => "&"
  | pipe => "|"

def isDisjunction : Joiner → Bool
  | or | pipe => true
  | and | ampersand => false

/-- The joiner that a word spells, in capitals or not. -/
def ofWord? (word : String) : Option Joiner :=
  match word.toList.map Char.toUpper with
  | ['A', 'N', 'D'] => some and
  | ['O', 'R'] => some or
  | ['&'] => some ampersand
  | ['|'] => some pipe
  | _ => none

end Joiner

namespace Token

inductive Kind where
  | term (t : Term)
  | joiner (j : Joiner)
  | openGroup (negated : Bool)
  | closeGroup
  | negation
  deriving DecidableEq

namespace Kind

def name : Kind → String
  | term t => t.kindName
  | joiner _ => "operator"
  | openGroup _ => "open_paren"
  | closeGroup => "close_paren"
  | negation => "negation"

def isTerm : Kind → Bool
  | term _ => true
  | _ => false

def isJoiner : Kind → Bool
  | joiner _ => true
  | _ => false

def isOpenGroup : Kind → Bool
  | openGroup _ => true
  | _ => false

def isCloseGroup : Kind → Bool
  | closeGroup => true
  | _ => false

def isNegation : Kind → Bool
  | negation => true
  | _ => false

/-- The name of the kind and what it holds. -/
def describe (k : Kind) : String :=
  match k with
  | term t => k.name ++ "(" ++ t.inBrackets ++ ")"
  | joiner j => k.name ++ "(" ++ j.spelling ++ ")"
  | openGroup true => k.name ++ "(negated)"
  | _ => k.name

end Kind

end Token

/-- A piece of a query and the place of its first character. -/
structure Token where
  kind : Token.Kind
  position : Nat
  deriving DecidableEq

namespace Token

def term? (t : Token) : Option Term :=
  match t.kind with
  | .term x => some x
  | _ => none

def describe (t : Token) : String := t.kind.describe ++ " @" ++ toString t.position

end Token

end RecordQuery
