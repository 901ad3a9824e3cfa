import RecordQuery.Query.Tree

/-!
# Building the tree

Tokens are read from left to right into a stack of open groups. AND and OR bind alike and to the
left, and operands without a joiner are joined by AND. Every list of tokens is read: a group that
is not closed ends with the query, and the end of a group that is not open closes none.
-/

namespace RecordQuery

/-- An open group, or the query itself. -/
structure Builder.Frame where
  /-- The operands so far, joined. -/
  tree : Option Tree := none
  /-- The connective read since the last operand. -/
  waiting : Option Connective := none
  negated : Bool := false

/-- What has been read: the innermost open group, the groups around it from the inside out, and
whether a negation waits for its operand. -/
structure Builder where
  current : Builder.Frame := {}
  outer : List Builder.Frame := []
  negate : Bool := false

namespace Builder

/-- The group with one more operand, joined by the waiting connective, or by AND. -/
def Frame.attach (f : Frame) (operand : Tree) : Frame :=
  match f.tree with
  | some left =>
    { f with tree := some (.node (f.waiting.getD .and) left operand false), waiting := none }
  | none => { f with tree := some operand, waiting := none }

/-- The group around `f` after `f` has ended. An empty group leaves no operand. -/
def Frame.close (f outer : Frame) : Frame :=
  match f.tree with
  | some t => outer.attach (t.negateIf f.negated)
  | none => outer

/-- Reads one token. -/
def step (b : Builder) (t : Token) : Builder :=
  match t.kind with
  | .negation => { b with negate := true }
  | .joiner j =>
    if b.current.tree.isSome then
      { b with current := { b.current with waiting := some (.ofJoiner j) } }
    else b
  | .openGroup negated =>
    { current := { negated := negated || b.negate }
      outer := b.current :: b.outer
      -- a group that is negated by itself leaves the negation in front of it waiting
      negate := negated && b.negate }
  | .closeGroup =>
    match b.outer with
    | f :: outer => { current := b.current.close f, outer, negate := false }
    | [] => { b with negate := false }
  | .term term =>
    { b with
      current := b.current.attach (.leaf ⟨term, t.position, b.negate⟩)
      negate := false }

/-- Closes the open groups, from the inside out. -/
def finish (f : Frame) : List Frame → Option Tree
  | [] => f.tree
  | outer :: rest => finish (f.close outer) rest

end Builder

/-- The tree of a list of tokens; none if they hold no term. -/
def Tree.ofTokens? (tokens : List Token) : Option Tree :=
  let b := tokens.foldl Builder.step {}
  Builder.finish b.current b.outer

end RecordQuery
