import RecordQuery.Query.Builder

/-!
# Trees up to their places

The place of a term is carried from its token to its leaf and decides nothing: the shape of a tree
depends on the kinds of the tokens alone.
-/

namespace RecordQuery

/-- The tree with all leaves at the start of the query. -/
def Tree.unplaced : Tree → Tree
  | leaf c => leaf { c with position := 0 }
  | node o l r n => node o l.unplaced r.unplaced n

@[simp] theorem Tree.unplaced_unplaced (t : Tree) : t.unplaced.unplaced = t.unplaced := by
  induction t with
  | leaf c => rfl
  | node o l r n ihl ihr => simp [unplaced, ihl, ihr]

/-- Tokens of these kinds at the start of the query. -/
def Token.unplaced (kinds : List Token.Kind) : List Token := kinds.map (⟨·, 0⟩)

theorem Token.unplaced_cons (k : Token.Kind) (kinds : List Token.Kind) :
    Token.unplaced (k :: kinds) = ⟨k, 0⟩ :: Token.unplaced kinds := rfl

theorem Token.unplaced_append (kinds kinds' : List Token.Kind) :
    Token.unplaced (kinds ++ kinds') = Token.unplaced kinds ++ Token.unplaced kinds' :=
  List.map_append

theorem Tree.unplaced_negateIf (n : Bool) (t : Tree) :
    (t.negateIf n).unplaced = t.unplaced.negateIf n := by
  cases n <;> cases t <;> rfl

namespace Builder

def Frame.unplaced (f : Frame) : Frame := { f with tree := f.tree.map Tree.unplaced }

def unplaced (b : Builder) : Builder where
  current := b.current.unplaced
  outer := b.outer.map Frame.unplaced
  negate := b.negate

theorem Frame.unplaced_attach (f : Frame) (t : Tree) :
    (f.attach t).unplaced = f.unplaced.attach t.unplaced := by
  obtain ⟨tree, waiting, negated⟩ := f
  cases tree <;> rfl

theorem Frame.unplaced_close (f outer : Frame) :
    (f.close outer).unplaced = f.unplaced.close outer.unplaced := by
  obtain ⟨tree, waiting, negated⟩ := f
  cases tree with
  | none => rfl
  | some t =>
      show (outer.attach (t.negateIf negated)).unplaced = _
      rw [unplaced_attach, Tree.unplaced_negateIf]
      rfl

theorem unplaced_step (b : Builder) (t : Token) :
    (b.step t).unplaced = b.unplaced.step ⟨t.kind, 0⟩ := by
  obtain ⟨current, outer, negate⟩ := b
  obtain ⟨kind, position⟩ := t
  cases kind with
  | negation => rfl
  | openGroup n => rfl
  | joiner j =>
      obtain ⟨tree, waiting, negated⟩ := current
      cases tree <;> rfl
  | closeGroup =>
      cases outer with
      | nil => rfl
      | cons f outer => simp [step, unplaced, Frame.unplaced_close]
  | term x => simp [step, unplaced, Frame.unplaced_attach, Tree.unplaced]

theorem unplaced_foldl (b : Builder) (tokens : List Token) :
    (tokens.foldl step b).unplaced =
      (Token.unplaced (tokens.map Token.kind)).foldl step b.unplaced := by
  induction tokens generalizing b with
  | nil => rfl
  | cons t tokens ih =>
      rw [List.foldl_cons, ih, unplaced_step]
      rfl

theorem unplaced_finish (f : Frame) (outer : List Frame) :
    (finish f outer).map Tree.unplaced = finish f.unplaced (outer.map Frame.unplaced) := by
  induction outer generalizing f with
  | nil => rfl
  | cons g outer ih =>
      rw [finish, ih, Frame.unplaced_close]
      rfl

end Builder

/-- **Places decide nothing.** Up to its places, a tree is built from the kinds of the tokens. -/
theorem Tree.unplaced_ofTokens? (tokens : List Token) :
    (Tree.ofTokens? tokens).map Tree.unplaced =
      Tree.ofTokens? (Token.unplaced (tokens.map Token.kind)) := by
  have hfold := Builder.unplaced_foldl {} tokens
  show (Builder.finish _ _).map Tree.unplaced = Builder.finish _ _
  rw [Builder.unplaced_finish]
  have hempty : ({} : Builder).unplaced = {} := rfl
  rw [hempty] at hfold
  rw [← hfold]
  rfl

end RecordQuery
