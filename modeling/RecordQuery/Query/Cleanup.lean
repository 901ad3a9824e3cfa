import RecordQuery.Query.Token

/-!
# Cleanup

Groups that hold nothing are taken out of a list of tokens, with a negation in front of them, and so
are joiners that have no operand on one side: those after another joiner, after the start of a group
or before its end. Taking out one may bring others together, so this is done until nothing changes.
-/

namespace RecordQuery

namespace Cleanup

/-- Whether a joiner after these tokens, last first, has nothing to join on its left. -/
def blocksJoiner : List Token → Bool
  | t :: _ => t.kind.isJoiner || t.kind.isOpenGroup
  | [] => false

/-- Without the negation at the end of these tokens, last first. -/
def dropNegation : List Token → List Token
  | ⟨.negation, _⟩ :: rest => rest
  | kept => kept

/-- One pass from left to right; `kept` holds the tokens that stay so far, last first. -/
def passFrom (kept : List Token) : List Token → List Token
  | [] => kept.reverse
  | [t] => if t.kind.isJoiner && blocksJoiner kept then kept.reverse else (t :: kept).reverse
  | t :: u :: rest =>
    if t.kind.isOpenGroup && u.kind.isCloseGroup then passFrom (dropNegation kept) rest
    else if t.kind.isJoiner && (blocksJoiner kept || u.kind.isCloseGroup) then
      passFrom kept (u :: rest)
    else passFrom (t :: kept) (u :: rest)

def pass (tokens : List Token) : List Token := passFrom [] tokens

end Cleanup

/-- The tokens after as many passes as take something out. -/
def cleanup (tokens : List Token) : List Token :=
  if (Cleanup.pass tokens).length < tokens.length then cleanup (Cleanup.pass tokens) else tokens
termination_by tokens.length

end RecordQuery
