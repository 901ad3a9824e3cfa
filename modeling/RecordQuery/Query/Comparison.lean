/-!
# Comparisons

The six ways in which a query compares a field with a number or an instant. The colon and the equals
sign mean the same.
-/

namespace RecordQuery

inductive Comparison where
  | colon
  | equal
  | greater
  | less
  | atLeast
  | atMost
  deriving DecidableEq, Repr

namespace Comparison

def spelling : Comparison → String
  | colon => ":"
  | equal => "="
  | greater => ">"
  | less => "<"
  | atLeast => ">="
  | atMost => "<="

def isEquality : Comparison → Bool
  | colon | equal => true
  | _ => false

/-- Whether the comparison holds of two values in this order. -/
def accepts : Comparison → Ordering → Bool
  | colon, o | equal, o => o == .eq
  | greater, o => o == .gt
  | less, o => o == .lt
  | atLeast, o => o != .lt
  | atMost, o => o != .gt

/-- Whether the comparison holds of two values; never if they do not compare. -/
def holds (c : Comparison) (order : Option Ordering) : Bool := order.any c.accepts

end Comparison

end RecordQuery
