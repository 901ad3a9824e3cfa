import RecordQuery.Query.Problem

/-!
# Settings

The settings that are in effect: the rules for reading queries, and whether records are searched
with regard to case. Some settings load but make queries fail; each of these has a warning.
-/

namespace RecordQuery

structure Settings where
  rules : Rules := {}
  caseSensitive : Bool := false
  deriving DecidableEq, Repr

namespace Settings

inductive Warning where
  /-- No key is allowed. -/
  | noValidKeys
  /-- The key of terms without one is not allowed. -/
  | invalidDefaultKey (key : String)
  /-- No query is short enough but the empty one. -/
  | zeroLength
  deriving DecidableEq, Repr

namespace Warning

def message : Warning → String
  | noValidKeys => "parser.valid_keys is empty; every keyed term will be rejected"
  | invalidDefaultKey key =>
    "parser.default_key '" ++ key ++ "' is not in parser.valid_keys; bare terms will be rejected"
  | zeroLength => "parser.max_query_length is 0; every query will be rejected"

end Warning

def warnings (s : Settings) : List Warning :=
  let ofKeys := match s.rules.validKeys with
    | some keys =>
      (if keys.isEmpty then [Warning.noValidKeys] else []) ++
        match s.rules.defaultKey with
        | some key => if keys.contains key then [] else [.invalidDefaultKey key]
        | none => []
    | none => []
  ofKeys ++ if s.rules.maxQueryLength = some 0 then [.zeroLength] else []

end Settings

end RecordQuery
