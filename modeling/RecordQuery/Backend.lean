import RecordQuery.Query.Parsed
import RecordQuery.Record.Sort

/-!
# Queries for other systems

A backend turns single conditions into filters of its own and joins them. The fold of a tree over a
backend keeps account of every condition: each one that counts gave a filter, gave an order, or was
declined, in which case it still has to be applied to the results.
-/

namespace RecordQuery

/-- How a system with state `σ` makes its filters and orders. -/
structure Backend (σ F O : Type) where
  /-- The filter of a condition without its negation; none to decline it. -/
  condition : Condition → StateM σ (Option F)
  /-- The order that a sort marker asks for; none to decline it. -/
  order : Condition → StateM σ (Option O) := fun _ => return none
  and : F → F → StateM σ F
  or : F → F → StateM σ F
  not : F → StateM σ F

namespace Backend

/-- What a tree, or a part of one, comes to. -/
structure Outcome (F O : Type) where
  filter : Option F := none
  order : List O := []
  /-- The conditions that gave a filter. -/
  filtered : List Condition := []
  /-- The sort markers that gave an order. -/
  ordered : List Condition := []
  /-- The conditions that were declined. -/
  dropped : List Condition := []

variable {σ F O : Type}

/-- The outcome of a single condition. -/
def ofCondition (b : Backend σ F O) (c : Condition) : StateM σ (Outcome F O) := do
  if c.term.isSortMarker then
    match ← b.order c with
    | some o => return { order := [o], ordered := [c] }
    | none => return { dropped := [c] }
  else
    match ← b.condition c with
    | some f => return { filter := some f, filtered := [c] }
    | none => return { dropped := [c] }

/-- Two filters joined; a missing one leaves the other. -/
def join (b : Backend σ F O) (o : Connective) : Option F → Option F → StateM σ (Option F)
  | some l, some r =>
    match o with
    | .and => return some (← b.and l r)
    | .or => return some (← b.or l r)
  | some f, none | none, some f => return some f
  | none, none => return none

/-- A filter negated if `negated` holds. -/
def negateIf (b : Backend σ F O) (negated : Bool) : Option F → StateM σ (Option F)
  | some f => if negated then return some (← b.not f) else return some f
  | none => return none

/-- The outcome of a tree within groups that are negated if `within` holds. Conditions on empty text
are passed over. -/
def fold (b : Backend σ F O) (within : Bool) : Tree → StateM σ (Outcome F O)
  | .leaf c =>
    if c.term.isEmpty then return {}
    else do
      let x ← b.ofCondition { c with negated := within || c.negated }
      return { x with filter := ← b.negateIf c.negated x.filter }
  | .node o l r negated => do
    let x ← b.fold (within || negated) l
    let y ← b.fold (within || negated) r
    let joined ← b.join o x.filter y.filter
    return {
      filter := ← b.negateIf negated joined
      order := x.order ++ y.order
      filtered := x.filtered ++ y.filtered
      ordered := x.ordered ++ y.ordered
      dropped := x.dropped ++ y.dropped }

/-- The outcome of a query. -/
def compile (b : Backend σ F O) (query : Parsed) : StateM σ (Outcome F O) :=
  match query.tree with
  | some t => b.fold false t
  | none => return {}

end Backend

end RecordQuery
