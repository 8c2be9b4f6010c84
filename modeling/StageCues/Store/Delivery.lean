import StageCues.Parameter.Awaiting
import StageCues.Store.Family

/-!
# Store — deliveries

A parameter delivered to an item of a store, on behalf of a sequence of awaited parameters.  If the
receiver cannot take it, neither the store nor the sequence changes.
-/

namespace StageCues.Store

/-- An item given a parameter; documents take none. -/
def receiveAt (s : Store) (p : Parameter) : Item → Except Fault Store
  | .node id => s.receive id p
  | x => .error (s.lacking x p.operation)

/-- The parameter delivered to the receiver, or to the target of the sequence if none is named. -/
def deliver (s : Store) (a : Awaiting Item) (receiver : Option Item) (p : Parameter) :
    Except Fault (Store × Awaiting Item) :=
  match receiver <|> a.target with
  | none => .error (.lacks .nothing p.operation)
  | some item =>
    match s.receiveAt p item with
    | .error f => .error f
    | .ok t => .ok (t, a.delivered)

end StageCues.Store
