import Std.Data.HashMap
import Make24.Event

/-! The registrations of observers. An observer is registered for one kind of event and is called
for each event of that kind, in the order of registration. What it does when called is its own
affair: it cannot reach the game. -/

namespace Make24

/-- The handle of a registration. Handles count all registrations, whatever their kind. -/
structure ListenerId where
  number : Nat
deriving DecidableEq, Hashable, Repr

structure Observers where
  /-- The number of registrations made so far. -/
  registered : Nat
  /-- The registrations of each kind that still stand, in order. -/
  byKind : Std.HashMap Event.Kind (List ListenerId)

namespace Observers

def none : Observers := ⟨0, ∅⟩

/-- The observers of a kind of event, in the order of registration. -/
def listeners (observers : Observers) (kind : Event.Kind) : List ListenerId :=
  observers.byKind.getD kind []

/-- Registers an observer and tells its handle. -/
def on (observers : Observers) (kind : Event.Kind) : ListenerId × Observers :=
  let id : ListenerId := ⟨observers.registered⟩
  (id, ⟨observers.registered + 1,
    observers.byKind.insert kind (observers.listeners kind ++ [id])⟩)

/-- Removes a registration and tells whether there was one. The kind has to be the one that the
handle was registered for. -/
def off (observers : Observers) (kind : Event.Kind) (id : ListenerId) : Bool × Observers :=
  if (observers.listeners kind).contains id then
    (true, { observers with
      byKind := observers.byKind.insert kind ((observers.listeners kind).filter (· ≠ id)) })
  else (false, observers)

/-- The calls that events make, in order. -/
def calls (observers : Observers) (events : List Event) : List (ListenerId × Event) :=
  events.flatMap fun event => (observers.listeners event.kind).map fun id => (id, event)

end Observers

end Make24
