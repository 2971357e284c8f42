import ShutterGateway.Command.Routing

/-!
Listeners, who are told about positions that nodes report. Each has a number of its own, which
is never used again. An event goes to every listener who is registered when it is told, in the
order in which they were registered. Listeners come and go at any time: between any two events,
also when these are told one directly after the other.
-/

namespace ShutterGateway

/-- The registered listeners. -/
structure Listeners where
  /-- The numbers of the registered listeners, in the order of registration. -/
  ids : List Nat := []
  /-- The number of the next listener. -/
  next : Nat := 0
  deriving DecidableEq, Repr, Inhabited

namespace Listeners

/-- Registers a listener and gives it a number. -/
def register (listeners : Listeners) : Nat × Listeners :=
  (listeners.next, ⟨listeners.ids ++ [listeners.next], listeners.next + 1⟩)

/-- Whether a listener with a number was registered, and the listeners without it. -/
def unregister (listeners : Listeners) (id : Nat) : Bool × Listeners :=
  (decide (id ∈ listeners.ids), { listeners with ids := listeners.ids.filter (· ≠ id) })

/-- The deliveries of an event, as the number of the listener and the event. -/
def deliveries (listeners : Listeners) (event : NodeEvent) : List (Nat × NodeEvent) :=
  listeners.ids.map fun id => (id, event)

end Listeners

end ShutterGateway
