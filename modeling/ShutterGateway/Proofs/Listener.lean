import Mathlib.Data.List.Induction
import ShutterGateway.Listener

/-!
Who gets to know of an event. Whatever is done to the listeners is a list of acts, with those who
come and go between any two events. `Registered` says from the acts alone who is registered: whoever
came, and has not gone since. The listeners are those, whatever was done before
(`enrolled_after`), so every event goes to them (`delivered_eq_tellings`).
-/

namespace ShutterGateway.Listeners

/-- What is done to listeners. -/
inductive Act where
  | register
  | unregister (id : Nat)
  /-- Those who are registered at the moment are told about an event. -/
  | tell (event : NodeEvent)
  deriving DecidableEq

namespace Act

/-- The event of which an act tells. -/
def event? : Act → Option NodeEvent
  | .tell event => some event
  | _ => none

/-- What an act delivers. -/
def deliveries (listeners : Listeners) : Act → List (Nat × NodeEvent)
  | .tell event => listeners.deliveries event
  | _ => []

end Act

/-- The listeners after an act. -/
def act (listeners : Listeners) : Act → Listeners
  | .register => listeners.register.2
  | .unregister id => (listeners.unregister id).2
  | .tell _ => listeners

/-- The listeners after some acts, when there was none before. -/
def after (acts : List Act) : Listeners :=
  acts.foldl act {}

/-- What some acts deliver, in its order. -/
def delivered (listeners : Listeners) : List Act → List (Nat × NodeEvent)
  | [] => []
  | act :: rest => act.deliveries listeners ++ (listeners.act act).delivered rest

/-- The events of some acts, each with everything that was done before. -/
def tellings (past : List Act) : List Act → List (List Act × NodeEvent)
  | [] => []
  | act :: rest => act.event?.toList.map (Prod.mk past) ++ tellings (past ++ [act]) rest

/-- A listener has come, as the one with this number, and has not gone since. The numbers count
those who have come. -/
def Registered (acts : List Act) (id : Nat) : Prop :=
  ∃ earlier later, acts = earlier ++ .register :: later ∧ id = earlier.count .register
    ∧ .unregister id ∉ later

/-! ## What is delivered -/

theorem after_concat (acts : List Act) (act : Act) :
    after (acts ++ [act]) = (after acts).act act := by
  rw [after, List.foldl_append]
  rfl

theorem events_tellings (past acts : List Act) :
    (tellings past acts).map Prod.snd = acts.filterMap Act.event? := by
  induction acts generalizing past with
  | nil => rfl
  | cons act rest ih =>
    rw [tellings, List.map_append, ih]
    cases act <;> rfl

/-- Each event goes to those who are registered when it is told. -/
theorem delivered_eq_tellings (past acts : List Act) :
    (after past).delivered acts
      = (tellings past acts).flatMap fun telling =>
          (after telling.1).ids.map fun id => (id, telling.2) := by
  induction acts generalizing past with
  | nil => rfl
  | cons act rest ih =>
    rw [delivered, ← after_concat, ih, tellings, List.flatMap_append]
    congr 1
    cases act with
    | tell event => exact (List.append_nil _).symm
    | register | unregister => rfl

/-! ## Who is registered -/

theorem registered_concat {acts : List Act} {act : Act} {id : Nat} :
    Registered (acts ++ [act]) id
      ↔ (act = .register ∧ id = acts.count .register)
        ∨ Registered acts id ∧ act ≠ .unregister id := by
  constructor
  · rintro ⟨earlier, later, hacts, hid, hstays⟩
    rcases List.eq_nil_or_concat later with rfl | ⟨later, last, rfl⟩
    · obtain ⟨rfl, hlast⟩ := List.append_inj' hacts rfl
      exact .inl ⟨List.singleton_inj.mp hlast, hid⟩
    · rw [List.concat_eq_append] at hacts hstays
      rw [← List.cons_append, ← List.append_assoc] at hacts
      obtain ⟨rfl, hlast⟩ := List.append_inj' hacts rfl
      obtain rfl := List.singleton_inj.mp hlast
      rw [List.mem_append, List.mem_singleton, not_or] at hstays
      exact .inr ⟨⟨earlier, later, rfl, hid, hstays.1⟩, Ne.symm hstays.2⟩
  · rintro (⟨rfl, hid⟩ | ⟨⟨earlier, later, rfl, hid, hstays⟩, hlast⟩)
    · exact ⟨acts, [], rfl, hid, List.not_mem_nil⟩
    · refine ⟨earlier, later ++ [act], by simp, hid, ?_⟩
      rw [List.mem_append, List.mem_singleton, not_or]
      exact ⟨hstays, Ne.symm hlast⟩

/-- The listeners after some acts: those who have come and not gone, in the order in which they
came. The next one gets a number that nobody had. -/
structure Enrolled (acts : List Act) (listeners : Listeners) : Prop where
  next : listeners.next = acts.count .register
  ordered : listeners.ids.Pairwise (· < ·)
  early : ∀ id ∈ listeners.ids, id < listeners.next
  registered : ∀ id, id ∈ listeners.ids ↔ Registered acts id

section

variable {acts : List Act} {listeners : Listeners}

theorem Enrolled.register (enrolled : Enrolled acts listeners) :
    Enrolled (acts ++ [.register]) listeners.register.2 := by
  obtain ⟨hnext, hordered, hearly, hregistered⟩ := enrolled
  refine ⟨?_, ?_, ?_, fun id => ?_⟩
  · simp [Listeners.register, hnext]
  · rw [Listeners.register, List.pairwise_append]
    refine ⟨hordered, List.pairwise_singleton .., fun id member last hlast => ?_⟩
    rw [List.mem_singleton.mp hlast]
    exact hearly id member
  · intro id member
    rcases List.mem_append.mp member with member | member
    · exact Nat.lt_succ_of_lt (hearly id member)
    · rw [List.mem_singleton.mp member]
      exact Nat.lt_succ_self _
  · have hkeeps : Act.register ≠ .unregister id := nofun
    rw [registered_concat, Listeners.register, List.mem_append, List.mem_singleton, hregistered,
      hnext, or_comm, eq_self, true_and, and_iff_left hkeeps]

theorem Enrolled.unregister (enrolled : Enrolled acts listeners) (gone : Nat) :
    Enrolled (acts ++ [.unregister gone]) (listeners.unregister gone).2 := by
  obtain ⟨hnext, hordered, hearly, hregistered⟩ := enrolled
  refine ⟨?_, hordered.filter _, fun id member => ?_, fun id => ?_⟩
  · simp [Listeners.unregister, hnext]
  · exact hearly id (List.mem_filter.mp member).1
  · have hstays : Act.unregister gone ≠ .unregister id ↔ id ≠ gone := by
      rw [ne_eq, Act.unregister.injEq, eq_comm]
    rw [registered_concat, Listeners.unregister, List.mem_filter, hregistered, hstays]
    simp

theorem Enrolled.tell (enrolled : Enrolled acts listeners) (event : NodeEvent) :
    Enrolled (acts ++ [.tell event]) listeners := by
  obtain ⟨hnext, hordered, hearly, hregistered⟩ := enrolled
  refine ⟨?_, hordered, hearly, fun id => ?_⟩
  · simp [hnext]
  · rw [registered_concat, hregistered]
    simp

theorem Enrolled.act (enrolled : Enrolled acts listeners) (act : Act) :
    Enrolled (acts ++ [act]) (listeners.act act) := by
  cases act with
  | register => exact enrolled.register
  | unregister gone => exact enrolled.unregister gone
  | tell event => exact enrolled.tell event

end

theorem enrolled_after (acts : List Act) : Enrolled acts (after acts) := by
  induction acts using List.reverseRecOn with
  | nil => exact ⟨rfl, .nil, nofun, by simp [Registered, after]⟩
  | append_singleton acts act ih =>
    rw [after_concat]
    exact ih.act act

/-- Whoever unregisters was registered, or is told that it was not. -/
theorem unregister_after (acts : List Act) (id : Nat) :
    ((after acts).unregister id).1 = true ↔ Registered acts id := by
  rw [Listeners.unregister, decide_eq_true_iff]
  exact (enrolled_after acts).registered id

end ShutterGateway.Listeners
