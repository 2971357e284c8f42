import Mathlib.Data.List.Forall2
import Mathlib.Data.List.Induction
import ShutterGateway.Processor.Turn

/-!
A run looked at moment by moment. A moment is one step of a run, with the states around it and the
effects of the step. What a run does to the outside is what its moments do, and an account that is
kept by every single step is kept by the run: what was held at the start and what came in is what
was settled, in the same order, and what is held at the end.
-/

namespace ShutterGateway.Processor

/-! ## Effects -/

/-- A command that a caller has submitted, and the caller's ticket. -/
structure Call where
  ticket : Nat
  command : Command
  deriving DecidableEq

/-- What the holder of a ticket gets: a command, or the news that nobody will answer. -/
structure Answer where
  ticket : Nat
  command? : Option Command
  deriving DecidableEq

namespace Effect

/-- The frame that goes to the connection. -/
def frame? : Effect → Option Frame
  | .send frame => some frame
  | _ => none

/-- What goes to a caller. -/
def answer? : Effect → Option Answer
  | .answer ticket command => some ⟨ticket, some command⟩
  | .abandon ticket => some ⟨ticket, none⟩
  | _ => none

end Effect

/-- The frames that some effects hand to the connection. -/
def sent (effects : List Effect) : List Frame :=
  effects.filterMap Effect.frame?

/-- What callers get by some effects. -/
def answers (effects : List Effect) : List Answer :=
  effects.filterMap Effect.answer?

@[simp] theorem sent_nil : sent [] = [] := rfl

@[simp] theorem answers_nil : answers [] = [] := rfl

@[simp] theorem sent_append (a b : List Effect) : sent (a ++ b) = sent a ++ sent b :=
  List.filterMap_append

@[simp] theorem answers_append (a b : List Effect) : answers (a ++ b) = answers a ++ answers b :=
  List.filterMap_append

/-- An effect that no one but the listeners and the connection maker see. -/
def Effect.IsQuiet (effect : Effect) : Prop :=
  effect.frame? = none ∧ effect.answer? = none

theorem sent_of_quiet {effects : List Effect} (h : ∀ effect ∈ effects, effect.IsQuiet) :
    sent effects = [] :=
  List.filterMap_eq_nil_iff.mpr fun effect member => (h effect member).1

theorem answers_of_quiet {effects : List Effect} (h : ∀ effect ∈ effects, effect.IsQuiet) :
    answers effects = [] :=
  List.filterMap_eq_nil_iff.mpr fun effect member => (h effect member).2

/-! ## Accounts -/

/-- What is settled is settled by something that is paid. -/
theorem exists_paid_of_mem {α β : Type} {Settles : α → β → Prop} {settled : List α} {paid : List β}
    (h : List.Forall₂ Settles settled paid) {item : α} (member : item ∈ settled) :
    ∃ payment ∈ paid, Settles item payment := by
  induction h with
  | nil => cases member
  | cons settles _ ih =>
    rcases List.mem_cons.mp member with rfl | member
    · exact ⟨_, List.mem_cons_self, settles⟩
    · obtain ⟨payment, there, settles⟩ := ih member
      exact ⟨payment, List.mem_cons_of_mem _ there, settles⟩

/-- What is paid settles something. -/
theorem exists_settled_of_mem {α β : Type} {Settles : α → β → Prop} {settled : List α}
    {paid : List β} (h : List.Forall₂ Settles settled paid) {payment : β}
    (member : payment ∈ paid) : ∃ item ∈ settled, Settles item payment :=
  exists_paid_of_mem h.flip member

/-- The first of what is owed are settled by what is paid, one by one and in this order, and the
others are left. -/
def Discharges {α β : Type} (Settles : α → β → Prop) (owed : List α) (paid : List β)
    (left : List α) : Prop :=
  ∃ settled, owed = settled ++ left ∧ List.Forall₂ Settles settled paid

namespace Discharges

variable {α β : Type} {Settles : α → β → Prop} {owed left left' more : List α}
  {paid paid' : List β}

theorem refl (owed : List α) : Discharges Settles owed [] owed :=
  ⟨[], rfl, .nil⟩

theorem trans (first : Discharges Settles owed paid left)
    (second : Discharges Settles (left ++ more) paid' left') :
    Discharges Settles (owed ++ more) (paid ++ paid') left' := by
  obtain ⟨settled, rfl, hsettled⟩ := first
  obtain ⟨settled', hleft, hsettled'⟩ := second
  refine ⟨settled ++ settled', ?_, List.rel_append hsettled hsettled'⟩
  rw [List.append_assoc, hleft, List.append_assoc]

/-- Something can be settled before anything else. -/
theorem prepend {item : α} {payment : β} (settles : Settles item payment)
    (h : Discharges Settles owed paid left) :
    Discharges Settles (item :: owed) (payment :: paid) left := by
  obtain ⟨settled, rfl, hsettled⟩ := h
  exact ⟨item :: settled, rfl, .cons settles hsettled⟩

theorem length_eq (h : Discharges Settles owed paid left) :
    owed.length = paid.length + left.length := by
  obtain ⟨settled, rfl, hsettled⟩ := h
  rw [List.length_append, hsettled.length_eq]

/-- What settles itself is what is owed first. -/
theorem eq_iff {items : List α} : Discharges Eq owed items left ↔ owed = items ++ left := by
  constructor
  · rintro ⟨settled, rfl, hsettled⟩
    rw [List.forall₂_eq_eq_eq] at hsettled
    rw [hsettled]
  · intro h
    refine ⟨items, h, ?_⟩
    rw [List.forall₂_eq_eq_eq]

end Discharges

/-! ## Moments -/

/-- A step of a run with the states around it and its effects. -/
structure Moment where
  before : State
  step : Step
  effects : List Effect
  after : State

/-- The moment of a step. -/
def Moment.of (config : Config) (state : State) (step : Step) : Moment where
  before := state
  step := step
  effects := (step.take config state).2
  after := (step.take config state).1

/-- The moments of a run. -/
def moments (config : Config) : List Step → State → List Moment
  | [], _ => []
  | step :: rest, state =>
    .of config state step :: moments config rest (Moment.of config state step).after

/-- The state of a processor after some steps from its start. -/
def reached (config : Config) (epoch : UnixTime) (steps : List Step) : State :=
  (run config steps (State.start config epoch).1).1

/-- The moments of a processor from its start. -/
def history (config : Config) (epoch : UnixTime) (steps : List Step) : List Moment :=
  moments config steps (State.start config epoch).1

section

variable {config : Config}

@[simp] theorem state_run_cons (step : Step) (rest : List Step) (state : State) :
    (run config (step :: rest) state).1
      = (run config rest (Moment.of config state step).after).1 := rfl

@[simp] theorem effects_run_cons (step : Step) (rest : List Step) (state : State) :
    (run config (step :: rest) state).2
      = (Moment.of config state step).effects
        ++ (run config rest (Moment.of config state step).after).2 := rfl

/-- A run does what its moments do. -/
theorem effects_run (steps : List Step) (state : State) :
    (run config steps state).2 = (moments config steps state).flatMap Moment.effects := by
  induction steps generalizing state with
  | nil => rfl
  | cons step rest ih =>
    rw [effects_run_cons, ih, moments, List.flatMap_cons]

theorem state_run_append (first second : List Step) (state : State) :
    (run config (first ++ second) state).1 = (run config second (run config first state).1).1 := by
  induction first generalizing state with
  | nil => rfl
  | cons step rest ih => exact ih _

theorem moments_append (first second : List Step) (state : State) :
    moments config (first ++ second) state
      = moments config first state ++ moments config second (run config first state).1 := by
  induction first generalizing state with
  | nil => rfl
  | cons step rest ih => exact congrArg _ (ih _)

theorem map_step_moments (steps : List Step) (state : State) :
    (moments config steps state).map Moment.step = steps := by
  induction steps generalizing state with
  | nil => rfl
  | cons step rest ih => exact congrArg (step :: ·) (ih _)

theorem state_run_concat (steps : List Step) (step : Step) (state : State) :
    (run config (steps ++ [step]) state).1
      = (Moment.of config (run config steps state).1 step).after :=
  state_run_append steps [step] state

theorem moments_concat (steps : List Step) (step : Step) (state : State) :
    moments config (steps ++ [step]) state
      = moments config steps state ++ [.of config (run config steps state).1 step] :=
  moments_append steps [step] state

theorem history_concat (epoch : UnixTime) (steps : List Step) (step : Step) :
    history config epoch (steps ++ [step])
      = history config epoch steps ++ [.of config (reached config epoch steps) step] :=
  moments_concat ..

theorem reached_concat (epoch : UnixTime) (steps : List Step) (step : Step) :
    reached config epoch (steps ++ [step])
      = (Moment.of config (reached config epoch steps) step).after :=
  state_run_concat ..

/-- What holds at the start and is kept by every further step holds after any history. -/
theorem history_induction {Holds : List Moment → State → Prop} (config : Config)
    (epoch : UnixTime) (steps : List Step) (start : Holds [] (State.start config epoch).1)
    (next : ∀ past state step, Holds past state →
      Holds (past ++ [.of config state step]) (Moment.of config state step).after) :
    Holds (history config epoch steps) (reached config epoch steps) := by
  induction steps using List.reverseRecOn with
  | nil => exact start
  | append_singleton steps step ih =>
    rw [history_concat, reached_concat]
    exact next _ _ step ih

/-- What every step keeps holds before every moment of a run and after the run. -/
theorem run_keeps {Keeps : State → Prop}
    (keeps : ∀ state step, Keeps state → Keeps (Moment.of config state step).after)
    (steps : List Step) {state : State} (start : Keeps state) :
    (∀ moment ∈ moments config steps state,
        Keeps moment.before ∧ moment = .of config moment.before moment.step)
      ∧ Keeps (run config steps state).1 := by
  induction steps generalizing state with
  | nil => exact ⟨by simp [moments], start⟩
  | cons step rest ih =>
    obtain ⟨later, last⟩ := ih (keeps state step start)
    refine ⟨?_, last⟩
    intro moment member
    rcases List.mem_cons.mp member with rfl | member
    · exact ⟨start, rfl⟩
    · exact later moment member

/-- A run that stays within some states after each of its steps has been there before each. -/
theorem moments_within {Within : State → Prop} {steps : List Step} {state : State}
    (start : Within state) (stays : ∀ moment ∈ moments config steps state, Within moment.after) :
    (∀ moment ∈ moments config steps state, Within moment.before)
      ∧ Within (run config steps state).1 := by
  induction steps generalizing state with
  | nil => exact ⟨by simp [moments], start⟩
  | cons step rest ih =>
    obtain ⟨first, later⟩ := List.forall_mem_cons.mp stays
    obtain ⟨before, last⟩ := ih first later
    exact ⟨List.forall_mem_cons.mpr ⟨start, before⟩, last⟩

/-- An account that every step keeps is kept by a run. -/
theorem run_discharges {α β : Type} {Keeps : State → Prop} {Settles : α → β → Prop}
    (held : State → List α) (gained : Moment → List α) (paid : Moment → List β)
    (keeps : ∀ state step, Keeps state → Keeps (Moment.of config state step).after)
    (account : ∀ state step, Keeps state →
      Discharges Settles (held state ++ gained (.of config state step))
        (paid (.of config state step)) (held (Moment.of config state step).after))
    (steps : List Step) {state : State} (start : Keeps state) :
    Discharges Settles (held state ++ (moments config steps state).flatMap gained)
      ((moments config steps state).flatMap paid) (held (run config steps state).1) := by
  induction steps generalizing state with
  | nil =>
    show Discharges Settles (held state ++ []) [] (held state)
    rw [List.append_nil]
    exact .refl _
  | cons step rest ih =>
    -- What the first step leaves is what the others begin with.
    have first := account state step start
    have others := ih (keeps state step start)
    simpa [moments, List.append_assoc] using first.trans others

end

/-! ## A connection from its start -/

/-- A frame arrives, and the processor takes it. -/
def arrival (frame : Frame) : List Step := [.event (.arrive frame), .turn]

/-- The connection is made, and the gateway takes the password. -/
def loginSteps : List Step := [.event (.connected true), .turn] ++ arrival ⟨0x3001, [0]⟩

/-- What a gateway tells about its version. -/
def versionAnswer : Frame := ⟨0x0009, [0, 2, 0, 0, 71, 0, 6, 14, 3]⟩

/-- The gateway answers the requests of a refresh that passes over the nodes. The first of them is
for its version. -/
def refreshSteps (first : Frame) : List Step :=
  arrival first ++ arrival ⟨0x000b, [0, 3, 0, 18]⟩ ++ arrival ⟨0x2001, []⟩ ++ arrival ⟨0x0241, []⟩

end ShutterGateway.Processor
