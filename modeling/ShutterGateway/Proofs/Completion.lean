import Mathlib.Data.List.ReduceOption
import ShutterGateway.Proofs.Processor.Shutdown

/-!
Handles in use. A caller may look for a command at any moments, before and after the processor
answers or goes away, and may wait for it at last. Looking brings the command once and never goes
wrong, since it remembers that the slot was emptied. Waiting does not look at that: it is a fault
exactly if the command was taken before.
-/

namespace ShutterGateway

open Processor

namespace Completion

/-- What can happen to a handle. -/
inductive Deed where
  /-- The processor answers, or goes away without an answer. -/
  | deliver (answer : Answer)
  /-- The holder looks for the command. -/
  | tryTake

/-- What each look of some deeds brings, and the handle after them. -/
def handle (completion : Completion) : List Deed → List (Option Command) × Completion
  | [] => ([], completion)
  | .deliver answer :: rest => (answer.deliver completion).handle rest
  | .tryTake :: rest =>
    (completion.tryTake.1 :: (completion.tryTake.2.handle rest).1,
      (completion.tryTake.2.handle rest).2)

/-- What a submitted command comes back as by an answer. -/
def brought (submitted : Command) (answer : Answer) : Command :=
  answer.command?.getD (submitted.fail .shutdown)

/-- What a submitted command comes back as by the first answer, once there is one. -/
def arrived? (submitted : Command) : List Deed → Option Command
  | [] => none
  | .deliver answer :: _ => some (brought submitted answer)
  | .tryTake :: rest => arrived? submitted rest

/-- The handle of a submitted command by what the command has come back as, and by what was taken.
An empty slot that is not to be filled any more is that of a handle which knows it. -/
inductive Stands (submitted : Command) : Option Command → List Command → Completion → Prop where
  | empty : Stands submitted none [] { submitted := submitted }
  | answered (command : Command) :
    Stands submitted (some command) [] { submitted := submitted, slot := .answered command }
  | abandoned :
    Stands submitted (some (submitted.fail .shutdown)) []
      { submitted := submitted, slot := .abandoned }
  | taken (command : Command) :
    Stands submitted (some command) [command]
      { submitted := submitted, slot := .spent, taken := true }

namespace Stands

variable {submitted : Command} {back? : Option Command} {given : List Command}
  {completion : Completion}

/-- The first answer counts, and no other does. -/
theorem deliver (h : Stands submitted back? given completion) (answer : Answer) :
    Stands submitted (back?.or (some (brought submitted answer))) given
      (answer.deliver completion) := by
  obtain ⟨ticket, command?⟩ := answer
  cases h with
  | empty =>
    cases command? with
    | none => exact .abandoned
    | some command => exact .answered command
  | answered command => cases command? <;> exact .answered command
  | abandoned => cases command? <;> exact .abandoned
  | taken command => cases command? <;> exact .taken command

/-- When something has come back, no later answers make a difference. -/
theorem deliverAll {command : Command} (h : Stands submitted (some command) given completion)
    (answers : List Answer) :
    Stands submitted (some command) given
      (answers.foldl (fun completion answer => answer.deliver completion) completion) := by
  induction answers generalizing completion with
  | nil => exact h
  | cons answer rest ih => exact ih (h.deliver answer)

/-- A look brings the command that has come back, unless it was taken. -/
theorem tryTake_eq (h : Stands submitted back? given completion) :
    completion.tryTake.1 = if given = [] then back? else none := by
  cases h <;> rfl

theorem tryTake (h : Stands submitted back? given completion) :
    Stands submitted back? (given ++ completion.tryTake.1.toList) completion.tryTake.2 := by
  cases h with
  | empty => exact .empty
  | answered command => exact .taken command
  | abandoned => exact .taken (submitted.fail .shutdown)
  | taken command => exact .taken command

/-- What one deed keeps, many do. -/
theorem handle (h : Stands submitted back? given completion) (deeds : List Deed) :
    Stands submitted (back?.or (arrived? submitted deeds))
      (given ++ (completion.handle deeds).1.reduceOption) (completion.handle deeds).2 := by
  induction deeds generalizing back? given completion with
  | nil =>
    rw [arrived?, Option.or_none, Completion.handle, List.reduceOption_nil, List.append_nil]
    exact h
  | cons deed rest ih =>
    cases deed with
    | deliver answer =>
      -- Behind an answer it makes no difference what else arrives.
      have later := ih (h.deliver answer)
      rwa [Option.or_assoc, Option.some_or] at later
    | tryTake =>
      have later := ih h.tryTake
      rw [List.append_assoc] at later
      have htaken : completion.tryTake.1.toList
            ++ (completion.tryTake.2.handle rest).1.reduceOption
          = (completion.handle (.tryTake :: rest)).1.reduceOption := by
        rw [Completion.handle]
        cases completion.tryTake.1 with
        | none => exact (List.reduceOption_cons_of_none _).symm
        | some command => exact (List.reduceOption_cons_of_some command _).symm
      rwa [htaken] at later

/-- What was taken is what has come back. -/
theorem given_prefix (h : Stands submitted back? given completion) :
    given <+: back?.toList := by
  cases h with
  | taken command => exact List.prefix_refl _
  | _ => exact List.nil_prefix

theorem wait_eq_fault_iff (h : Stands submitted back? given completion) :
    completion.wait = .fault ↔ given ≠ [] := by
  cases h <;> simp [wait]

theorem wait_eq (h : Stands submitted back? given completion) (untaken : given = []) :
    completion.wait = (back?.map Awaited.returned).getD .later := by
  cases h with
  | taken command => cases untaken
  | _ => rfl

end Stands

/-! ## Processors that have gone -/

theorem command?_ne_none {calls : List Call} {given : List Answer}
    (h : List.Forall₂ Call.Returns calls given) : ∀ answer ∈ given, answer.command? ≠ none := by
  induction h with
  | nil => exact fun answer member => nomatch member
  | cons returns _ ih =>
    obtain ⟨-, command, hcommand, -⟩ := returns
    refine List.forall_mem_cons.mpr ⟨?_, ih⟩
    rw [hcommand]
    exact nofun

/-- Only what is submitted to a processor that has stopped is left without an answer. -/
theorem stopped_of_abandoned_moment {config : Config} {state : State} {step : Step} {ticket : Nat}
    (sound : state.Sound)
    (abandoned : ⟨ticket, none⟩ ∈ answers (Moment.of config state step).effects) :
    state.mode = .stopped := by
  cases step with
  | turn =>
    obtain ⟨settled, -, returns⟩ := owed_moment config state .turn sound
    exact absurd rfl (command?_ne_none returns ⟨ticket, none⟩ abandoned)
  | event event =>
    have others (h : ∀ submission command, event ≠ .submit submission command) :
        state.mode = .stopped := by
      change _ ∈ answers (state.occur event).2 at abandoned
      rw [(answers_occur state h).1] at abandoned
      cases abandoned
    cases event with
    | submit submission command =>
      change _ ∈ answers (state.submit submission command).2 at abandoned
      unfold State.submit at abandoned
      split at abandoned
      · cases List.mem_singleton.mp abandoned
      · cases List.mem_singleton.mp abandoned
      · split at abandoned
        · assumption
        · cases abandoned
    | _ => exact others fun _ _ => nofun

/-- A caller hears that nobody will answer only when the processor has gone. -/
theorem stopped_of_abandoned (config : Config) (epoch : UnixTime) (steps : List Step)
    {ticket : Nat}
    (abandoned : ⟨ticket, none⟩ ∈ answers (run config steps (State.start config epoch).1).2) :
    (reached config epoch steps).mode = .stopped := by
  induction steps using List.reverseRecOn with
  | nil => cases abandoned
  | append_singleton steps step ih =>
    rw [reached_concat]
    rw [effects_run, moments_concat, List.flatMap_append, ← effects_run, answers_append,
      List.mem_append] at abandoned
    have stopped : (reached config epoch steps).mode = .stopped := by
      rcases abandoned with earlier | now
      · exact ih earlier
      · rw [List.flatMap_singleton] at now
        exact stopped_of_abandoned_moment (history_clears config epoch steps).2.1 now
    exact (run_stopped config [step] stopped).1

/-- **A look never goes wrong, and waiting does exactly behind a look that brought the command.**
Whatever is delivered to the handle of a submitted command, and whenever its holder looks: the looks
bring the command at most once, and as what the first answer makes of it, which is the submitted
command failed by the shutdown only if the processor has gone. The next look brings it if it has
come back and was not taken, and waiting gives it, once it has come back, unless it was taken. -/
theorem wait_eq_fault_iff_taken (submitted : Command) (deeds : List Deed) :
    let (looks, completion) := handle { submitted := submitted } deeds
    let arrived := arrived? submitted deeds
    looks.reduceOption <+: arrived.toList
      ∧ completion.tryTake.1 = (if looks.reduceOption = [] then arrived else none)
      ∧ (completion.wait = .fault ↔ looks.reduceOption ≠ [])
      ∧ (looks.reduceOption = [] →
        completion.wait = (arrived.map Awaited.returned).getD .later)
      ∧ ∀ (config : Config) (epoch : UnixTime) (steps : List Step) (ticket : Nat),
        ⟨ticket, none⟩ ∈ answers (run config steps (State.start config epoch).1).2 →
          (reached config epoch steps).mode = .stopped := by
  have stands := (@Stands.empty submitted).handle deeds
  rw [Option.none_or, List.nil_append] at stands
  exact ⟨stands.given_prefix, stands.tryTake_eq, stands.wait_eq_fault_iff, stands.wait_eq,
    fun config epoch steps _ => stopped_of_abandoned config epoch steps⟩

/-- A look at a command that has not come back, an answer, and waiting; and a command that is
submitted after the end. -/
theorem wait_eq_fault_iff_taken_of_answer :
    let command : Command := { request := .setVelocity 3 .fast }
    let done : Command := { command with status := .complete }
    let config : Config := { hostname := "gateway", password := "secret" }
    let steps : List Step := [.event .terminate, .turn, .event (.submit 1 command)]
    (handle { submitted := command } [.tryTake, .deliver ⟨0, some done⟩]).2.wait = .returned done
      ∧ (reached config 0 steps).mode = .stopped := by
  intro command done config steps
  have facts := wait_eq_fault_iff_taken command [.tryTake, .deliver ⟨0, some done⟩]
  exact ⟨facts.2.2.2.1 rfl, facts.2.2.2.2 config 0 steps 1 (by decide +kernel)⟩

/-- Waiting for a command that a look has brought is a fault. -/
theorem wait_eq_fault_behind_tryTake :
    let command : Command := { request := .setVelocity 3 .fast }
    let done : Command := { command with status := .complete }
    let (looks, completion) :=
      handle { submitted := command } [.deliver ⟨0, some done⟩, .tryTake]
    looks = [some done] ∧ completion.wait = .fault :=
  ⟨rfl, rfl⟩

end Completion

end ShutterGateway
