import ShutterGateway.Proofs.CommandLine.Results
import ShutterGateway.Proofs.Completion

/-!
Commands that are carried out one after another. Each of them is submitted to the processor when the
one before has come back, and it comes back as what the first answer to its ticket makes of it. What
happens in between is left open: frames arrive, the connection is lost and made again, time passes,
and the processor takes its turns. Nobody else submits a command, and nobody asks for the end.
-/

namespace ShutterGateway

open Processor

/-- A step in which nobody submits a command or asks for the end. -/
def Processor.Step.IsQuiet : Step → Prop
  | .event (.submit _ _) | .event .terminate => False
  | _ => True

namespace CommandLine

/-- A command that was carried out, and as what it came back. -/
structure Execution where
  command : Command
  done : Command

/-- What waiting for a command leads to when its handle has got the answers that a processor has
given to its ticket in some steps from its start. -/
def awaited (config : Config) (epoch : UnixTime) (steps : List Step) (ticket : Nat)
    (command : Command) : Awaited :=
  Completion.wait <|
    ((answers (run config steps (State.start config epoch).1).2).filter (·.ticket = ticket)).foldl
      (fun completion answer => answer.deliver completion) { submitted := command }

/-- Some commands have been carried out one after another in the steps of a processor from its
start. The ticket of each is the number of those before. -/
inductive Converses (config : Config) (epoch : UnixTime) : List Step → List Execution → Prop where
  | start {steps : List Step} (quiet : ∀ step ∈ steps, step.IsQuiet) :
    Converses config epoch steps []
  | next {steps more : List Step} {log : List Execution} {command done : Command}
    (before : Converses config epoch steps log) (quiet : ∀ step ∈ more, step.IsQuiet)
    (back : awaited config epoch (steps ++ .event (.submit log.length command) :: more)
      log.length command = .returned done) :
    Converses config epoch (steps ++ .event (.submit log.length command) :: more)
      (log ++ [⟨command, done⟩])

/-- In the steps of a processor some commands have come back, and the next is waited for. -/
def Awaits (config : Config) (epoch : UnixTime) (log : List Execution) (command : Command)
    (steps : List Step) : Prop :=
  ∃ before more, steps = before ++ .event (.submit log.length command) :: more
    ∧ (∀ step ∈ more, step.IsQuiet) ∧ Converses config epoch before log
    ∧ awaited config epoch steps log.length command = .later

/-- Whatever has been carried out before, a command comes back from a processor and leaves a sound
world behind, or it sticks. -/
def Serves {σ : Type} (execute : Command → OptionT (StateM σ) Command)
    (Sound : List Execution → σ → Prop) (Sticks : List Execution → Command → σ → Prop)
    (command : Command) : Prop :=
  ∀ log world, Sound log world →
    match (execute command).run world with
    | (some done, later) => ComesBackAs command done ∧ Sound (log ++ [⟨command, done⟩]) later
    | (none, later) => Sticks log command later

section

variable {config : Config} {epoch : UnixTime} {steps more : List Step} {log : List Execution}
  {ticket : Nat} {command done : Command}

/-! ## Waiting -/

/-- The first answer makes the difference. -/
theorem wait_deliverAll (command : Command) (given : List Answer) :
    Completion.wait
        (given.foldl (fun completion answer => answer.deliver completion) { submitted := command })
      = (given.head?.map fun answer =>
          (answer.deliver { submitted := command }).wait).getD .later := by
  cases given with
  | nil => rfl
  | cons answer rest =>
    have first := (@Completion.Stands.empty command).deliver answer
    rw [Option.none_or] at first
    exact ((first.deliverAll rest).wait_eq rfl).trans (first.wait_eq rfl).symm

theorem awaited_eq :
    awaited config epoch steps ticket command
      = (((answers (run config steps (State.start config epoch).1).2).find?
          (·.ticket = ticket)).map fun answer =>
            (answer.deliver { submitted := command }).wait).getD .later := by
  rw [awaited, wait_deliverAll, List.head?_filter]

/-- What has come back stays as it is. -/
theorem awaited_append (back : awaited config epoch steps ticket command = .returned done)
    (more : List Step) : awaited config epoch (steps ++ more) ticket command = .returned done := by
  rw [awaited_eq] at back ⊢
  rw [answers_run_append, List.find?_append]
  cases hfirst : (answers (run config steps (State.start config epoch).1).2).find?
      (·.ticket = ticket) with
  | none =>
    rw [hfirst] at back
    cases back
  | some answer =>
    rw [hfirst] at back
    exact back

/-! ## Tickets -/

theorem Converses.quietly (h : Converses config epoch steps log)
    (quiet : ∀ step ∈ more, step.IsQuiet) : Converses config epoch (steps ++ more) log := by
  cases h with
  | start before => exact .start (List.forall_mem_append.mpr ⟨before, quiet⟩)
  | next before others back =>
    have later := awaited_append back more
    rw [List.append_assoc] at later ⊢
    exact .next before (List.forall_mem_append.mpr ⟨others, quiet⟩) later

/-- The tickets that were given out are the numbers of the commands before. -/
theorem Converses.ticket_lt (h : Converses config epoch steps log)
    (member : .event (.submit ticket command) ∈ steps) : ticket < log.length := by
  induction h with
  | start quiet => exact (quiet _ member).elim
  | next before quiet back ih =>
    rw [List.length_append, List.length_singleton]
    rcases List.mem_append.mp member with member | member
    · exact Nat.lt_succ_of_lt (ih member)
    · rcases List.mem_cons.mp member with same | member
      · cases same
        exact Nat.lt_succ_self _
      · exact (quiet _ member).elim

/-- Under the next ticket no other command is submitted than the next. -/
theorem Converses.alone {submitted : Command} (h : Converses config epoch steps log)
    (quiet : ∀ step ∈ more, step.IsQuiet)
    (member : .event (.submit log.length submitted)
      ∈ steps ++ .event (.submit log.length command) :: more) : submitted = command := by
  rcases List.mem_append.mp member with member | member
  · exact absurd (h.ticket_lt member) (Nat.lt_irrefl _)
  · rcases List.mem_cons.mp member with same | member
    · cases same
      rfl
    · exact (quiet _ member).elim

/-- Nothing has been answered under the next ticket before it is given out. -/
theorem Converses.awaited_next (h : Converses config epoch steps log) (more : List Step)
    (command : Command) :
    awaited config epoch (steps ++ more) log.length command
      = Completion.wait
          (((answers (run config more (reached config epoch steps)).2).filter
            (·.ticket = log.length)).foldl
              (fun completion answer => answer.deliver completion) { submitted := command }) := by
  have hfresh : (answers (run config steps (State.start config epoch).1).2).filter
      (·.ticket = log.length) = [] := by
    refine List.filter_eq_nil_iff.mpr fun answer member same => ?_
    have hmember : answer
        ∈ answers ((State.start config epoch).andThen (run config steps)).2 := by
      rw [Reaction.andThen, answers_append]
      exact List.mem_append_right _ member
    obtain ⟨submitted, hsubmitted, -⟩ := traced_answers config epoch steps answer hmember
    have hlt := h.ticket_lt hsubmitted
    rw [of_decide_eq_true same] at hlt
    exact Nat.lt_irrefl _ hlt
  rw [awaited, answers_run_append, List.filter_append, hfresh, List.nil_append]
  rfl

end

end CommandLine

end ShutterGateway
