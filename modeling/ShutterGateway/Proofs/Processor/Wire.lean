import ShutterGateway.Proofs.Command.Packing
import ShutterGateway.Proofs.Link.Login
import ShutterGateway.Proofs.Processor.Lineage
import ShutterGateway.Proofs.Processor.Order

/-!
What a processor puts on the wire. Every frame that it hands to the connection is the frame of a
command, the login included, so that writing it cannot fail for its size. No command comes back to
its caller because its request was too large.
-/

namespace ShutterGateway.Processor

section

variable {config : Config} {state : State} {reaction : Reaction} {steps : List Step}

/-- No login is too large to be sent. -/
theorem start_ne_size {password : String} (fault : FrameError) :
    Login.start password ≠ .error (.authRejected (.frame fault)) := by
  unfold Login.start
  intro h
  split at h
  · rename_i error hbuilt
    cases h
    unfold Command.login? at hbuilt
    split at hbuilt <;> cases hbuilt
  · split at h
    · rename_i hrefused
      cases h
      exact Command.frame?_ne_size _ fault hrefused
    · cases h

/-- Some frames are those of commands. -/
def Framed (frames : List Frame) : Prop :=
  ∀ frame ∈ frames, ∃ command : Command, command.frame? = .ok frame

theorem framed_nil : Framed [] := List.forall_mem_nil _

/-- The frame of the attempt that is out is that of its command. -/
theorem framed_flight {frame : Frame} (h : .ok frame ∈ state.flight) :
    ∃ command : Command, command.frame? = .ok frame := by
  rw [State.flight, Option.mem_toList, Option.map_eq_some_iff] at h
  obtain ⟨attempt, -, hframe⟩ := h
  exact ⟨attempt.command, hframe⟩

/-- What is settled by the end of attempts is their frames. -/
theorem framed_ended {settled : List (Except CommandError Frame)} {ended : List Command}
    (h : List.Forall₂ EndsAs settled ended) {frame : Frame} (member : .ok frame ∈ settled) :
    ∃ command : Command, command.frame? = .ok frame := by
  obtain ⟨command, -, ends⟩ := exists_paid_of_mem h member
  exact ⟨_, ends.frame?⟩

/-- A request that is handed over is that of an attempt, which is over at once or out. -/
theorem framed_requests (step : Step) (sound : state.Sound) :
    Framed (Moment.of config state step).requests := by
  intro frame member
  obtain ⟨settled, hall, hsettled⟩ := flight_moment config state step sound
  have hframe : .ok frame ∈ settled ++ (Moment.of config state step).after.flight := by
    rw [← hall]
    exact List.mem_append_right _ (List.mem_map_of_mem member)
  rcases List.mem_append.mp hframe with hframe | hframe
  · exact framed_ended hsettled hframe
  · exact framed_flight hframe

/-- While a connection is being made only the login goes out. -/
theorem framed_connecting {outage : Outage} {deadline : Instant} {result? : Option Bool}
    (mode : state.mode = .offline outage (.connecting deadline result?))
    (h : Turns config state reaction) : Framed (sent reaction.2) := by
  cases h with
  | stop =>
    rw [sent_stop]
    exact framed_nil
  | reject =>
    rw [sent_finish]
    exact framed_nil
  | logIn running mode start =>
    intro frame member
    obtain rfl := List.mem_singleton.mp member
    exact ⟨_, Login.frame?_of_start start⟩
  | failAttempt =>
    rw [(withdraws_failAttempt config _ _ state).sent]
    exact framed_nil
  | _ => cases mode.symm.trans (by assumption)

theorem framed_moment (step : Step) (sound : state.Sound) :
    Framed (sent (Moment.of config state step).effects) := by
  have hrequests : Framed (Moment.of config state step).requests := framed_requests step sound
  unfold Moment.requests requests at hrequests
  split at hrequests
  · rename_i mode
    cases step with
    | event event =>
      have hsilent : sent (Moment.of config state (.event event)).effects = [] :=
        (occur_keeps event state).2.2
      rw [hsilent]
      exact framed_nil
    | turn =>
      cases h : state.turn? config with
      | none =>
        rw [moment_of_no_turn h]
        exact framed_nil
      | some reaction =>
        rw [moment_of_turn h]
        exact framed_connecting mode (turns_of_turn h)
  · exact hrequests

/-- Over every run, each frame that is handed over is the frame of a command. -/
theorem framed_sent (config : Config) (epoch : UnixTime) (steps : List Step) :
    Framed (sent ((State.start config epoch).andThen (run config steps)).2) := by
  have withdraws := withdraws_start config epoch
  have moments := (run_keeps (sound_moment config) steps withdraws.resumes.sound).1
  intro frame member
  rw [Reaction.andThen, sent_append, withdraws.sent, List.nil_append, effects_run, sent,
    List.filterMap_flatMap] at member
  obtain ⟨moment, hmoment, hframe⟩ := List.mem_flatMap.mp member
  obtain ⟨sound, hof⟩ := moments moment hmoment
  rw [hof] at hframe
  exact framed_moment moment.step sound frame hframe

/-- A command that came back did not fail because it was too large to be sent, unless it was
submitted so. -/
theorem Develops.error?_of_frame {command later : Command} {fault : FrameError}
    (h : Develops command later) (failed : later.error? = some (.frame fault)) :
    command.error? = some (.frame fault) := by
  rcases h.error?_cases failed with before | understood | own
  · exact before
  · cases understood
  · cases own

/-- The processor has no job that it cannot send. -/
theorem State.Fit.sendable {job : Job} (fit : state.Fit)
    (h : job ∈ state.queue ∨ state.mode.activity?.bind Activity.job? = some job) :
    Sendable job.command.kind := by
  rcases h with waits | runs
  · exact (fit.queue job waits).sendable
  · obtain ⟨activity, hactivity, hjob⟩ := Option.bind_eq_some_iff.mp runs
    cases mode : state.mode with
    | offline outage stage =>
      rw [mode] at hactivity
      cases hactivity
    | stopped =>
      rw [mode] at hactivity
      cases hactivity
    | online link refresh present =>
      rw [mode] at hactivity
      obtain rfl := Option.some.inj hactivity
      have fitting := (fit.online mode).2.2
      cases present with
      | idle => cases hjob
      | checking attempt => cases hjob
      | running running retries attempt =>
        obtain rfl := Option.some.inj hjob
        exact fitting.1.sendable
      | pausing pausing retries resume =>
        obtain rfl := Option.some.inj hjob
        exact fitting.sendable

end

/-- **Every command fits the wire.**

* Whatever a command asks for, whatever session it has and whatever it has been through, no write
  of its packing leaves the buffer. It has a frame, which is no larger than the table of exchanges
  and the wire format allow, and which is read back from the wire with the opcode of the request and
  the payload that was packed. The command that ends the processor alone is refused, by name.
* Whatever happens to a processor, every job that it has is for a command with a frame, and every
  frame that it hands to the connection is one of a command that goes over the wire in this way. No
  login is given up because it was too large.
* A caller who waits for a command gets it with an error of size only if the command was submitted
  with this error. If all commands are submitted as they were built, then none comes back so. -/
theorem every_command_fits_the_wire (config : Config) (epoch : UnixTime) (steps : List Step) :
    let state := reached config epoch steps
    let effects := ((State.start config epoch).andThen (run config steps)).2
    (∀ command : Command,
      command.pack = .ok command.payload
        ∧ (command.kind ≠ .terminate → ∃ frame, command.Travels frame)
        ∧ (command.kind = .terminate →
          command.frame? = .error (.invalidParameter (.neverSent .terminate))))
    ∧ (∀ job, job ∈ state.queue ∨ state.mode.activity?.bind Activity.job? = some job →
        ∃ frame, job.command.Travels frame)
    ∧ (∀ frame ∈ sent effects, ∃ command : Command, command.Travels frame)
    ∧ (∀ fault, Login.start config.password ≠ .error (.authRejected (.frame fault)))
    ∧ (∀ answer ∈ answers effects, ∃ submitted,
        .event (.submit answer.ticket submitted) ∈ steps
          ∧ ∀ command fault, (answer.deliver { submitted := submitted }).wait = .returned command →
            command.error? = some (.frame fault) → submitted.error? = some (.frame fault))
    ∧ ((∀ ticket submitted, .event (.submit ticket submitted) ∈ steps → submitted.Built) →
        ∀ answer ∈ answers effects, ∀ command fault, answer.command? = some command →
          command.error? ≠ some (.frame fault)) := by
  intro state effects
  have traced := traced_answers config epoch steps
  refine ⟨?_, ?_, ?_, ?_, ?_, ?_⟩
  · intro command
    exact ⟨command.pack_eq, Command.exists_travels, Command.frame?_of_terminate⟩
  · intro job h
    exact Command.exists_travels ((fit_reached config epoch steps).sendable h).ne_terminate
  · intro frame member
    obtain ⟨command, hframe⟩ := framed_sent config epoch steps frame member
    exact ⟨command, Command.travels_of_frame? hframe⟩
  · intro fault
    exact start_ne_size fault
  · intro answer member
    obtain ⟨submitted, hsubmitted, develops⟩ := (traced answer member).of_wait
    refine ⟨submitted, hsubmitted, ?_⟩
    intro command fault returned failed
    exact (develops command returned).error?_of_frame failed
  · intro built answer member command fault hcommand failed
    obtain ⟨submitted, hsubmitted, develops⟩ := traced answer member
    have hfailed := (develops command hcommand).error?_of_frame failed
    -- A command that was just built has not failed.
    rw [(built _ submitted hsubmitted).eq_pristine] at hfailed
    cases hfailed

end ShutterGateway.Processor
