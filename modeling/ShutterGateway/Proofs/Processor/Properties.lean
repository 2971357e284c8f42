import ShutterGateway.Proofs.Processor.Answers
import ShutterGateway.Proofs.Processor.Shutdown

/-!
What a processor knows about its gateway. It notes what a command has found out when the command is
over, and forgets nothing. So at every point of a run it knows what the last complete command of
each kind has told, whichever connection that was on.
-/

namespace ShutterGateway

/-- The command has told something about the gateway. -/
def Command.Tells (command : Command) : Prop :=
  command.status = .complete ∧ (command.kind = .getVersion ∨ command.kind = .getProtocol)

namespace Processor

/-! ## What commands tell -/

/-- The last of some commands that is complete and of a kind. -/
def lastComplete? (kind : CommandKind) (commands : List Command) : Option Command :=
  (commands.filter fun command => command.status = .complete ∧ command.kind = kind).getLast?

/-- What some commands have told about the gateway, a later one in the place of an earlier. -/
def Properties.told (commands : List Command) : Properties where
  version? := (lastComplete? .getVersion commands).bind (·.findings.version?)
  protocol? := (lastComplete? .getProtocol commands).bind (·.findings.protocol?)

/-! ## What is noted -/

/-- The commands that callers get by some effects. -/
def returned (effects : List Effect) : List Command :=
  (answers effects).filterMap Answer.command?

/-- The commands that are over in a moment: that of the attempt that ends, and those that callers
get. -/
def Moment.finished (config : Config) (moment : Moment) : List Command :=
  moment.ended config ++ returned moment.effects

/-- The command was complete when a caller submitted it. It may have got a session number since. -/
def CameComplete (steps : List Step) (command : Command) : Prop :=
  ∃ ticket submitted session?, .event (.submit ticket submitted) ∈ steps
    ∧ submitted.status = .complete ∧ command = { submitted with session? := session? }

/-- A job whose command is complete came so. -/
def Job.Recalled (steps : List Step) (job : Job) : Prop :=
  job.command.status = .complete → CameComplete steps job.command

/-- The jobs that a processor has and that are complete came so. -/
structure State.Recalls (steps : List Step) (state : State) : Prop where
  queue : ∀ job ∈ state.queue, job.Recalled steps
  activity : ∀ job, state.mode.activity?.bind Activity.job? = some job → job.Recalled steps

/-- A reaction by which nothing is noted but what callers get with their commands, and of these the
complete ones came complete. -/
structure Passes (steps : List Step) (state : State) (reaction : Reaction) : Prop where
  told : ∀ earlier, state.properties = .told earlier →
    reaction.1.properties = .told (earlier ++ returned reaction.2)
  came : ∀ command ∈ returned reaction.2, command.status = .complete → CameComplete steps command

section

variable {kind : CommandKind} {earlier commands : List Command} {command : Command}

theorem lastComplete?_append (earlier commands : List Command) :
    lastComplete? kind (earlier ++ commands)
      = (lastComplete? kind commands).or (lastComplete? kind earlier) := by
  rw [lastComplete?, List.filter_append, List.getLast?_append]
  rfl

theorem lastComplete?_cons_of_not (rest : List Command)
    (h : ¬ (command.status = .complete ∧ command.kind = kind)) :
    lastComplete? kind (command :: rest) = lastComplete? kind rest := by
  rw [lastComplete?, List.filter_cons_of_neg (by simpa using h)]
  rfl

theorem lastComplete?_eq_none :
    lastComplete? kind commands = none
      ↔ ¬ ∃ command ∈ commands, command.status = .complete ∧ command.kind = kind := by
  simp [lastComplete?]

/-- A command that is there twice tells the same as if it were there once. -/
theorem lastComplete?_cons_cons (command : Command) (rest : List Command) :
    lastComplete? kind (command :: command :: rest) = lastComplete? kind (command :: rest) := by
  by_cases h : command.status = .complete ∧ command.kind = kind
  · rw [lastComplete?, List.filter_cons_of_pos (by simpa using h),
      List.filter_cons_of_pos (by simpa using h), List.getLast?_cons_cons, lastComplete?,
      List.filter_cons_of_pos (by simpa using h)]
  · rw [lastComplete?_cons_of_not _ h]

/-- What is told by all commands is told by the later ones, exactly if there is one among them that
tells it, or if the earlier ones did not tell it either. -/
theorem told_by_later_iff {α : Type} (tell : Findings → Option α)
    (earlier commands : List Command) :
    (lastComplete? kind (earlier ++ commands)).bind (tell ·.findings)
        = (lastComplete? kind commands).bind (tell ·.findings)
      ↔ (∃ command ∈ commands, command.status = .complete ∧ command.kind = kind)
        ∨ (lastComplete? kind earlier).bind (tell ·.findings) = none := by
  rw [lastComplete?_append]
  cases hlast : lastComplete? kind commands with
  | none => exact (or_iff_right (lastComplete?_eq_none.mp hlast)).symm
  | some command =>
    refine iff_of_true rfl (.inl ?_)
    by_contra hnone
    cases (lastComplete?_eq_none.mpr hnone).symm.trans hlast

theorem not_tells_fail {error : CommandError} (h : command.status ≠ .complete) :
    ¬ (command.fail error).Tells := by
  rintro ⟨complete, -⟩
  rw [Command.status_fail] at complete
  split at complete
  · exact h complete
  · cases complete

/-- A command that fails and is complete nevertheless was so before. -/
theorem fail_of_complete {error : CommandError} (h : (command.fail error).status = .complete) :
    command.status = .complete ∧ command.fail error = command := by
  by_cases terminal : command.isTerminal
  · rw [Command.fail_of_isTerminal terminal] at h ⊢
    exact ⟨h, rfl⟩
  · rw [Command.status_fail, if_neg terminal] at h
    cases h

/-- A command that tells nothing does not matter. -/
theorem told_skip (earlier rest : List Command) (silent : ¬ command.Tells) :
    Properties.told (earlier ++ command :: rest) = .told (earlier ++ rest) := by
  have version : ¬ (command.status = .complete ∧ command.kind = .getVersion) :=
    fun h => silent ⟨h.1, .inl h.2⟩
  have protocol : ¬ (command.status = .complete ∧ command.kind = .getProtocol) :=
    fun h => silent ⟨h.1, .inr h.2⟩
  simp only [Properties.told, lastComplete?_append, lastComplete?_cons_of_not rest version,
    lastComplete?_cons_of_not rest protocol]

theorem told_twice (earlier rest : List Command) (command : Command) :
    Properties.told (earlier ++ command :: command :: rest)
      = .told (earlier ++ command :: rest) := by
  simp only [Properties.told, lastComplete?_append, lastComplete?_cons_cons]

/-! ## Functions of the processor -/

variable {config : Config} {link : Link} {refresh : List Request} {state : State}
  {reaction : Reaction} {steps : List Step} {next : State → Reaction}

theorem properties_learn_of_not_tells (silent : ¬ command.Tells) (state : State) :
    (state.learn command).properties = state.properties := by
  unfold State.learn
  split
  · rename_i complete kind
    exact absurd ⟨complete, .inl kind⟩ silent
  · rename_i complete kind
    exact absurd ⟨complete, .inr kind⟩ silent
  · rfl

/-- What is noted of a command is what it tells. -/
theorem properties_learn (told : state.properties = .told earlier) (command : Command) :
    (state.learn command).properties = .told (earlier ++ [command]) := by
  unfold State.learn
  split
  · rename_i complete kind
    simp [Properties.told, lastComplete?, told, complete, kind]
  · rename_i complete kind
    simp [Properties.told, lastComplete?, told, complete, kind]
  · rename_i version protocol
    rw [told_skip earlier [] (fun ⟨complete, kind⟩ => kind.elim (version complete)
      (protocol complete)), List.append_nil]
    exact told

theorem returned_append (a b : List Effect) : returned (a ++ b) = returned a ++ returned b := by
  rw [returned, answers_append, List.filterMap_append]
  rfl

theorem returned_finish (command : Command) (origin : Origin) (state : State) :
    returned (state.finish command origin).2
      = match origin with
        | .caller _ => [command]
        | .internal => [] := by
  rw [returned, answers_finish]
  cases origin <;> rfl

theorem passes_of_silent (properties : reaction.1.properties = state.properties)
    (silent : answers reaction.2 = []) : Passes steps state reaction := by
  have hreturned : returned reaction.2 = [] := by
    rw [returned, silent]
    rfl
  refine ⟨?_, ?_⟩
  · intro earlier told
    rw [hreturned, List.append_nil, properties]
    exact told
  · rw [hreturned]
    exact List.forall_mem_nil _

/-- Nothing but what has been noted matters of the state before. -/
theorem Passes.congr {before : State} (h : Passes steps state reaction)
    (same : state.properties = before.properties) : Passes steps before reaction :=
  ⟨fun earlier told => h.told earlier (same.trans told), h.came⟩

theorem Passes.andThen (first : Passes steps state reaction)
    (second : Passes steps reaction.1 (next reaction.1)) :
    Passes steps state (reaction.andThen next) := by
  refine ⟨?_, ?_⟩
  · intro earlier told
    rw [Reaction.andThen, returned_append, ← List.append_assoc]
    exact second.told _ (first.told earlier told)
  · rw [Reaction.andThen, returned_append, List.forall_mem_append]
    exact ⟨first.came, second.came⟩

/-- A job that fails passes on what it told before, if it was complete. -/
theorem passes_fail {job : Job} {error : CommandError} (fit : job.Fit)
    (status : command.status = job.command.status)
    (came : command.status = .complete → CameComplete steps command) (state : State) :
    Passes steps state (state.finish (command.fail error) job.origin) := by
  obtain ⟨submitted, origin⟩ := job
  cases origin with
  | internal =>
    have pending : command.status = .pending := status.trans (fit.pending rfl)
    refine passes_of_silent (properties_learn_of_not_tells (not_tells_fail ?_) state) ?_
    · rw [pending]
      exact nofun
    · exact answers_finish ..
  | caller ticket =>
    refine ⟨?_, ?_⟩
    · intro earlier told
      rw [returned_finish]
      exact properties_learn told _
    · rw [returned_finish, List.forall_mem_singleton]
      intro complete
      obtain ⟨before, same⟩ := fail_of_complete complete
      rw [same]
      exact came before

/-! ### Without a connection -/

theorem properties_approach (outage : Outage) (state : State) :
    (state.approach config outage).1.properties = state.properties := by
  unfold State.approach
  split <;> rfl

theorem properties_loseLink (state : State) :
    (state.loseLink config).1.properties = state.properties := by
  show (state.establish config).1.properties = _
  unfold State.establish
  split <;> exact properties_approach _ _

theorem passes_loseLink (state : State) : Passes steps state (state.loseLink config) :=
  passes_of_silent (properties_loseLink state) (withdraws_loseLink config state).answers

theorem passes_failAttempt (outage : Outage) (error : LinkError) (state : State) :
    Passes steps state (state.failAttempt config outage error) :=
  passes_of_silent (properties_approach _ _)
    (withdraws_failAttempt config outage error state).answers

theorem passes_drain {jobs : List Job} (fit : ∀ job ∈ jobs, job.Fit)
    (came : ∀ job ∈ jobs, job.Recalled steps) (state : State) :
    Passes steps state (State.drain jobs state) := by
  induction jobs generalizing state with
  | nil => exact passes_of_silent rfl rfl
  | cons job rest ih =>
    rw [List.forall_mem_cons] at fit came
    exact (passes_fail fit.1 rfl came.1 state).andThen (ih fit.2 came.2 _)

theorem passes_stop (fit : ∀ job ∈ state.queue, job.Fit)
    (came : ∀ job ∈ state.queue, job.Recalled steps) : Passes steps state state.stop := by
  have drains := passes_drain fit came { state with mode := .stopped, queue := [] }
  have publishes (state : State) : Passes steps state (state.publish .disconnected) :=
    passes_of_silent rfl rfl
  have both := (drains.congr rfl).andThen (publishes _)
  exact ⟨both.told, both.came⟩

/-! ### On a connection -/

@[simp] theorem properties_assigned (command : Command) (state : State) :
    (state.assignSession command).2.properties = state.properties := by
  rw [state_assigned]

theorem CameComplete.assigned (h : CameComplete steps command) (state : State) :
    CameComplete steps (state.assignSession command).1 := by
  unfold State.assignSession Command.assignSession
  split
  · obtain ⟨ticket, submitted, session?, member, complete, rfl⟩ := h
    exact ⟨ticket, submitted, _, member, complete, rfl⟩
  · exact h

theorem passes_launchesAs {job : Job} {retries : Nat} (fit : job.Fit)
    (came : job.Recalled steps)
    (launches : LaunchesAs config link refresh state job retries reaction) :
    Passes steps state reaction := by
  have assigned : (state.assignSession job.command).2.properties = state.properties :=
    properties_assigned ..
  have status := status_assigned state job.command
  cases launches with
  | sent taking frame? => exact passes_of_silent assigned rfl
  | refused refusing =>
    have before (complete : (state.assignSession job.command).1.status = .complete) :
        CameComplete steps (state.assignSession job.command).1 :=
      (came (status.symm.trans complete)).assigned state
    exact ((passes_fail fit status before _).congr assigned).andThen (passes_loseLink _)

/-- Only requests of the processor's own are launched, and these are fresh. -/
theorem passes_proceed (sendable : ∀ request ∈ refresh, Sendable request.kind) (state : State) :
    Passes steps state (State.proceed config link refresh state) := by
  have proceeds := proceedsAs_proceed config link refresh state sendable
  generalize State.proceed config link refresh state = reaction at proceeds
  cases proceeds with
  | idle => exact passes_of_silent rfl rfl
  | launch launches =>
    exact passes_launchesAs (fit_internal (List.forall_mem_cons.mp sendable).1) nofun launches

theorem passes_check (state : State) : Passes steps state (state.check config link refresh) := by
  have checks := checksAs_check config link refresh state
  generalize state.check config link refresh = reaction at checks
  cases checks with
  | sent => exact passes_of_silent (properties_assigned ..) rfl
  | refused => exact (passes_loseLink _).congr (properties_assigned ..)

theorem passes_concludeCheck {outcome : Outcome} (fit : ∀ job ∈ state.queue, job.Fit)
    (came : ∀ job ∈ state.queue, job.Recalled steps)
    (sendable : ∀ request ∈ refresh, Sendable request.kind) :
    Passes steps state (state.concludeCheck config link refresh outcome) := by
  cases outcome with
  | done => exact passes_proceed sendable state
  | terminated => exact passes_stop fit came
  | linkLost => exact passes_loseLink state
  | timedOut => exact passes_loseLink state

/-! ## Turns -/

/-- A reaction by which is noted what the commands tell that have ended in it and those that callers
get. Of the latter, the complete ones have ended in it or came complete. -/
structure Notes (steps : List Step) (state : State) (ended : List Command) (reaction : Reaction) :
    Prop where
  told : ∀ earlier, state.properties = .told earlier →
    reaction.1.properties = .told (earlier ++ (ended ++ returned reaction.2))
  came : ∀ command ∈ returned reaction.2, command.status = .complete →
    command ∈ ended ∨ CameComplete steps command

theorem Passes.notes {ended : List Command} (h : Passes steps state reaction)
    (silent : ∀ command ∈ ended, ¬ command.Tells) : Notes steps state ended reaction := by
  refine ⟨?_, fun command member complete => .inr (h.came command member complete)⟩
  intro earlier told
  rw [h.told earlier told]
  clear told
  induction ended with
  | nil => rfl
  | cons command rest ih =>
    rw [List.forall_mem_cons] at silent
    rw [List.cons_append, told_skip _ _ silent.1]
    exact ih silent.2

/-- The command of an attempt is noted before anything else. -/
theorem Notes.finish {origin : Origin}
    (rest : Passes steps (state.learn command) (next (state.learn command))) :
    Notes steps state [command] ((state.finish command origin).andThen next) := by
  refine ⟨?_, ?_⟩
  · intro earlier told
    have later := rest.told _ (properties_learn told command)
    rw [List.append_assoc] at later
    rw [Reaction.andThen, returned_append, returned_finish]
    cases origin with
    | internal => exact later
    | caller ticket => exact later.trans (told_twice ..).symm
  · rw [Reaction.andThen, returned_append, List.forall_mem_append]
    refine ⟨?_, fun other member complete => .inr (rest.came other member complete)⟩
    rw [returned_finish]
    cases origin with
    | internal => exact List.forall_mem_nil _
    | caller ticket =>
      rw [List.forall_mem_singleton]
      exact fun _ => .inl List.mem_cons_self

theorem notes_conclude {job : Job} {retries : Nat} {outcome : Outcome}
    (fit : ∀ job ∈ state.queue, job.Fit) (came : ∀ job ∈ state.queue, job.Recalled steps)
    (sendable : ∀ request ∈ refresh, Sendable request.kind)
    (h : Concludes config link refresh job retries command state outcome reaction) :
    Notes steps state [command] reaction := by
  cases h with
  | again again =>
    -- A command that is refused has failed, so that it tells nothing.
    have refused : ¬ command.Tells := by
      rintro ⟨complete, -⟩
      obtain ⟨-, refused, -⟩ := again
      rw [Command.error?, complete] at refused
      cases refused
    have passes : Passes steps state (State.silently
        { state with
          mode := .online link refresh (.pausing job (retries - 1)
            (state.now + config.confirmationTimeout.quarter.nanos)) }) :=
      passes_of_silent rfl rfl
    exact passes.notes (by simpa using refused)
  | settle =>
    refine Notes.finish (passes_concludeCheck ?_ ?_ sendable)
    · rwa [queue_learn]
    · rwa [queue_learn]
  | check => exact Notes.finish (passes_check _)

/-- A turn in which no attempt ends. -/
theorem Notes.of_open (open' : state.ended? config = none) (h : Passes steps state reaction) :
    Notes steps state (state.ended? config).toList reaction := by
  rw [open']
  exact h.notes (List.forall_mem_nil _)

theorem passes_unsolicited (frame : Frame) (state : State) :
    Passes steps state (state.unsolicited frame) := by
  refine passes_of_silent ?_ (answers_unsolicited ..)
  rw [state_unsolicited]

theorem passes_goOnline (state : State) : Passes steps state (state.goOnline config link) := by
  let online : State := { state with connectedOnce := true, published := .connected }
  have proceeds : Passes steps online
      (State.proceed config link (online.refreshRequests config) online) :=
    passes_proceed (sendable_refreshRequests config _) online
  exact ⟨proceeds.told, proceeds.came⟩

/-- What ends without a caller is the request for the state of the gateway. -/
theorem not_tells_of_check {attempt : Attempt} {left : Link} {outcome : Outcome}
    (ping : attempt.command.request = .ping)
    (comes : attempt.Comes config state link (.ended command outcome, left)) :
    ¬ command.Tells := by
  have kind : command.kind = .ping := by
    rw [Command.kind, comes.of_ended.2.1, ping]
    rfl
  rintro ⟨-, tells⟩
  rw [kind] at tells
  rcases tells with h | h <;> cases h

theorem notes_turn (fit : state.Fit) (recalls : state.Recalls steps)
    (h : Turns config state reaction) :
    Notes steps state (state.ended? config).toList reaction := by
  have offline {outage : Outage} {stage : Stage} (mode : state.mode = .offline outage stage) :
      state.ended? config = none :=
    (owed_of_offline config mode).2.1
  cases h with
  | stop free =>
    refine .of_open ?_ (passes_stop fit.queue recalls.queue)
    rcases free with ⟨outage, stage, mode⟩ | ⟨link, refresh, mode⟩
    · exact offline mode
    · exact ended?_of_free mode rfl
  | connect running mode => exact .of_open (offline mode) (passes_of_silent rfl rfl)
  | @reject outage job rest running suspended hopeless queue =>
    obtain ⟨stage, mode⟩ := suspended.offline
    have came : job.Recalled steps := recalls.queue job (by rw [queue]; exact List.mem_cons_self)
    exact .of_open (offline mode) ((passes_fail (fit.front queue).1 rfl came _).congr rfl)
  | logIn running mode => exact .of_open (offline mode) (passes_of_silent rfl rfl)
  | failAttempt running fails =>
    obtain ⟨stage, mode⟩ := fails.offline
    exact .of_open (offline mode) (passes_failAttempt ..)
  | keepLoggingIn running mode => exact .of_open (offline mode) (passes_of_silent rfl rfl)
  | goOnline running mode => exact .of_open (offline mode) (passes_goOnline _)
  | unsolicited running mode =>
    exact .of_open (ended?_of_free mode rfl) ((passes_unsolicited _ _).congr rfl)
  | loseLink running mode => exact .of_open (ended?_of_free mode rfl) (passes_loseLink _)
  | @launch link refresh job rest running mode silent alive queue =>
    have fitting : job.Fit := (fit.front queue).1
    have came : job.Recalled steps := recalls.queue job (by rw [queue]; exact List.mem_cons_self)
    have launches := launchesAs_launch config link refresh { state with queue := rest }
      config.transientRetries (State.proceed config link refresh) fitting.sendable
    exact .of_open (ended?_of_free mode rfl) ((passes_launchesAs fitting came launches).congr rfl)
  | ongoing mode comes => exact .of_open (ended?_of_comes mode rfl comes) (passes_of_silent rfl rfl)
  | unclaimed mode comes =>
    exact .of_open (ended?_of_comes mode rfl comes) ((passes_unsolicited _ _).congr rfl)
  | conclude mode comes =>
    rw [ended?_of_comes mode rfl comes]
    exact notes_conclude fit.queue recalls.queue (fit.online mode).2.1 (concludes_conclude ..)
  | @stopPause link refresh job retries resume mode terminating =>
    have fitting : job.Fit := (fit.online mode).2.2
    have came : job.Recalled steps := recalls.activity job (by rw [mode]; rfl)
    refine .of_open (ended?_of_free mode rfl)
      ((passes_fail fitting rfl came state).andThen (passes_stop ?_ ?_))
    · rw [queue_finish]
      exact fit.queue
    · rw [queue_finish]
      exact recalls.queue
  | @resume link refresh job retries resume running mode due =>
    have fitting : job.Fit := (fit.online mode).2.2
    have came : job.Recalled steps := recalls.activity job (by rw [mode]; rfl)
    exact .of_open (ended?_of_free mode rfl) (passes_launchesAs fitting came
      (launchesAs_launch config link refresh state retries _ fitting.sendable))
  | keepChecking mode comes =>
    exact .of_open (ended?_of_comes mode rfl comes) (passes_of_silent rfl rfl)
  | unclaimedByCheck mode comes =>
    exact .of_open (ended?_of_comes mode rfl comes) ((passes_unsolicited _ _).congr rfl)
  | concludeCheck mode comes =>
    obtain ⟨-, sendable, ping, -⟩ := fit.online mode
    rw [ended?_of_comes mode rfl comes]
    refine (passes_concludeCheck fit.queue recalls.queue sendable).notes ?_
    exact List.forall_mem_singleton.mpr (not_tells_of_check ping comes)

end

end Processor

end ShutterGateway
