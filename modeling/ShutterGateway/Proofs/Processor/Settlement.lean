import ShutterGateway.Proofs.Command.Lifecycle
import ShutterGateway.Proofs.Processor.Moments
import ShutterGateway.Proofs.Processor.Turns

/-!
What one turn of a processor settles. Two accounts are kept: of the one request that may be out on
the connection, and of the callers who wait, whose commands are carried out or wait in the queue.
A turn ends the attempt whose request is out before it hands over another request, and hands
commands back from the front only. Each function of the processor has one lemma that says so, and
they are put together as the functions are.
-/

namespace ShutterGateway.Processor

/-! ## What a processor owes -/

namespace Job

/-- The call that a job answers, if a caller waits for it. -/
def call? (job : Job) : Option Call :=
  match job.origin with
  | .caller ticket => some ⟨ticket, job.command⟩
  | .internal => none

end Job

namespace Activity

/-- The job that is carried out. -/
def job? : Activity → Option Job
  | .running job _ _ => some job
  | .pausing job _ _ => some job
  | _ => none

/-- The attempt whose request is out. -/
def attempt? : Activity → Option Attempt
  | .running _ _ attempt => some attempt
  | .checking attempt => some attempt
  | _ => none

/-- The attempt at a job asks for what the job asks for. -/
def Sound : Activity → Prop
  | .running job _ attempt => attempt.command.request = job.command.request
  | _ => True

end Activity

namespace Mode

/-- What the processor does on its connection, if it has one. -/
def activity? : Mode → Option Activity
  | .online _ _ activity => some activity
  | _ => none

end Mode

namespace State

/-- The frame of the attempt whose request is out. -/
def flight (state : State) : List (Except CommandError Frame) :=
  ((state.mode.activity?.bind Activity.attempt?).map fun attempt => attempt.command.frame?).toList

/-- The calls in the queue. -/
def waiting (state : State) : List Call :=
  state.queue.filterMap Job.call?

/-- The calls that are still to be answered: the one that is carried out, and those in the
queue. -/
def owed (state : State) : List Call :=
  ((state.mode.activity?.bind Activity.job?).bind Job.call?).toList ++ state.waiting

/-- What the processor does is sound, and when it has stopped there is nothing left to do. -/
structure Sound (state : State) : Prop where
  activity : ∀ activity, state.mode.activity? = some activity → activity.Sound
  stopped : state.mode = .stopped → state.queue = []

theorem sound_of_offline {state : State} {outage : Outage} {stage : Stage}
    (mode : state.mode = .offline outage stage) : state.Sound := by
  constructor
  · intro activity hactivity
    rw [mode] at hactivity
    cases hactivity
  · intro stopped
    cases mode.symm.trans stopped

theorem sound_of_online {state : State} {link : Link} {refresh : List Request}
    {activity : Activity} (mode : state.mode = .online link refresh activity)
    (sound : activity.Sound) : state.Sound := by
  constructor
  · intro activity hactivity
    rw [mode] at hactivity
    cases hactivity
    exact sound
  · intro stopped
    cases mode.symm.trans stopped

end State

namespace Call

/-- A command comes back to its caller for good: it still asks for the same, and it is over. -/
structure Returns (call : Call) (answer : Answer) : Prop where
  ticket : answer.ticket = call.ticket
  command : ∃ command, answer.command? = some command
    ∧ command.request = call.command.request ∧ command.isTerminal

end Call

/-- A reaction that begins without a request on the connection. What it hands over is out after it,
and it answers the first of some calls and still owes the others. -/
structure Resumes (calls : List Call) (reaction : Reaction) : Prop where
  sound : reaction.1.Sound
  flight : reaction.1.flight = (sent reaction.2).map .ok
  answers : Discharges Call.Returns calls (answers reaction.2) reaction.1.owed

/-- A reaction that leaves the processor without a connection. It hands nothing over and nothing
back. -/
structure Withdraws (state : State) (reaction : Reaction) : Prop where
  offline : ∃ outage stage, reaction.1.mode = .offline outage stage
  queue : reaction.1.queue = state.queue
  sent : sent reaction.2 = []
  answers : answers reaction.2 = []

/-! ## Putting reactions together -/

theorem Withdraws.resumes {state : State} {reaction : Reaction} (h : Withdraws state reaction) :
    Resumes state.waiting reaction := by
  obtain ⟨⟨outage, stage, hmode⟩, hqueue, hsent, hanswers⟩ := h
  refine ⟨State.sound_of_offline hmode, ?_, ?_⟩
  · rw [State.flight, hmode, hsent]
    rfl
  · have hwaiting : reaction.1.waiting = state.waiting := congrArg (List.filterMap Job.call?) hqueue
    rw [State.owed, hmode, hwaiting, hanswers]
    exact .refl _

theorem Withdraws.activity?_eq_none {state : State} {reaction : Reaction}
    (h : Withdraws state reaction) : reaction.1.mode.activity? = none := by
  obtain ⟨outage, stage, mode⟩ := h.offline
  rw [mode]
  rfl

/-- An effect that nobody waits for does not matter. -/
theorem Withdraws.after {state : State} {effect : Effect} {reaction : Reaction}
    (quiet : effect.IsQuiet) (h : Withdraws state reaction) :
    Withdraws state (.after effect reaction) := by
  obtain ⟨hoffline, hqueue, hsent, hanswers⟩ := h
  refine ⟨hoffline, hqueue, ?_, ?_⟩
  · show (effect :: reaction.2).filterMap Effect.frame? = []
    rw [List.filterMap_cons_none quiet.1]
    exact hsent
  · show (effect :: reaction.2).filterMap Effect.answer? = []
    rw [List.filterMap_cons_none quiet.2]
    exact hanswers

/-- The connection state is published before something else. -/
theorem Withdraws.publish {state : State} {published : ConnectionState} {next : State → Reaction}
    (h : Withdraws { state with published := published }
      (next { state with published := published })) :
    Withdraws state ((state.publish published).andThen next) :=
  ⟨h.offline, h.queue, h.sent, h.answers⟩

theorem Resumes.publish {calls : List Call} {state : State} {published : ConnectionState}
    {next : State → Reaction}
    (h : Resumes calls (next { state with published := published })) :
    Resumes calls ((state.publish published).andThen next) :=
  ⟨h.sound, h.flight, h.answers⟩

theorem mode_learn (command : Command) (state : State) :
    (state.learn command).mode = state.mode := by
  unfold State.learn
  split <;> rfl

theorem queue_learn (command : Command) (state : State) :
    (state.learn command).queue = state.queue := by
  unfold State.learn
  split <;> rfl

theorem waiting_learn (command : Command) (state : State) :
    (state.learn command).waiting = state.waiting :=
  congrArg (List.filterMap Job.call?) (queue_learn command state)

@[simp] theorem now_learn (command : Command) (state : State) :
    (state.learn command).now = state.now := by
  unfold State.learn
  split <;> rfl

/-- Only the listeners get to know what a command has found out about nodes. -/
theorem quiet_discoveries (command : Command) (origin : Origin) :
    ∀ effect ∈ (State.discoveries command origin).map Effect.notify, effect.IsQuiet := by
  intro effect member
  obtain ⟨event, -, rfl⟩ := List.mem_map.mp member
  exact ⟨rfl, rfl⟩

theorem sent_finish (command : Command) (origin : Origin) (state : State) :
    sent (state.finish command origin).2 = [] := by
  unfold State.finish
  rw [sent_append, sent_of_quiet (quiet_discoveries command origin)]
  cases origin <;> rfl

theorem answers_finish (command : Command) (origin : Origin) (state : State) :
    answers (state.finish command origin).2
      = match origin with
        | .caller ticket => [⟨ticket, some command⟩]
        | .internal => [] := by
  unfold State.finish
  rw [answers_append, answers_of_quiet (quiet_discoveries command origin)]
  cases origin <;> rfl

/-- A job is handed back before something else. -/
theorem Resumes.finish {job : Job} {command : Command} {next : State → Reaction} {state : State}
    (request : command.request = job.command.request) (terminal : command.isTerminal)
    (h : Resumes (state.learn command).waiting (next (state.learn command))) :
    Resumes (job.call?.toList ++ state.waiting)
      ((state.finish command job.origin).andThen next) := by
  obtain ⟨hsound, hflight, hanswers⟩ := h
  rw [waiting_learn] at hanswers
  refine ⟨hsound, ?_, ?_⟩
  · show (next (state.learn command)).1.flight = _
    rw [hflight, Reaction.andThen, sent_append, sent_finish]
    rfl
  · show Discharges _ _ _ (next (state.learn command)).1.owed
    rw [Reaction.andThen, answers_append, answers_finish]
    obtain ⟨_, origin⟩ := job
    cases origin with
    | caller ticket => exact .prepend ⟨rfl, command, rfl, request, terminal⟩ hanswers
    | internal => exact hanswers

theorem waiting_of_cons {state : State} {job : Job} {rest : List Job}
    (h : state.queue = job :: rest) :
    state.waiting = job.call?.toList ++ State.waiting { state with queue := rest } := by
  rw [State.waiting, h, List.filterMap_cons]
  cases job.call? <;> rfl

/-! ## Without a connection -/

theorem withdraws_openConnection (config : Config) (outage : Outage) (state : State) :
    Withdraws state (state.openConnection config outage) :=
  ⟨⟨_, _, rfl⟩, rfl, rfl, rfl⟩

theorem withdraws_approach (config : Config) (outage : Outage) (state : State) :
    Withdraws state (state.approach config outage) := by
  unfold State.approach
  split
  · exact withdraws_openConnection config outage state
  · exact ⟨⟨_, _, rfl⟩, rfl, rfl, rfl⟩

theorem withdraws_establish (config : Config) (state : State) :
    Withdraws state (state.establish config) := by
  unfold State.establish
  split
  · exact .publish (withdraws_approach config ⟨0, 1⟩ _)
  · exact .publish (withdraws_approach config ⟨0, 0⟩ _)

theorem withdraws_loseLink (config : Config) (state : State) :
    Withdraws state (state.loseLink config) :=
  (withdraws_establish config state).after ⟨rfl, rfl⟩

theorem withdraws_failAttempt (config : Config) (outage : Outage) (error : LinkError)
    (state : State) : Withdraws state (state.failAttempt config outage error) := by
  unfold State.failAttempt
  refine Withdraws.after ⟨rfl, rfl⟩ (Withdraws.after ⟨rfl, rfl⟩ ?_)
  exact .publish (withdraws_approach config _ _)

/-- A job that is handed back without a connection is the only one. -/
theorem resumes_reject (state : State) (job : Job) (error : CommandError) {outage : Outage}
    {stage : Stage} (mode : state.mode = .offline outage stage) :
    Resumes (job.call?.toList ++ state.waiting)
      (state.finish (job.command.fail error) job.origin) := by
  have hmode : (state.finish (job.command.fail error) job.origin).1.mode = .offline outage stage :=
    (mode_learn _ state).trans mode
  have hwaiting : (state.finish (job.command.fail error) job.origin).1.waiting = state.waiting :=
    waiting_learn _ state
  refine ⟨State.sound_of_offline hmode, ?_, ?_⟩
  · rw [State.flight, hmode, sent_finish]
    rfl
  · rw [State.owed, hmode, hwaiting, answers_finish]
    obtain ⟨command, origin⟩ := job
    cases origin with
    | caller ticket => exact .prepend ⟨rfl, _, rfl, by simp, by simp⟩ (.refl _)
    | internal => exact .refl _

/-! ## The end -/

theorem mode_drain (jobs : List Job) (state : State) :
    (State.drain jobs state).1.mode = state.mode := by
  induction jobs generalizing state with
  | nil => rfl
  | cons job rest ih => exact (ih _).trans (mode_learn _ state)

theorem queue_drain (jobs : List Job) (state : State) :
    (State.drain jobs state).1.queue = state.queue := by
  induction jobs generalizing state with
  | nil => rfl
  | cons job rest ih => exact (ih _).trans (queue_learn _ state)

theorem sent_drain (jobs : List Job) (state : State) : sent (State.drain jobs state).2 = [] := by
  induction jobs generalizing state with
  | nil => rfl
  | cons job rest ih =>
    rw [State.drain, Reaction.andThen, sent_append, sent_finish, ih]
    rfl

/-- Every call in some jobs is answered when they are drained. -/
theorem answers_drain (jobs : List Job) (state : State) :
    Discharges Call.Returns (jobs.filterMap Job.call?) (answers (State.drain jobs state).2) [] := by
  induction jobs generalizing state with
  | nil => exact .refl _
  | cons job rest ih =>
    rw [State.drain, Reaction.andThen, answers_append, answers_finish]
    obtain ⟨command, origin⟩ := job
    cases origin with
    | caller ticket => exact .prepend ⟨rfl, _, rfl, by simp, by simp⟩ (ih _)
    | internal => exact ih _

theorem sent_stop (state : State) : sent state.stop.2 = [] := by
  show sent (_ ++ [.publish .disconnected]) = []
  rw [sent_append, sent_drain]
  rfl

/-- Nothing but the drained jobs is handed back at the end. -/
theorem answers_stop (state : State) :
    answers state.stop.2
      = answers (State.drain state.queue { state with mode := .stopped, queue := [] }).2 := by
  show answers (_ ++ [.publish .disconnected]) = _
  rw [answers_append]
  exact List.append_nil _

theorem resumes_stop (state : State) : Resumes state.waiting state.stop := by
  have hmode : state.stop.1.mode = .stopped := mode_drain state.queue _
  have hqueue : state.stop.1.queue = [] := queue_drain state.queue _
  refine ⟨?_, ?_, ?_⟩
  · constructor
    · intro activity hactivity
      rw [hmode] at hactivity
      cases hactivity
    · intro _
      exact hqueue
  · rw [State.flight, hmode, sent_stop]
    rfl
  · have hwaiting : state.stop.1.waiting = [] := congrArg (List.filterMap Job.call?) hqueue
    rw [State.owed, hmode, hwaiting, answers_stop]
    exact answers_drain state.queue _

/-! ## Attempts -/

/-- Beginning an attempt takes a session number at most. There may be no frame for the command, or
the connection may take none; otherwise the frame of the command goes out. -/
theorem begin_cases (config : Config) (link : Link) (command : Command) (state : State) :
    ∃ assigned later, assigned.request = command.request
      ∧ later = { state with sessions := later.sessions }
      ∧ ((∃ error, state.begin config link command
            = (.unsendable (assigned.fail error), later, []))
        ∨ (link.refusing ∧ state.begin config link command
            = (.refused (assigned.fail (.connectivity .connectionLost)), later, []))
        ∨ ∃ frame deadline, assigned.frame? = .ok frame ∧ state.begin config link command
            = (.sent ⟨assigned, deadline⟩, later, [.send frame])) := by
  obtain ⟨assigned, later, hrequest, hlater, hassign⟩ : ∃ assigned later,
      assigned.request = command.request ∧ later = { state with sessions := later.sessions }
        ∧ state.assignSession command = (assigned, later) := by
    unfold State.assignSession
    split
    · exact ⟨_, _, Command.request_assignSession _ command, rfl, rfl⟩
    · exact ⟨_, _, rfl, rfl, rfl⟩
  refine ⟨assigned, later, hrequest, hlater, ?_⟩
  unfold State.begin
  rw [hassign]
  cases hframe : assigned.frame? with
  | error error =>
    simp only [hframe]
    exact .inl ⟨error, rfl⟩
  | ok frame =>
    simp only [hframe]
    by_cases hrefusing : link.refusing
    · rw [if_pos hrefusing]
      exact .inr (.inl ⟨hrefusing, rfl⟩)
    · rw [if_neg hrefusing]
      exact .inr (.inr ⟨frame, _, rfl, rfl⟩)

section

variable (config : Config) (link : Link) (refresh : List Request) (state : State)

/-- A job is in the slot as soon as its request is out. A job that cannot be tried is answered. -/
theorem resumes_launch (job : Job) (retries : Nat) {next : State → Reaction}
    (hnext : ∀ later : State, Resumes later.waiting (next later)) :
    Resumes (job.call?.toList ++ state.waiting)
      (state.launch config link refresh job retries next) := by
  obtain ⟨assigned, later, hrequest, hlater, hbegin⟩ := begin_cases config link job.command state
  have hwaiting : state.waiting = later.waiting := by rw [hlater]; rfl
  have hfail (error : CommandError) : (assigned.fail error).request = job.command.request :=
    (Command.request_fail assigned error).trans hrequest
  unfold State.launch
  rw [hwaiting]
  rcases hbegin with ⟨error, hbegin⟩ | ⟨-, hbegin⟩ | ⟨frame, deadline, hframe, hbegin⟩
  · rw [hbegin]
    exact Resumes.finish (hfail error) (by simp) (hnext _)
  · rw [hbegin]
    exact Resumes.finish (hfail _) (by simp) (withdraws_loseLink config _).resumes
  · rw [hbegin]
    refine ⟨State.sound_of_online rfl hrequest, ?_, .refl _⟩
    · show [assigned.frame?] = _
      rw [hframe]
      rfl

/-- Going on with the refresh answers nobody, since no caller waits for it. -/
theorem resumes_proceed : Resumes state.waiting (State.proceed config link refresh state) := by
  induction refresh generalizing state with
  | nil => exact ⟨State.sound_of_online rfl trivial, rfl, .refl _⟩
  | cons request rest ih =>
    -- A request that cannot be tried is passed over: the rest of the refresh comes in its place.
    exact resumes_launch config link rest state ⟨{ request := request }, .internal⟩ _ ih

theorem resumes_check : Resumes state.waiting (state.check config link refresh) := by
  obtain ⟨assigned, later, -, hlater, hbegin⟩ := begin_cases config link { request := .ping } state
  have hwaiting : state.waiting = later.waiting := by rw [hlater]; rfl
  unfold State.check
  rw [hwaiting]
  rcases hbegin with ⟨error, hbegin⟩ | ⟨-, hbegin⟩ | ⟨frame, deadline, hframe, hbegin⟩
  · rw [hbegin]
    exact resumes_proceed config link refresh later
  · rw [hbegin]
    exact (withdraws_loseLink config later).resumes
  · rw [hbegin]
    refine ⟨State.sound_of_online rfl trivial, ?_, .refl _⟩
    · show [assigned.frame?] = _
      rw [hframe]
      rfl

theorem resumes_goOnline : Resumes state.waiting (state.goOnline config link) :=
  .publish (resumes_proceed config link _
    { state with connectedOnce := true, published := .connected })

theorem resumes_concludeCheck (outcome : Outcome) :
    Resumes state.waiting (state.concludeCheck config link refresh outcome) := by
  cases outcome with
  | done => exact resumes_proceed config link refresh state
  | terminated => exact resumes_stop state
  | linkLost => exact (withdraws_loseLink config state).resumes
  | timedOut => exact (withdraws_loseLink config state).resumes

/-- When an attempt at a job is over, its job is answered, unless it is kept to be tried again. -/
theorem resumes_conclude {job : Job} {retries : Nat} {command : Command} {outcome : Outcome}
    {reaction : Reaction} (request : command.request = job.command.request)
    (terminal : command.isTerminal)
    (h : Concludes config link refresh job retries command state outcome reaction) :
    Resumes (job.call?.toList ++ state.waiting) reaction := by
  cases h with
  | again =>
    -- The job stays in the slot for the pause, and its caller is still owed.
    exact ⟨State.sound_of_online rfl trivial, rfl, .refl _⟩
  | settle => exact .finish request terminal (resumes_concludeCheck config link refresh _ outcome)
  | check =>
    -- Nobody waits for the check.
    exact .finish request terminal (resumes_check config link refresh _)

end

namespace Attempt

theorem command_extend (config : Config) (now : Instant) (frame : Frame) (command : Command)
    (attempt : Attempt) : (attempt.extend config now frame command).command = command := by
  unfold extend
  split <;> rfl

variable {config : Config} {state : State} {link left : Link} {attempt : Attempt}

/-- A frame that does not end the command leaves it asking for the same. -/
theorem Comes.of_ongoing {later : Attempt}
    (h : Comes config state link attempt (.ongoing later, left)) :
    later.command.request = attempt.command.request
      ∧ later.command.frame? = attempt.command.frame? := by
  cases h
  rw [command_extend]
  exact ⟨Command.request_respond .., Command.frame?_respond ..⟩

/-- However an attempt ends, the command is over then, and it asks for the same. -/
theorem Comes.of_ended {command : Command} {outcome : Outcome}
    (h : Comes config state link attempt (.ended command outcome, left)) :
    command.isTerminal ∧ command.request = attempt.command.request
      ∧ command.frame? = attempt.command.frame? := by
  have hfail (error : CommandError) : (attempt.command.fail error).isTerminal
      ∧ (attempt.command.fail error).request = attempt.command.request
      ∧ (attempt.command.fail error).frame? = attempt.command.frame? :=
    ⟨Command.isTerminal_fail .., Command.request_fail .., Command.frame?_fail ..⟩
  cases h with
  | terminated => exact hfail _
  | done _ _ _ terminal => exact ⟨terminal, Command.request_respond .., Command.frame?_respond ..⟩
  | linkLost => exact hfail _
  | timedOut => exact hfail _

end Attempt

/-! ## Turns -/

/-- The requests among the frames that a step hands over. The login is not among them: it is the one
frame that goes out while a connection is being made. -/
def requests (state : State) (effects : List Effect) : List Frame :=
  match state.mode with
  | .offline _ (.connecting _ _) => []
  | _ => sent effects

/-- The command of an attempt that is over. -/
def Progress.ended? : Progress → Option Command
  | .ended command _ => some command
  | _ => none

/-- The command whose attempt is over as soon as the processor looks at it. -/
def State.ended? (config : Config) (state : State) : Option Command :=
  match state.mode with
  | .online link _ activity =>
    activity.attempt?.bind fun attempt => (attempt.progress config state link).1.ended?
  | _ => none

/-- The attempt whose request is out ends as a command that is over. -/
structure EndsAs (frame? : Except CommandError Frame) (command : Command) : Prop where
  frame? : command.frame? = frame?
  isTerminal : command.isTerminal

/-- A turn that keeps both accounts: of the request that is out, and of the callers who wait. -/
structure Settles (config : Config) (state : State) (reaction : Reaction) : Prop where
  sound : reaction.1.Sound
  flight : Discharges EndsAs (state.flight ++ (requests state reaction.2).map .ok)
    (state.ended? config).toList reaction.1.flight
  answers : Discharges Call.Returns state.owed (answers reaction.2) reaction.1.owed

section

variable {config : Config} {state : State}

/-- A turn that begins without a request on the connection. -/
theorem Resumes.settles {reaction : Reaction} (h : Resumes state.owed reaction)
    (flight : state.flight = []) (ended : state.ended? config = none)
    (all : requests state reaction.2 = sent reaction.2) : Settles config state reaction := by
  refine ⟨h.sound, ?_, h.answers⟩
  rw [flight, ended, all, h.flight]
  exact .refl _

/-- A turn that only takes note of something. -/
theorem settles_of_keeps {reaction : Reaction} (sound : reaction.1.Sound)
    (flight : reaction.1.flight = state.flight) (owed : reaction.1.owed = state.owed)
    (hsent : sent reaction.2 = []) (hanswers : Processor.answers reaction.2 = [])
    (ended : state.ended? config = none) : Settles config state reaction := by
  have hrequests : requests state reaction.2 = [] := by
    unfold requests
    split
    · rfl
    · exact hsent
  refine ⟨sound, ?_, ?_⟩
  · rw [hrequests, ended, flight, List.map_nil, List.append_nil]
    exact .refl _
  · rw [hanswers, owed]
    exact .refl _

theorem state_unsolicited (frame : Frame) (state : State) :
    (state.unsolicited frame).1 = state := by
  unfold State.unsolicited
  split <;> rfl

theorem sent_unsolicited (frame : Frame) (state : State) :
    sent (state.unsolicited frame).2 = [] := by
  unfold State.unsolicited
  split <;> rfl

theorem answers_unsolicited (frame : Frame) (state : State) :
    answers (state.unsolicited frame).2 = [] := by
  unfold State.unsolicited
  split <;> rfl

/-! ## Without a connection -/

theorem requests_of_sent {effects : List Effect} (h : sent effects = []) :
    requests state effects = sent effects := by
  unfold requests
  split
  · exact h.symm
  · rfl

/-- Without a connection no request is out and no caller's command is carried out. -/
theorem owed_of_offline (config : Config) {outage : Outage} {stage : Stage}
    (mode : state.mode = .offline outage stage) :
    state.flight = [] ∧ state.ended? config = none ∧ state.owed = state.waiting := by
  refine ⟨?_, ?_, ?_⟩
  · rw [State.flight, mode]
    rfl
  · rw [State.ended?, mode]
  · rw [State.owed, mode]
    rfl

/-- A turn that begins without a connection. -/
theorem settles_of_offline {outage : Outage} {stage : Stage} {reaction : Reaction}
    (mode : state.mode = .offline outage stage) (h : Resumes state.waiting reaction)
    (all : requests state reaction.2 = sent reaction.2) : Settles config state reaction := by
  obtain ⟨hflight, hended, howed⟩ := owed_of_offline config mode
  rw [← howed] at h
  exact h.settles hflight hended all

/-! ## On a connection -/

section

variable {link left : Link} {refresh : List Request} {activity : Activity} {reaction : Reaction}

theorem requests_of_online (mode : state.mode = .online link refresh activity)
    (effects : List Effect) : requests state effects = sent effects := by
  rw [requests, mode]

theorem flight_of_online (mode : state.mode = .online link refresh activity) :
    state.flight = (activity.attempt?.map fun attempt => attempt.command.frame?).toList := by
  rw [State.flight, mode]
  rfl

theorem owed_of_online (mode : state.mode = .online link refresh activity) :
    state.owed = (activity.job?.bind Job.call?).toList ++ state.waiting := by
  rw [State.owed, mode]
  rfl

theorem ended?_of_comes {attempt : Attempt} {progress : Progress}
    (mode : state.mode = .online link refresh activity)
    (attempted : activity.attempt? = some attempt)
    (comes : attempt.Comes config state link (progress, left)) :
    state.ended? config = progress.ended? := by
  rw [State.ended?, mode]
  show activity.attempt?.bind _ = _
  rw [attempted, Option.bind_some, comes.progress_eq]

theorem ended?_of_free (mode : state.mode = .online link refresh activity)
    (free : activity.attempt? = none) : state.ended? config = none := by
  rw [State.ended?, mode]
  show activity.attempt?.bind _ = none
  rw [free]
  rfl

/-- A turn that begins on a connection without a request on it. -/
theorem settles_of_free (mode : state.mode = .online link refresh activity)
    (free : activity.attempt? = none)
    (h : Resumes ((activity.job?.bind Job.call?).toList ++ state.waiting) reaction) :
    Settles config state reaction := by
  rw [← owed_of_online mode] at h
  refine h.settles ?_ ?_ (requests_of_online mode _)
  · rw [flight_of_online mode, free]
    rfl
  · exact ended?_of_free mode free

/-- A turn in which an attempt ends before anything else goes out. -/
theorem settles_of_ended {attempt : Attempt} {command : Command} {outcome : Outcome}
    (mode : state.mode = .online link refresh activity)
    (attempted : activity.attempt? = some attempt)
    (comes : attempt.Comes config state link (.ended command outcome, left))
    (h : Resumes ((activity.job?.bind Job.call?).toList ++ state.waiting) reaction) :
    Settles config state reaction := by
  rw [← owed_of_online mode] at h
  obtain ⟨hterminal, -, hframe⟩ := comes.of_ended
  refine ⟨h.sound, ?_, h.answers⟩
  rw [flight_of_online mode, attempted, ended?_of_comes mode attempted comes,
    requests_of_online mode, h.flight]
  exact .prepend ⟨hframe, hterminal⟩ (.refl _)

/-- A turn that takes note of a frame and goes on with what the processor does. -/
theorem settles_note {later : Activity} {effects : List Effect}
    (mode : state.mode = .online link refresh activity) (sound : later.Sound)
    (flight : (later.attempt?.map fun attempt => attempt.command.frame?)
      = activity.attempt?.map fun attempt => attempt.command.frame?)
    (job : later.job? = activity.job?) (hsent : sent effects = [])
    (hanswers : Processor.answers effects = []) (ended : state.ended? config = none) :
    Settles config state ({ state with mode := .online left refresh later }, effects) := by
  refine settles_of_keeps (State.sound_of_online rfl sound) ?_ ?_ hsent hanswers ended
  · rw [flight_of_online mode, ← flight]
    rfl
  · rw [owed_of_online mode, ← job]
    rfl

theorem settles_unsolicited {frame : Frame} (mode : state.mode = .online link refresh activity)
    (sound : activity.Sound) (ended : state.ended? config = none) :
    Settles config state
      (State.unsolicited frame { state with mode := .online left refresh activity }) := by
  rw [← Prod.eta (State.unsolicited frame _), state_unsolicited]
  exact settles_note mode sound rfl rfl (sent_unsolicited ..) (answers_unsolicited ..) ended

end

/-- Every turn keeps both accounts. -/
theorem settles_turn {reaction : Reaction} (sound : state.Sound)
    (h : Turns config state reaction) : Settles config state reaction := by
  cases h with
  | stop free =>
    rcases free with ⟨outage, stage, mode⟩ | ⟨link, refresh, mode⟩
    · exact settles_of_offline mode (resumes_stop state) (requests_of_sent (sent_stop state))
    · exact settles_of_free mode rfl (resumes_stop state)
  | @connect outage resume _ mode _ =>
    have withdraws := withdraws_openConnection config outage state
    exact settles_of_offline mode withdraws.resumes (requests_of_sent rfl)
  | @reject outage job rest _ suspended _ queue =>
    obtain ⟨stage, mode⟩ := suspended.offline
    have resumes := resumes_reject { state with queue := rest } job
      (.connectivity .gatewayUnavailable) mode
    rw [← waiting_of_cons queue] at resumes
    exact settles_of_offline mode resumes (requests_of_sent (sent_finish ..))
  | logIn _ mode _ =>
    -- The login goes out while no request is out, and is none itself.
    obtain ⟨hflight, hended, howed⟩ := owed_of_offline config mode
    refine ⟨State.sound_of_offline rfl, ?_, ?_⟩
    · rw [hflight, hended, requests, mode]
      exact .refl _
    · rw [howed]
      exact .refl _
  | @failAttempt outage error _ fails =>
    obtain ⟨stage, mode⟩ := fails.offline
    have withdraws := withdraws_failAttempt config outage error state
    exact settles_of_offline mode withdraws.resumes (requests_of_sent withdraws.sent)
  | keepLoggingIn _ mode _ _ =>
    obtain ⟨hflight, hended, howed⟩ := owed_of_offline config mode
    exact settles_of_keeps (State.sound_of_offline rfl) hflight.symm howed.symm rfl rfl hended
  | goOnline _ mode _ _ =>
    refine settles_of_offline mode (resumes_goOnline config _ state) ?_
    rw [requests, mode]
  | unsolicited _ mode _ =>
    refine settles_unsolicited mode trivial ?_
    rw [State.ended?, mode]
    rfl
  | loseLink _ mode _ _ =>
    exact settles_of_free mode rfl (withdraws_loseLink config state).resumes
  | @launch link refresh job rest _ mode _ _ queue =>
    have resumes := resumes_launch config link refresh { state with queue := rest } job
      config.transientRetries (resumes_proceed config link refresh)
    rw [← waiting_of_cons queue] at resumes
    exact settles_of_free mode rfl resumes
  | ongoing mode comes =>
    obtain ⟨hrequest, hframe⟩ := comes.of_ongoing
    have hsound := sound.activity _ (by rw [mode]; rfl)
    exact settles_note mode (hrequest.trans hsound) (congrArg some hframe) rfl rfl rfl
      (ended?_of_comes mode rfl comes)
  | unclaimed mode comes =>
    exact settles_unsolicited mode (sound.activity _ (by rw [mode]; rfl))
      (ended?_of_comes mode rfl comes)
  | @conclude link left refresh job retries attempt command outcome mode comes =>
    obtain ⟨hterminal, hrequest, -⟩ := comes.of_ended
    have hsound : attempt.command.request = job.command.request :=
      sound.activity (.running job retries attempt) (by rw [mode]; rfl)
    exact settles_of_ended mode rfl comes
      (resumes_conclude config left refresh state (hrequest.trans hsound) hterminal
        (concludes_conclude ..))
  | @stopPause link refresh job retries resume mode _ =>
    have resumes := Resumes.finish (Command.request_fail job.command .shutdown)
      (Command.isTerminal_fail ..) (resumes_stop (state.learn _))
    exact settles_of_free mode rfl resumes
  | @resume link refresh job retries resume _ mode _ =>
    exact settles_of_free mode rfl
      (resumes_launch config link refresh state job retries (resumes_proceed config link refresh))
  | keepChecking mode comes =>
    exact settles_note mode trivial (congrArg some comes.of_ongoing.2) rfl rfl rfl
      (ended?_of_comes mode rfl comes)
  | unclaimedByCheck mode comes =>
    exact settles_unsolicited mode trivial (ended?_of_comes mode rfl comes)
  | @concludeCheck link left refresh attempt command outcome mode comes =>
    -- Nobody waits for the check, so that its end answers nobody.
    exact settles_of_ended mode rfl comes (resumes_concludeCheck config left refresh state outcome)

end

end ShutterGateway.Processor
