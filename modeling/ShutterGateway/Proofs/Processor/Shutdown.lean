import ShutterGateway.Proofs.Processor.Answers
import ShutterGateway.Proofs.Processor.Fitness

/-!
The end of a processor. Once the end has been asked for, the next turn is the last, wherever it
finds the processor: a command whose answer has arrived already, or whose time is up, fails like
those in the queue, no frame goes out, and the last thing published is that there is no connection.
-/

namespace ShutterGateway.Processor

/-! ## What can be seen of the end -/

/-- The end is asked for, by itself or by a command. -/
def Event.AsksForEnd : Event → Prop
  | .terminate => True
  | .submit _ command => command.kind = .terminate
  | _ => False

/-- The connection state that an effect publishes. -/
def Effect.published? : Effect → Option ConnectionState
  | .publish published => some published
  | _ => none

/-- The connection states that some effects publish. -/
def publications (effects : List Effect) : List ConnectionState :=
  effects.filterMap Effect.published?

@[simp] theorem publications_append (a b : List Effect) :
    publications (a ++ b) = publications a ++ publications b :=
  List.filterMap_append

namespace Call

/-- The error of a command that comes back after the end has been asked for. The processor alone
logs in, so that a login never waits for the end. -/
def endError (call : Call) : CommandError :=
  if call.command.kind = .login then .invalidParameter .loginReserved else .shutdown

/-- A submitted command comes back because the end has been asked for. It fails, unless it was over
when it was submitted, or asks for the end itself: then it is the submitted command. -/
structure ShutsDown (call : Call) (answer : Answer) : Prop where
  ticket : answer.ticket = call.ticket
  command : ∃ command,
    (answer.deliver { submitted := call.command }).wait = .returned command
      ∧ command.request = call.command.request
      ∧ if call.command.kind = .terminate then command = call.command
        else command.status
          = if call.command.isTerminal then call.command.status else .failed call.endError

theorem shutsDown_of_status {call : Call} {command : Command}
    (sendable : Sendable call.command.kind) (request : command.request = call.command.request)
    (status : command.status = (call.command.fail .shutdown).status) :
    call.ShutsDown ⟨call.ticket, some command⟩ := by
  refine ⟨rfl, command, rfl, request, ?_⟩
  rw [if_neg sendable.ne_terminate, status, Command.status_fail, endError, if_neg sendable.ne_login]

theorem shutsDown_abandoned {call : Call} (sendable : Sendable call.command.kind) :
    call.ShutsDown ⟨call.ticket, none⟩ :=
  ⟨rfl, (shutsDown_of_status sendable (Command.request_fail ..) rfl).command⟩

theorem shutsDown_at_once : SettlesAtOnce ShutsDown := by
  refine ⟨?_, ?_, fun call terminate login => shutsDown_abandoned ⟨terminate, login⟩⟩
  · intro call terminate
    refine ⟨rfl, call.command, rfl, rfl, ?_⟩
    rw [if_pos terminate]
  · intro call login
    have hterminate : call.command.kind ≠ .terminate := by rw [login]; exact nofun
    refine ⟨rfl, _, rfl, Command.request_fail .., ?_⟩
    rw [if_neg hterminate, Command.status_fail, endError, if_pos login]

end Call

/-! ## The last turn -/

/-- A reaction that ends the processor. It hands nothing over, and some calls come back by it. -/
structure Ends (calls : List Call) (reaction : Reaction) : Prop where
  stopped : reaction.1.mode = .stopped
  sent : sent reaction.2 = []
  publications : publications reaction.2 = [.disconnected]
  answers : List.Forall₂ Call.ShutsDown calls (answers reaction.2)

section

variable {config : Config} {state : State}

theorem overlooks_published : Overlooks Effect.published? :=
  ⟨fun _ _ => rfl, fun _ => rfl, fun _ => rfl⟩

theorem publications_finish (command : Command) (origin : Origin) (state : State) :
    publications (state.finish command origin).2 = [] :=
  filterMap_finish overlooks_published command origin state

theorem publications_drain (jobs : List Job) (state : State) :
    publications (State.drain jobs state).2 = [] :=
  filterMap_drain overlooks_published jobs state

/-- What a job comes back with, if a caller waits for it. -/
theorem shutsDown_finish {job : Job} {command : Command} (fit : job.Fit)
    (request : command.request = job.command.request)
    (status : command.status = (job.command.fail .shutdown).status) (state : State) :
    List.Forall₂ Call.ShutsDown job.call?.toList
      (answers (state.finish command job.origin).2) := by
  rw [answers_finish]
  obtain ⟨submitted, origin⟩ := job
  cases origin with
  | caller ticket => exact .cons (Call.shutsDown_of_status fit.sendable request status) .nil
  | internal => exact .nil

/-- Every command in some jobs comes back when they are drained. -/
theorem shutsDown_drain {jobs : List Job} (fit : ∀ job ∈ jobs, job.Fit) (state : State) :
    List.Forall₂ Call.ShutsDown (jobs.filterMap Job.call?)
      (answers (State.drain jobs state).2) := by
  induction jobs generalizing state with
  | nil => exact .nil
  | cons job rest ih =>
    rw [List.forall_mem_cons] at fit
    have hcalls : (job :: rest).filterMap Job.call?
        = job.call?.toList ++ rest.filterMap Job.call? := by
      rw [List.filterMap_cons]
      cases job.call? <;> rfl
    rw [State.drain, Reaction.andThen, answers_append, hcalls]
    exact List.rel_append (shutsDown_finish fit.1 (Command.request_fail ..) rfl state)
      (ih fit.2 _)

theorem ends_stop (fit : ∀ job ∈ state.queue, job.Fit) : Ends state.waiting state.stop := by
  refine ⟨mode_drain state.queue _, sent_stop state, ?_, ?_⟩
  · show publications (_ ++ [.publish .disconnected]) = _
    rw [publications_append, publications_drain]
    rfl
  · show List.Forall₂ Call.ShutsDown _ (answers (_ ++ [.publish .disconnected]))
    rw [answers_append]
    show List.Forall₂ Call.ShutsDown _ (_ ++ [])
    rw [List.append_nil]
    exact shutsDown_drain fit _

/-- The job that is carried out comes back, and the processor stops. -/
theorem ends_finish {job : Job} {command : Command} (fit : job.Fit)
    (queue : ∀ job ∈ state.queue, job.Fit) (request : command.request = job.command.request)
    (status : command.status = (job.command.fail .shutdown).status) :
    Ends (job.call?.toList ++ state.waiting)
      ((state.finish command job.origin).andThen State.stop) := by
  have hqueue : (state.learn command).queue = state.queue := queue_learn command state
  have hwaiting : (state.learn command).waiting = state.waiting := by
    rw [State.waiting, hqueue]
    rfl
  have ends : Ends (state.learn command).waiting (state.learn command).stop :=
    ends_stop (by rw [hqueue]; exact queue)
  refine ⟨ends.stopped, ?_, ?_, ?_⟩
  · rw [Reaction.andThen, sent_append, sent_finish]
    exact ends.sent
  · rw [Reaction.andThen, publications_append, publications_finish]
    exact ends.publications
  · rw [Reaction.andThen, answers_append, ← hwaiting]
    exact List.rel_append (shutsDown_finish fit request status state) ends.answers

/-- Once the end has been asked for, an attempt comes to nothing else, whatever has arrived and
however late it is. -/
theorem comes_terminated {link : Link} {attempt : Attempt} {result : Progress × Link}
    (terminating : state.terminating) (comes : attempt.Comes config state link result) :
    result = (.ended (attempt.command.fail .shutdown) .terminated, link) := by
  rw [← comes.progress_eq, Attempt.progress, if_pos terminating]

/-- Every turn of a processor that has been asked to end is its last. -/
theorem ends_turn {reaction : Reaction} (fit : state.Fit) (terminating : state.terminating)
    (h : Turns config state reaction) : Ends state.owed reaction := by
  cases h with
  | stop free =>
    have howed : state.owed = state.waiting := by
      rcases free with ⟨outage, stage, mode⟩ | ⟨link, refresh, mode⟩
      · exact (owed_of_offline config mode).2.2
      · exact owed_of_online mode
    rw [howed]
    exact ends_stop fit.queue
  | conclude mode comes =>
    obtain ⟨-, -, hjob, hrequest, hstatus⟩ := fit.online mode
    cases comes_terminated terminating comes
    rw [owed_of_online mode]
    exact ends_finish hjob fit.queue ((Command.request_fail ..).trans hrequest)
      (status_fail_congr hstatus _)
  | stopPause mode =>
    obtain ⟨-, -, hjob⟩ := fit.online mode
    rw [owed_of_online mode]
    exact ends_finish hjob fit.queue (Command.request_fail ..) rfl
  | concludeCheck mode comes =>
    cases comes_terminated terminating comes
    rw [owed_of_online mode]
    exact ends_stop fit.queue
  -- In every other form the end has not been asked for.
  | ongoing mode comes => cases comes_terminated terminating comes
  | unclaimed mode comes => cases comes_terminated terminating comes
  | keepChecking mode comes => cases comes_terminated terminating comes
  | unclaimedByCheck mode comes => cases comes_terminated terminating comes
  | connect running | reject running | logIn running | failAttempt running
  | keepLoggingIn running | goOnline running | unsolicited running | loseLink running
  | launch running | resume running => exact absurd terminating running

/-- A processor that has been asked to end does not wait for anything. -/
theorem exists_turn (terminating : state.terminating) (running : state.mode ≠ .stopped) :
    ∃ reaction, state.turn? config = some reaction := by
  unfold State.turn?
  cases mode : state.mode with
  | stopped => exact absurd mode running
  | offline outage stage =>
    simp only [if_pos terminating]
    exact ⟨_, rfl⟩
  | online link refresh activity =>
    cases activity with
    | idle =>
      simp only [State.turnOnline?, if_pos terminating]
      exact ⟨_, rfl⟩
    | pausing job retries resume =>
      simp only [State.turnOnline?, if_pos terminating]
      exact ⟨_, rfl⟩
    | running job retries attempt =>
      simp only [State.turnOnline?, Attempt.progress, if_pos terminating]
      exact ⟨_, rfl⟩
    | checking attempt =>
      simp only [State.turnOnline?, Attempt.progress, if_pos terminating]
      exact ⟨_, rfl⟩

/-! ## Events -/

theorem mode_occur_of_stopped (event : Event) (h : state.mode = .stopped) :
    (state.occur event).1.mode = .stopped := by
  cases event with
  | submit ticket command => exact (occur_submit ticket command state).1.trans h
  | recur periodic => rw [State.occur, h]; exact h
  | connected success => rw [State.occur, h]; exact h
  | arrive frame => exact congrArg (Mode.mapLink _) h
  | dry error => exact congrArg (Mode.mapLink _) h
  | choke => exact congrArg (Mode.mapLink _) h
  | _ => exact h

theorem terminating_occur (event : Event) (h : state.terminating) :
    (state.occur event).1.terminating := by
  cases event with
  | submit ticket command =>
    rw [State.occur, State.submit]
    split
    · rfl
    · exact h
    · split <;> exact h
  | recur periodic => rw [State.occur]; split <;> exact h
  | connected success => rw [State.occur]; split <;> exact h
  | terminate => rfl
  | _ => exact h

theorem terminating_of_asks {event : Event} (asks : event.AsksForEnd) (state : State) :
    (state.occur event).1.terminating := by
  cases event with
  | terminate => rfl
  | submit ticket command =>
    have hkind : command.kind = .terminate := asks
    rw [State.occur, State.submit, hkind]
  | _ => cases asks

theorem publications_occur (event : Event) (state : State) :
    publications (state.occur event).2 = [] :=
  filterMap_occur overlooks_published.answer overlooks_published.abandon event state

end

/-! ## Steps -/

/-- A processor that has been asked to end, or has done so. -/
structure State.Ending (state : State) : Prop where
  fit : state.Fit
  sound : state.Sound
  asked : state.mode = .stopped ∨ state.terminating

section

variable (config : Config) {state : State}

theorem moment_of_stopped (h : state.mode = .stopped) :
    Moment.of config state .turn = ⟨state, .turn, [], state⟩ := by
  apply moment_of_no_turn
  rw [State.turn?, h]

/-- The next turn of a processor that has been asked to end is its last. -/
theorem ends_moment (ending : state.Ending) (running : state.mode ≠ .stopped) :
    Ends state.owed
      ((Moment.of config state .turn).after, (Moment.of config state .turn).effects) := by
  have terminating := ending.asked.resolve_left running
  obtain ⟨reaction, hturn⟩ : ∃ reaction, state.turn? config = some reaction :=
    exists_turn terminating running
  rw [moment_of_turn hturn]
  exact ends_turn ending.fit terminating (turns_of_turn hturn)

theorem ending_keeps (state : State) (step : Step) (ending : state.Ending) :
    (Moment.of config state step).after.Ending := by
  refine ⟨fit_moment config state step ending.fit, sound_moment config state step ending.sound, ?_⟩
  cases step with
  | event event =>
    exact ending.asked.imp (mode_occur_of_stopped event) (terminating_occur event)
  | turn =>
    by_cases stopped : state.mode = .stopped
    · rw [moment_of_stopped config stopped]
      exact .inl stopped
    · exact .inl (ends_moment config ending stopped).stopped

theorem sent_ending (ending : state.Ending) (step : Step) :
    sent (Moment.of config state step).effects = [] := by
  cases step with
  | event event => exact (occur_keeps event state).2.2
  | turn =>
    by_cases stopped : state.mode = .stopped
    · rw [moment_of_stopped config stopped]
      rfl
    · exact (ends_moment config ending stopped).sent

/-- The account of all answers at the end, over one step. -/
theorem clears_ending (state : State) (step : Step) (ending : state.Ending) :
    Clears Call.ShutsDown (state.owed ++ (Moment.of config state step).submitted)
      (answers (Moment.of config state step).effects)
      (Moment.of config state step).after.owed := by
  cases step with
  | event event => exact clears_occur config Call.shutsDown_at_once state event
  | turn =>
    show Clears Call.ShutsDown (state.owed ++ []) _ _
    rw [List.append_nil]
    by_cases stopped : state.mode = .stopped
    · rw [moment_of_stopped config stopped]
      exact .refl _
    · -- Everybody who waits is answered by the last turn, and nobody is left.
      have ends := ends_moment config ending stopped
      rw [owed_of_stopped (ending_keeps config state .turn ending).sound ends.stopped]
      exact ⟨state.owed, by rw [List.append_nil], ends.answers⟩

/-! ## Runs -/

theorem sent_run_ending (steps : List Step) (ending : state.Ending) :
    sent (run config steps state).2 = [] := by
  induction steps generalizing state with
  | nil => rfl
  | cons step rest ih =>
    rw [effects_run_cons, sent_append, sent_ending config ending step,
      ih (ending_keeps config state step ending)]
    rfl

/-- A processor that has stopped stays so, and publishes nothing. -/
theorem run_stopped (steps : List Step) (stopped : state.mode = .stopped) :
    (run config steps state).1.mode = .stopped
      ∧ publications (run config steps state).2 = []
      ∧ (run config steps state).1.published = state.published := by
  induction steps generalizing state with
  | nil => exact ⟨stopped, rfl, rfl⟩
  | cons step rest ih =>
    rw [effects_run_cons, state_run_cons, publications_append]
    cases step with
    | event event =>
      obtain ⟨hmode, hpublications, hpublished⟩ := ih (mode_occur_of_stopped event stopped)
      refine ⟨hmode, ?_, hpublished.trans (published_occur event state)⟩
      show publications (state.occur event).2 ++ _ = []
      rw [publications_occur]
      exact hpublications
    | turn =>
      rw [moment_of_stopped config stopped]
      exact ih stopped

/-- Nothing that happens around a processor publishes anything. -/
theorem run_events {steps : List Step} (waiting : Step.turn ∉ steps) (state : State) :
    publications (run config steps state).2 = []
      ∧ (run config steps state).1.published = state.published := by
  induction steps generalizing state with
  | nil => exact ⟨rfl, rfl⟩
  | cons step rest ih =>
    rw [List.mem_cons, not_or] at waiting
    cases step with
    | turn => exact absurd rfl waiting.1
    | event event =>
      obtain ⟨hpublications, hpublished⟩ := ih waiting.2 (state.occur event).1
      rw [effects_run_cons, state_run_cons, publications_append]
      refine ⟨?_, hpublished.trans (published_occur event state)⟩
      show publications (state.occur event).2 ++ _ = []
      rw [publications_occur]
      exact hpublications

/-- With the first turn the processor has stopped, and it has published so once. -/
theorem run_turn {steps : List Step} (taken : Step.turn ∈ steps) (ending : state.Ending) :
    (run config steps state).1.mode = .stopped
      ∧ (state.mode ≠ .stopped →
        publications (run config steps state).2 = [.disconnected]) := by
  induction steps generalizing state with
  | nil => cases taken
  | cons step rest ih =>
    rw [effects_run_cons, state_run_cons, publications_append]
    cases step with
    | event event =>
      have later : Step.turn ∈ rest := by simpa using taken
      obtain ⟨hmode, hpublications⟩ := ih later (ending_keeps config state _ ending)
      refine ⟨hmode, fun running => ?_⟩
      show publications (state.occur event).2 ++ _ = _
      rw [publications_occur]
      exact hpublications fun stopped => running (occur_stopped stopped).1
    | turn =>
      -- This is the turn in which the processor stops, unless it has stopped before.
      by_cases stopped : state.mode = .stopped
      · rw [moment_of_stopped config stopped]
        exact ⟨(run_stopped config rest stopped).1, fun running => absurd stopped running⟩
      · have ends := ends_moment config ending stopped
        obtain ⟨hmode, hpublications, -⟩ := run_stopped config rest ends.stopped
        refine ⟨hmode, fun _ => ?_⟩
        rw [hpublications, List.append_nil]
        exact ends.publications

/-- A processor is ending from the moment on in which the end is asked for. -/
theorem ending_reached (epoch : UnixTime) (past : List Step) {request : Event}
    (asks : request.AsksForEnd) :
    (reached config epoch (past ++ [.event request])).Ending := by
  refine ⟨fit_reached .., sound_reached .., .inr ?_⟩
  rw [reached, state_run_concat]
  exact terminating_of_asks asks _

theorem sendable_of_call? {job : Job} {call : Call} (fit : job.Fit)
    (h : job.call? = some call) : Sendable call.command.kind := by
  obtain ⟨command, origin⟩ := job
  cases origin with
  | caller ticket =>
    cases h
    exact fit.sendable
  | internal => cases h

/-- Whoever still waits has asked neither for the end nor for a login. -/
theorem sendable_of_owed (fit : state.Fit) {call : Call} (owed : call ∈ state.owed) :
    Sendable call.command.kind := by
  rcases List.mem_append.mp owed with owed | owed
  · obtain ⟨job, busy, hcall⟩ := Option.bind_eq_some_iff.mp (Option.mem_toList.mp owed)
    refine sendable_of_call? ?_ hcall
    cases mode : state.mode with
    | online link refresh activity =>
      rw [mode] at busy
      have hactivity := (fit.online mode).2.2
      cases activity with
      | running job retries attempt =>
        cases busy
        exact hactivity.1
      | pausing job retries resume =>
        cases busy
        exact hactivity
      | _ => cases busy
    | _ =>
      rw [mode] at busy
      cases busy
  · obtain ⟨job, queued, hcall⟩ := List.mem_filterMap.mp owed
    exact sendable_of_call? (fit.queue job queued) hcall

end

/-- **The end is safe.** Whatever a processor has been through and whatever happens later, from the
moment on in which the end is asked for:

* No frame is handed over.
* The commands of those who still wait, and those submitted later, can be arranged so that each of
  them comes back by one answer and each answer brings one of them back, even if the processor goes
  away. Those which were not over come back as failed by the shutdown.
* Until the next turn, and if the processor has stopped before, nothing is published. Otherwise it
  is published once that there is no connection.
* With the next turn the processor has stopped. Then nobody waits, and there is no connection. -/
theorem shuts_down_safely (config : Config) (epoch : UnixTime) (past : List Step)
    (request : Event) (later : List Step) (asks : request.AsksForEnd) :
    let asked := reached config epoch (past ++ [.event request])
    let last := run config later asked
    sent last.2 = []
    ∧ (∃ calls : List Call,
      calls.Perm (asked.owed ++ (moments config later asked).flatMap Moment.submitted)
        ∧ List.Forall₂ Call.ShutsDown calls (answers (last.2 ++ last.1.abandonAll)))
    ∧ (asked.mode = .stopped ∨ Step.turn ∉ later →
      publications last.2 = [] ∧ last.1.published = asked.published)
    ∧ (asked.mode ≠ .stopped → Step.turn ∈ later → publications last.2 = [.disconnected])
    ∧ (Step.turn ∈ later → last.1.mode = .stopped)
    ∧ (last.1.mode = .stopped → last.1.published = .disconnected ∧ last.1.abandonAll = []) := by
  intro asked last
  have ending : asked.Ending := ending_reached config epoch past asks
  obtain ⟨⟨settled, perm, hsettled⟩, ended⟩ :=
    run_clears config (ending_keeps config) (clears_ending config) later ending
  refine ⟨sent_run_ending config later ending, ?_, ?_, ?_, ?_, ?_⟩
  · -- Those who still wait in the end get the news that nobody will answer.
    refine ⟨settled ++ last.1.owed, perm.symm, ?_⟩
    rw [answers_append, answers_abandonAll]
    refine List.rel_append hsettled ?_
    rw [List.forall₂_map_right_iff, List.forall₂_same]
    intro call owed
    exact Call.shutsDown_abandoned (sendable_of_owed ended.fit owed)
  · rintro (stopped | waiting)
    · exact (run_stopped config later stopped).2
    · exact run_events config waiting asked
  · intro running taken
    exact (run_turn config taken ending).2 running
  · intro taken
    exact (run_turn config taken ending).1
  · intro stopped
    refine ⟨?_, ?_⟩
    · have hmode := ended.fit.mode
      rwa [stopped] at hmode
    · rw [State.abandonAll, owed_of_stopped ended.sound stopped]
      rfl

/-- The end is asked for while a velocity is set. Its confirmation has arrived, its time is up, and
another command waits; a third one comes when all is over. -/
theorem shuts_down_safely_while_running :
    let config : Config :=
      { hostname := "gateway", password := "secret", refreshOnConnect := false }
    let velocity : Command := { request := .setVelocity 3 .silent }
    let past : List Step :=
      loginSteps ++ refreshSteps versionAnswer
        ++ [.event (.submit 1 velocity), .turn, .event (.submit 2 { request := .ping }),
          .event (.arrive ⟨0x020b, [0, 3]⟩), .event (.elapse 1000000000000)]
    let later : List Step := [.turn, .event (.submit 3 { request := .getVersion })]
    let asked := reached config 0 (past ++ [.event .terminate])
    let last := run config later asked
    Event.terminate.AsksForEnd
      ∧ asked.owed.map Call.ticket = [1, 2]
      ∧ asked.mode.link?.map Link.inbound = some [⟨0x020b, [0, 3]⟩]
      ∧ asked.alarm?.any (· ≤ asked.now)
      ∧ sent last.2 = []
      ∧ (∃ calls : List Call,
        calls.Perm (asked.owed ++ (moments config later asked).flatMap Moment.submitted)
          ∧ List.Forall₂ Call.ShutsDown calls (answers (last.2 ++ last.1.abandonAll)))
      ∧ publications last.2 = [.disconnected] ∧ last.1.published = .disconnected := by
  intro config velocity past later asked last
  have running : asked.mode ≠ .stopped := by decide
  have taken : Step.turn ∈ later := List.mem_cons_self
  obtain ⟨hsent, hcalls, -, hpublications, hstopped, hover⟩ :=
    shuts_down_safely config 0 past .terminate later trivial
  exact ⟨trivial, by decide, by decide, by decide, hsent, hcalls, hpublications running taken,
    (hover (hstopped taken)).1⟩

end ShutterGateway.Processor
