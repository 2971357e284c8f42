import Mathlib.Data.List.Chain
import ShutterGateway.Proofs.Processor.Attempts

/-!
Trying again. A job is tried once, and again after every attempt that the gateway refuses for a
reason which clears up, as long as attempts are left. Each attempt begins with the command as it was
given, so that its result comes from the frames of that attempt alone. Between two attempts there is
a pause, in which nothing is sent and only the end of the processor counts.
-/

namespace ShutterGateway

/-- The command has failed because the gateway had no free session or was busy. -/
def Command.RefusedForNow (command : Command) : Prop :=
  command.error? = some (.rejected .noFreeSession)
    ∨ command.error? = some (.rejected (.gateway .busy))

theorem Command.refusedForNow_iff {command : Command} :
    command.RefusedForNow ↔ command.error?.any (·.isTransient) := by
  unfold RefusedForNow
  cases herror : command.error? with
  | none => simp
  | some error =>
    cases error with
    | rejected rejection =>
      cases rejection with
      | gateway fault => cases fault <;> simp [CommandError.isTransient, Rejection.isTransient]
      | _ => simp [CommandError.isTransient, Rejection.isTransient]
    | _ => simp [CommandError.isTransient]

namespace Processor

/-- An attempt at a job: the moment at which its request was handed over, the moments from then on
to its end, and those of the pause after it. -/
structure Trial where
  handing : Moment
  since : List Moment
  pause : List Moment

namespace Trial

variable (config : Config) (job : Job) (trial : Trial)

def moments : List Moment := trial.handing :: (trial.since ++ trial.pause)

/-- The command of the job as it was given, with the session number of this attempt. -/
def fresh : Command := (trial.handing.before.assignSession job.command).1

/-- What comes of the command by the frames that were taken during this attempt. -/
def result : Command := (trial.fresh job).receiveAll (trial.since.flatMap Moment.taken)

/-- When the pause after the attempt is over. -/
def pauseEnd : Instant :=
  (trial.since.getLast?.getD trial.handing).before.now
    + config.confirmationTimeout.quarter.nanos

/-- The job was not tried before: no pause has gone before the attempt. -/
def TakesUp : Prop :=
  ∀ job retries resume,
    trial.handing.before.mode.activity? ≠ some (.pausing job retries resume)

/-- The request of the attempt was handed over, and no other until the next attempt. -/
structure Sends : Prop where
  request : ∃ frame, (trial.fresh job).frame? = .ok frame ∧ trial.handing.requests = [frame]
  once : ∀ moment ∈ trial.since ++ trial.pause, moment.requests = []

/-- The attempt ended by a refusal for now. -/
structure Refused : Prop where
  ended : ∃ last, trial.since.getLast? = some last ∧ last.ended config = [trial.result job]
  refused : (trial.result job).RefusedForNow

/-- An attempt is made after another: when its pause is over, and only if the end has not been asked
for. -/
structure Follows (next : Trial) : Prop where
  due : trial.pauseEnd config ≤ next.handing.before.now
  running : ¬ next.handing.before.terminating

end Trial

/-- The attempts at a job from the moment on at which it was taken up, the last of which is being
made or is followed by a pause. -/
structure Trials (config : Config) (job : Job) (past : List Moment) (earlier : List Trial)
    (last : Trial) : Prop where
  history : ∃ before, past = before ++ (earlier ++ [last]).flatMap Trial.moments
  first : (earlier.headD last).TakesUp
  sends : ∀ trial ∈ earlier ++ [last], trial.Sends job
  refused : ∀ trial ∈ earlier, trial.Refused config job
  follows : (earlier ++ [last]).IsChain (Trial.Follows config)

section

variable {config : Config} {job : Job} {past : List Moment} {earlier : List Trial} {last : Trial}
  {moment : Moment}

theorem length_requests_of_sends {trials : List Trial}
    (sends : ∀ trial ∈ trials, trial.Sends job) :
    ((trials.flatMap Trial.moments).flatMap Moment.requests).length = trials.length := by
  induction trials with
  | nil => rfl
  | cons trial rest ih =>
    obtain ⟨⟨⟨frame, -, request⟩, once⟩, hrest⟩ := List.forall_mem_cons.mp sends
    have hsilent : (trial.since ++ trial.pause).flatMap Moment.requests = [] :=
      List.flatMap_eq_nil_iff.mpr once
    rw [List.flatMap_cons, List.flatMap_append, List.length_append, ih hrest, Trial.moments,
      List.flatMap_cons, request, hsilent, List.length_cons, Nat.add_comm]
    rfl

/-- The attempts before the last are not concerned by what becomes of it. -/
theorem isChain_concat {trial : Trial} :
    (earlier ++ [trial]).IsChain (Trial.Follows config)
      ↔ earlier.IsChain (Trial.Follows config)
        ∧ ∀ before ∈ earlier.getLast?, before.Follows config trial := by
  rw [List.isChain_append]
  simp

namespace Trials

/-- The first attempt at a job. -/
theorem begin (past : List Moment) (fresh : Trial.TakesUp ⟨moment, [], []⟩)
    (hands : Hands config moment job.command (.running job config.transientRetries)) :
    Trials config job (past ++ [moment]) [] ⟨moment, [], []⟩ := by
  refine ⟨⟨past, rfl⟩, fresh, ?_, List.forall_mem_nil _, .singleton _⟩
  intro trial member
  obtain rfl := List.mem_singleton.mp member
  exact ⟨hands.request, List.forall_mem_nil _⟩

/-- A moment without a request belongs to the last attempt, or to the pause after it. -/
theorem extend (trials : Trials config job past earlier last) {trial : Trial}
    (handing : trial.handing = last.handing)
    (moments : trial.since ++ trial.pause = last.since ++ last.pause ++ [moment])
    (silent : moment.requests = []) : Trials config job (past ++ [moment]) earlier trial := by
  obtain ⟨⟨before, hpast⟩, first, sends, refused, follows⟩ := trials
  rw [List.forall_mem_append, List.forall_mem_singleton] at sends
  obtain ⟨hearlier, hlast⟩ := sends
  rw [isChain_concat] at follows
  refine ⟨⟨before, ?_⟩, ?_, ?_, refused, ?_⟩
  · rw [hpast]
    simp only [List.flatMap_append, List.flatMap_singleton, Trial.moments, handing, moments,
      List.append_assoc, List.cons_append]
  · cases earlier with
    | nil =>
      show Trial.TakesUp trial
      rw [Trial.TakesUp, handing]
      exact first
    | cons head rest => exact first
  · rw [List.forall_mem_append, List.forall_mem_singleton]
    refine ⟨hearlier, ?_, ?_⟩
    · rw [Trial.fresh, handing]
      exact hlast.request
    · rw [moments, List.forall_mem_append, List.forall_mem_singleton]
      exact ⟨hlast.once, silent⟩
  · rw [isChain_concat]
    refine ⟨follows.1, fun before member => ?_⟩
    obtain ⟨due, running⟩ := follows.2 before member
    rw [← handing] at due running
    exact ⟨due, running⟩

/-- The job is tried again. -/
theorem again (trials : Trials config job past earlier last) (refused : last.Refused config job)
    {retries : Nat} (follows : last.Follows config ⟨moment, [], []⟩)
    (hands : Hands config moment job.command (.running job retries)) :
    Trials config job (past ++ [moment]) (earlier ++ [last]) ⟨moment, [], []⟩ := by
  obtain ⟨⟨before, hpast⟩, first, hsends, hrefused, hfollows⟩ := trials
  have hmoments : (earlier ++ [last] ++ [Trial.mk moment [] []]).flatMap Trial.moments
      = (earlier ++ [last]).flatMap Trial.moments ++ [moment] := List.flatMap_append ..
  refine ⟨⟨before, ?_⟩, ?_, ?_, ?_, ?_⟩
  · rw [hpast, hmoments, List.append_assoc]
  · cases earlier <;> exact first
  · rw [List.forall_mem_append, List.forall_mem_singleton]
    exact ⟨hsends, hands.request, List.forall_mem_nil _⟩
  · rw [List.forall_mem_append, List.forall_mem_singleton]
    exact ⟨hrefused, refused⟩
  · rw [isChain_concat]
    refine ⟨hfollows, fun before member => ?_⟩
    rw [List.getLast?_concat] at member
    obtain rfl := Option.some.inj member
    exact follows

/-- Every attempt has handed over one request. -/
theorem length_requests (trials : Trials config job past earlier last) :
    (((earlier ++ [last]).flatMap Trial.moments).flatMap Moment.requests).length
      = earlier.length + 1 := by
  rw [length_requests_of_sends trials.sends, List.length_append]
  rfl

end Trials

end

/-- The attempt that is out is the last one at a job. -/
structure Running (config : Config) (past : List Moment) (job : Job) (retries : Nat)
    (attempt : Attempt) (earlier : List Trial) (last : Trial) : Prop where
  trials : Trials config job past earlier last
  pause : last.pause = []
  budget : earlier.length + retries = config.transientRetries
  attempt : attempt = (last.handing.before.attempting config job.command).hearAll config
    (last.since.flatMap Moment.heard)

/-- A job is put off after the last attempt at it. -/
structure Pausing (config : Config) (past : List Moment) (job : Job) (retries : Nat)
    (resume : Instant) (earlier : List Trial) (last : Trial) : Prop where
  trials : Trials config job past earlier last
  refused : last.Refused config job
  budget : earlier.length + 1 + retries = config.transientRetries
  resume : resume = last.pauseEnd config

/-- How a job that is carried out has fared so far. -/
structure Fares (config : Config) (past : List Moment) (state : State) : Prop where
  fit : state.Fit
  running : ∀ job retries attempt, state.mode.activity? = some (.running job retries attempt) →
    ∃ earlier last, Running config past job retries attempt earlier last
  pausing : ∀ job retries resume, state.mode.activity? = some (.pausing job retries resume) →
    ∃ earlier last, Pausing config past job retries resume earlier last

section

variable {config : Config} {past : List Moment} {state : State} {job : Job} {retries : Nat}
  {attempt : Attempt} {earlier : List Trial} {last : Trial} {moment : Moment}

theorem Running.command_eq (running : Running config past job retries attempt earlier last) :
    attempt.command = last.result job := by
  rw [running.attempt, command_hearAll, map_heard]
  rfl

/-- An attempt that goes on. -/
theorem Running.on (running : Running config past job retries attempt earlier last)
    (silent : moment.requests = []) :
    Running config (past ++ [moment]) job retries (attempt.hearAll config moment.heard) earlier
      ⟨last.handing, last.since ++ [moment], []⟩ := by
  obtain ⟨trials, pause, budget, hattempt⟩ := running
  refine ⟨trials.extend rfl ?_ silent, rfl, budget, ?_⟩
  · rw [pause, List.append_nil, List.append_nil]
  · rw [List.flatMap_append, List.flatMap_singleton, hearAll_append, ← hattempt]

/-- A frame that the attempt takes as an answer counts for its result. -/
theorem result_concat {frame : Frame} (taken : moment.taken = [frame])
    (accepts : (last.result job).accepts frame) :
    Trial.result job ⟨last.handing, last.since ++ [moment], []⟩
      = (last.result job).respond frame := by
  rw [Trial.result, List.flatMap_append, List.flatMap_singleton, taken, Command.receiveAll_append]
  exact if_pos accepts

/-- An attempt that is refused for now. -/
theorem Running.refused {frame : Frame}
    (running : Running config past job (retries + 1) attempt earlier last)
    (taken : moment.taken = [frame]) (accepts : attempt.command.accepts frame)
    (ended : moment.ended config = [attempt.command.respond frame])
    (refused : (attempt.command.respond frame).RefusedForNow) (silent : moment.requests = []) :
    Pausing config (past ++ [moment]) job retries
      (moment.before.now + config.confirmationTimeout.quarter.nanos) earlier
      ⟨last.handing, last.since ++ [moment], []⟩ := by
  have hresult : Trial.result job ⟨last.handing, last.since ++ [moment], []⟩
      = attempt.command.respond frame := by
    rw [running.command_eq] at accepts ⊢
    exact result_concat taken accepts
  refine ⟨(running.on silent).trials, ⟨⟨moment, ?_, ?_⟩, ?_⟩, ?_, ?_⟩
  · exact List.getLast?_concat
  · rw [hresult, ended]
  · rw [hresult]
    exact refused
  · have budget := running.budget
    omega
  · rw [Trial.pauseEnd, List.getLast?_concat]
    rfl

/-- A pause that goes on. -/
theorem Pausing.on {resume : Instant}
    (pausing : Pausing config past job retries resume earlier last)
    (silent : moment.requests = []) :
    Pausing config (past ++ [moment]) job retries resume earlier
      ⟨last.handing, last.since, last.pause ++ [moment]⟩ := by
  obtain ⟨trials, refused, budget, hresume⟩ := pausing
  refine ⟨trials.extend rfl ?_ silent, ⟨refused.ended, refused.refused⟩, budget, hresume⟩
  rw [List.append_assoc]

/-- A pause that is over. -/
theorem Pausing.resumes {resume : Instant}
    (pausing : Pausing config past job retries resume earlier last)
    (due : resume ≤ moment.before.now) (running : ¬ moment.before.terminating)
    (hands : Hands config moment job.command (.running job retries)) :
    Running config (past ++ [moment]) job retries
      (moment.before.attempting config job.command) (earlier ++ [last]) ⟨moment, [], []⟩ := by
  obtain ⟨trials, refused, budget, hresume⟩ := pausing
  have follows : last.Follows config ⟨moment, [], []⟩ := ⟨hresume ▸ due, running⟩
  refine ⟨trials.again refused follows hands, rfl, ?_, rfl⟩
  rw [List.length_append]
  exact budget

theorem Fares.of_free (fit : state.Fit)
    (free : state.mode.activity?.bind Activity.job? = none) : Fares config past state := by
  refine ⟨fit, ?_, ?_⟩
  · intro job retries attempt running
    rw [running] at free
    cases free
  · intro job retries resume pausing
    rw [pausing] at free
    cases free

theorem Fares.of_running (fit : state.Fit)
    (activity : state.mode.activity? = some (.running job retries attempt))
    (running : Running config past job retries attempt earlier last) :
    Fares config past state := by
  refine ⟨fit, ?_, ?_⟩
  · intro other left out same
    cases Option.some.inj (activity.symm.trans same)
    exact ⟨earlier, last, running⟩
  · intro other left resume same
    cases Option.some.inj (activity.symm.trans same)

theorem Fares.of_pausing {resume : Instant} (fit : state.Fit)
    (activity : state.mode.activity? = some (.pausing job retries resume))
    (pausing : Pausing config past job retries resume earlier last) :
    Fares config past state := by
  refine ⟨fit, ?_, ?_⟩
  · intro other left out same
    cases Option.some.inj (activity.symm.trans same)
  · intro other left until_ same
    cases Option.some.inj (activity.symm.trans same)
    exact ⟨earlier, last, pausing⟩

/-- Where the processor goes on with what it does, so does the account of it. -/
theorem Fares.on (fares : Fares config past state) (fit : moment.after.Fit)
    (activity : moment.after.mode.activity?
      = state.mode.activity?.map (Activity.after (Attempt.hearAll config moment.heard)))
    (silent : moment.requests = []) : Fares config (past ++ [moment]) moment.after := by
  cases hactivity : state.mode.activity? with
  | none =>
    rw [hactivity] at activity
    exact .of_free fit (by rw [activity]; rfl)
  | some before =>
    rw [hactivity] at activity
    cases before with
    | idle => exact .of_free fit (by rw [activity]; rfl)
    | checking attempt => exact .of_free fit (by rw [activity]; rfl)
    | running job retries attempt =>
      obtain ⟨earlier, last, running⟩ := fares.running job retries attempt hactivity
      exact .of_running fit activity (running.on silent)
    | pausing job retries resume =>
      obtain ⟨earlier, last, pausing⟩ := fares.pausing job retries resume hactivity
      exact .of_pausing fit activity (pausing.on silent)

theorem fares_moment (step : Step) (fares : Fares config past state) :
    Fares config (past ++ [.of config state step]) (Moment.of config state step).after := by
  have fit := fit_moment config state step fares.fit
  cases goes_moment config step fares.fit with
  | on activity silent => exact fares.on fit activity silent
  | pauses running taken accepts ended refused pausing effects =>
    obtain ⟨earlier, last, hrunning⟩ := fares.running _ _ _ running
    have silent : (Moment.of config state step).requests = [] :=
      (requests_of_sent (by rw [effects]; rfl)).trans (by rw [effects]; rfl)
    exact .of_pausing fit pausing
      (hrunning.refused taken accepts ended (Command.refusedForNow_iff.mpr refused) silent)
  | resumes pausing due running hands =>
    obtain ⟨earlier, last, hpausing⟩ := fares.pausing _ _ _ pausing
    exact .of_running fit hands.out (hpausing.resumes due running hands)
  | begins fresh hands =>
    refine .of_running fit hands.out ⟨Trials.begin past fresh hands, rfl, ?_, rfl⟩
    exact Nat.zero_add _
  | checks hands => exact .of_free fit (by rw [hands.out]; rfl)
  | ends free =>
    refine .of_free fit ?_
    cases hactivity : (Moment.of config state step).after.mode.activity? with
    | none => rfl
    | some activity =>
      rw [free activity hactivity]
      rfl

theorem fares_reached (config : Config) (epoch : UnixTime) (steps : List Step) :
    Fares config (history config epoch steps) (reached config epoch steps) := by
  refine history_induction config epoch steps ?_ fun _ _ step fares => fares_moment step fares
  obtain ⟨outage, stage, mode⟩ := (withdraws_start config epoch).offline
  exact .of_free (fit_start config epoch) (by rw [mode]; rfl)

end

/-! ## The next turn -/

/-- A command is handed back to whoever waits for a job, before anything else is done. -/
structure HandsBack (job : Job) (command : Command) (moment : Moment) : Prop where
  effects : ∃ others, moment.effects = (moment.before.finish command job.origin).2 ++ others
  answer : ∀ ticket, job.origin = .caller ticket →
    ∃ others, answers moment.effects = ⟨ticket, some command⟩ :: others

/-- How many more attempts are left after the next that begins. -/
def State.left (config : Config) (state : State) : Nat :=
  match state.mode.activity? with
  | some (.pausing _ retries _) => retries
  | _ => config.transientRetries

section

variable {config : Config} {state : State} {link : Link} {refresh : List Request} {job : Job}
  {retries : Nat} {attempt : Attempt} {command : Command} {activity : Activity}

theorem handsBack_of_effects {moment : Moment}
    (effects : ∃ others,
      moment.effects = (moment.before.finish command job.origin).2 ++ others) :
    HandsBack job command moment := by
  obtain ⟨others, h⟩ := effects
  refine ⟨⟨others, h⟩, ?_⟩
  intro ticket origin
  rw [h, answers_append, answers_finish, origin]
  exact ⟨answers others, rfl⟩

/-- The end of an attempt at a job is concluded at once. -/
theorem turn?_of_running {left : Link} {outcome : Outcome}
    (mode : state.mode = .online link refresh (.running job retries attempt))
    (comes : attempt.Comes config state link (.ended command outcome, left)) :
    state.turn? config
      = some (state.conclude config left refresh job retries command outcome) := by
  rw [State.turn?, mode]
  show state.turnOnline? config link refresh (.running job retries attempt) = _
  rw [State.turnOnline?, comes.progress_eq]

/-- A turn in which an attempt at a job ends. -/
theorem exists_conclude (mode : state.mode = .online link refresh (.running job retries attempt))
    (ended : (Moment.of config state .turn).ended config = [command]) :
    ∃ outcome left, attempt.Comes config state link (.ended command outcome, left)
      ∧ Moment.of config state .turn
        = ⟨state, .turn, (state.conclude config left refresh job retries command outcome).2,
          (state.conclude config left refresh job retries command outcome).1⟩ := by
  obtain ⟨outcome, left, -, comes⟩ := exists_progress_of_ended mode rfl ended
  exact ⟨outcome, left, comes, moment_of_turn (turn?_of_running mode comes)⟩

/-- Without a frame an attempt ends by one of three errors. -/
theorem Attempt.Comes.fails {left : Link} {outcome : Outcome}
    (comes : attempt.Comes config state link (.ended command outcome, left))
    (mode : state.mode = .online link refresh activity)
    (unanswered : outcome ≠ .done) :
    state.taken? = none ∧ ∃ error,
      error ∈ [.shutdown, .connectivity .connectionLost, CommandError.timeout]
        ∧ command = attempt.command.fail error := by
  rw [State.taken?, buffered_of_online mode]
  cases comes with
  | terminated terminating => exact ⟨by simp [terminating], _, by simp, rfl⟩
  | done => exact absurd rfl unanswered
  | linkLost running silent => exact ⟨by simp [silent], _, by simp, rfl⟩
  | timedOut running silent => exact ⟨by simp [silent], _, by simp, rfl⟩

theorem Continues.not_pausing {reaction : Reaction} (h : Continues config state reaction)
    (job : Job) (retries : Nat) (resume : Instant) :
    reaction.1.mode.activity? ≠ some (.pausing job retries resume) := by
  intro pausing
  cases h with
  | free free => cases free _ pausing
  | refresh opens => cases opens.out.symm.trans pausing
  | check opens => cases opens.out.symm.trans pausing

/-- An error that ends an attempt without a frame does not clear up. -/
theorem not_refusedForNow_of_fail {error : CommandError}
    (pending : attempt.command.status = .pending)
    (fails : error ∈ [.shutdown, .connectivity .connectionLost, CommandError.timeout]) :
    ¬ (attempt.command.fail error).RefusedForNow := by
  rw [Command.RefusedForNow, error?_fail_of_pending pending]
  intro refused
  simp only [List.mem_cons, List.not_mem_nil, or_false] at fails
  rcases fails with rfl | rfl | rfl <;> rcases refused with h | h <;> cases h

/-- An attempt ends by the answer that it takes or without one. After an answer by which the command
has failed for now there is a pause if attempts are left. In all other cases the command is handed
back. -/
theorem turn_concluded (fit : state.Fit)
    (out : state.mode.activity? = some (.running job retries attempt))
    (ended : (Moment.of config state .turn).ended config = [command]) :
    ((∃ frame, (Moment.of config state .turn).taken = [frame] ∧ attempt.command.accepts frame
          ∧ command = attempt.command.respond frame)
        ∨ (Moment.of config state .turn).taken = [] ∧ ∃ error,
          error ∈ [.shutdown, .connectivity .connectionLost, CommandError.timeout]
            ∧ command = attempt.command.fail error)
      ∧ ((Moment.of config state .turn).taken ≠ [] ∧ command.RefusedForNow ∧ 0 < retries →
        (Moment.of config state .turn).effects = []
          ∧ (Moment.of config state .turn).after.mode.activity?
            = some (.pausing job (retries - 1)
              (state.now + config.confirmationTimeout.quarter.nanos)))
      ∧ (¬ ((Moment.of config state .turn).taken ≠ [] ∧ command.RefusedForNow ∧ 0 < retries) →
        HandsBack job command (.of config state .turn)
          ∧ ∀ other left resume, (Moment.of config state .turn).after.mode.activity?
            ≠ some (.pausing other left resume)) := by
  obtain ⟨link, refresh, mode⟩ := exists_online_of_activity out
  obtain ⟨outcome, left, comes, hturn⟩ := exists_conclude mode ended
  obtain ⟨-, sendable, -, -, -⟩ := fit.online mode
  have htaken : (Moment.of config state .turn).taken = state.taken?.toList := rfl
  have hanswered : (Moment.of config state .turn).taken ≠ [] ↔ outcome = .done := by
    by_cases answered : outcome = .done
    · subst answered
      obtain ⟨frame, taken, -⟩ := comes.taken_of_done mode rfl
      simp [htaken, taken]
    · simp [htaken, (comes.fails mode answered).1, answered]
  have hagain : Again command outcome retries
      ↔ (Moment.of config state .turn).taken ≠ [] ∧ command.RefusedForNow ∧ 0 < retries := by
    rw [Again, ← Command.refusedForNow_iff, hanswered]
  rw [← hagain, htaken, hturn]
  refine ⟨?_, ?_, ?_⟩
  · by_cases answered : outcome = .done
    · subst answered
      exact .inl (comes.taken_of_done mode rfl)
    · obtain ⟨silent, fails⟩ := comes.fails mode answered
      exact .inr ⟨by rw [silent]; rfl, fails⟩
  · intro again
    rw [conclude_again again]
    exact ⟨rfl, rfl⟩
  · intro settled
    have concludes := concludes_conclude config left refresh job retries command outcome state
    obtain ⟨next, hconclude, continues⟩ := continues_conclude sendable settled concludes
    rw [hconclude]
    exact ⟨handsBack_of_effects ⟨_, rfl⟩, continues.finish.not_pausing⟩

/-- A command that was not over before is refused for now by an answer only, so that it need not be
asked whether there was one. -/
theorem turn_ended (fit : state.Fit) (fresh : job.command.status = .pending)
    (out : state.mode.activity? = some (.running job retries attempt))
    (ended : (Moment.of config state .turn).ended config = [command]) :
    ((∃ frame, (Moment.of config state .turn).taken = [frame] ∧ attempt.command.accepts frame
          ∧ command = attempt.command.respond frame)
        ∨ (Moment.of config state .turn).taken = [] ∧ ∃ error,
          error ∈ [.shutdown, .connectivity .connectionLost, CommandError.timeout]
            ∧ command = attempt.command.fail error)
      ∧ (command.RefusedForNow ∧ 0 < retries →
        (Moment.of config state .turn).effects = []
          ∧ (Moment.of config state .turn).after.mode.activity?
            = some (.pausing job (retries - 1)
              (state.now + config.confirmationTimeout.quarter.nanos)))
      ∧ (¬ (command.RefusedForNow ∧ 0 < retries) →
        HandsBack job command (.of config state .turn)
          ∧ ∀ other left resume, (Moment.of config state .turn).after.mode.activity?
            ≠ some (.pausing other left resume)) := by
  obtain ⟨hresult, hpauses, hreturns⟩ := turn_concluded fit out ended
  obtain ⟨link, refresh, mode⟩ := exists_online_of_activity out
  obtain ⟨-, -, -, -, hstatus⟩ := fit.online mode
  have answered (refused : command.RefusedForNow) :
      (Moment.of config state .turn).taken ≠ [] := by
    rcases hresult with ⟨frame, taken, -⟩ | ⟨-, error, fails, rfl⟩
    · rw [taken]
      exact List.cons_ne_nil _ _
    · exact absurd refused (not_refusedForNow_of_fail (hstatus.trans fresh) fails)
  exact ⟨hresult, fun again => hpauses ⟨answered again.1, again⟩,
    fun settled => hreturns fun again => settled again.2⟩

theorem turn_of_pausing (config : Config) {resume : Instant}
    (pausing : state.mode.activity? = some (.pausing job retries resume)) :
    ∃ link refresh, state.turn? config
      = if state.terminating then
          some ((state.finish (job.command.fail .shutdown) job.origin).andThen State.stop)
        else if resume ≤ state.now then
          some (state.launch config link refresh job retries (State.proceed config link refresh))
        else none := by
  obtain ⟨link, refresh, mode⟩ := exists_online_of_activity pausing
  refine ⟨link, refresh, ?_⟩
  rw [State.turn?, mode]
  rfl

/-- The end that falls in a pause brings the command back as it was given, but failed. -/
theorem turn_terminating {resume : Instant}
    (pausing : state.mode.activity? = some (.pausing job retries resume))
    (terminating : state.terminating) :
    HandsBack job (job.command.fail .shutdown) (.of config state .turn)
      ∧ (Moment.of config state .turn).requests = []
      ∧ (Moment.of config state .turn).after.mode = .stopped := by
  obtain ⟨link, refresh, hturn⟩ := turn_of_pausing config pausing
  rw [if_pos terminating] at hturn
  have hsent : sent ((state.finish (job.command.fail .shutdown) job.origin).andThen State.stop).2
      = [] := by
    rw [Reaction.andThen, sent_append, sent_finish, sent_stop]
    rfl
  rw [moment_of_turn hturn]
  refine ⟨handsBack_of_effects ⟨_, rfl⟩, (requests_of_sent hsent).trans hsent, ?_⟩
  exact mode_drain _ _

/-- A job that is launched gets an attempt, or comes back since its request cannot be written. -/
theorem launch_hands {next : State → Reaction} (queue : List Job)
    (mode : state.mode = .online link refresh activity) (sendable : Sendable job.command.kind)
    (turn : state.turn? config
      = some ({ state with queue := queue }.launch config link refresh job retries next)) :
    Hands config (.of config state .turn) job.command (.running job retries)
      ∨ (∃ link, state.mode.link? = some link ∧ link.refusing)
        ∧ HandsBack job
          ((state.assignSession job.command).1.fail (.connectivity .connectionLost))
          (.of config state .turn) := by
  let waiting : State := { state with queue := queue }
  have sessions : waiting.sessions = state.sessions := rfl
  have now : waiting.now = state.now := rfl
  have hlaunch : Opens config waiting job.command (.running job retries)
        (waiting.launch config link refresh job retries next) ∨ _ :=
    opens_or_refused_launch retries next sendable
  rw [moment_of_turn turn]
  rcases hlaunch with opens | ⟨refusing, lost⟩
  · exact .inl ((opens.congr sessions now).hands (requests_of_online mode _))
  · refine .inr ⟨⟨link, by rw [mode]; rfl, refusing⟩, ?_⟩
    have hassigned : (waiting.assignSession job.command).1
        = (state.assignSession job.command).1 := by
      unfold State.assignSession
      split <;> rfl
    rw [lost, hassigned]
    exact handsBack_of_effects ⟨_, rfl⟩

/-- A job that is due is launched by the next turn. -/
theorem exists_launch_of_due (fit : state.Fit) (due : state.due? = some job) :
    ∃ link refresh activity queue, state.mode = .online link refresh activity
      ∧ Sendable job.command.kind
      ∧ state.turn? config
        = some ({ state with queue := queue }.launch config link refresh job
          (state.left config) (State.proceed config link refresh)) := by
  unfold State.due? at due
  split at due
  · rename_i link refresh mode
    split at due
    · rename_i ready
      obtain ⟨running, silent, alive⟩ := ready
      obtain ⟨rest, queue⟩ := List.head?_eq_some_iff.mp due
      have hleft : state.left config = config.transientRetries := by
        rw [State.left, mode]
        rfl
      refine ⟨link, refresh, .idle, rest, mode, (fit.front queue).1.sendable, ?_⟩
      rw [hleft]
      simp [State.turn?, State.turnOnline?, State.turnIdle?, mode, running, silent, alive, queue]
    · cases due
  · rename_i link refresh other retries resume mode
    split at due
    · rename_i ready
      obtain rfl := Option.some.inj due
      have hleft : state.left config = retries := by
        rw [State.left, mode]
        rfl
      have hjob : other.Fit := (fit.online mode).2.2
      refine ⟨link, refresh, _, state.queue, mode, hjob.sendable, ?_⟩
      rw [hleft]
      show state.turn? config
        = some (state.launch config link refresh other retries
          (State.proceed config link refresh))
      simp [State.turn?, State.turnOnline?, mode, ready]
    · cases due
  · cases due

/-- Whenever an attempt at a job is due, it is made, unless the connection takes no more frames. -/
theorem turn_due (fit : state.Fit) (due : state.due? = some job) :
    Hands config (.of config state .turn) job.command (.running job (state.left config))
      ∨ (∃ link, state.mode.link? = some link ∧ link.refusing)
        ∧ HandsBack job
          ((state.assignSession job.command).1.fail (.connectivity .connectionLost))
          (.of config state .turn) := by
  obtain ⟨link, refresh, activity, queue, mode, sendable, turn⟩ :=
    @exists_launch_of_due config state job fit due
  exact launch_hands queue mode sendable turn

/-- A command that was just built has nothing but its request and its session number. -/
theorem fresh_of_built (built : job.command.Built) (trial : Trial) :
    trial.fresh job
      = { request := job.command.request, session? := (trial.fresh job).session? } := by
  have hpristine := built.eq_pristine
  by_cases uses : job.command.descriptor.usesSession
  · rw [Trial.fresh, assignSession_of_uses uses, Command.assignSession, if_pos uses, hpristine]
    rfl
  · rw [Trial.fresh, assignSession_of_plain uses]
    have hsession : job.command.session? = none := by
      rw [hpristine]
      rfl
    show job.command = { request := job.command.request, session? := job.command.session? }
    rw [hsession]
    exact hpristine

end

/-- **What is refused for now is tried again, and nothing else.** Whatever happens to a processor
and in whatever order:

* While an attempt is out at a job for a command that was just built, `earlier` and `last` are the
  attempts at the job since it was taken up. Each has handed over one request; all but the last
  ended by a refusal for now; each but the first was made when the pause after the one before was
  over and while the end was not asked for; and with those that are left they are as many as the
  configuration has retries, and one. The command is what a fresh copy of it, with the session
  number of the last attempt, becomes by the frames of the last attempt.
* When the attempt ends, its command is again what the fresh copy becomes by all its frames, or it
  has failed without a frame by the time, the loss of the connection or the end. If it is refused
  for now and attempts are left, then nothing is done, and the job is put off for the pause.
  Otherwise the command is handed back and nothing is put off.
* While a job is put off, its last attempt was refused for now. When the end is asked for, the
  command is handed back as it was built, but failed by the shutdown, and nothing is sent. Until the
  pause is over, nothing is done.
* Whenever an attempt at a job is due, its request is handed over, unless the connection takes no
  more frames: then the command is handed back. -/
theorem retries_what_is_refused_for_now (config : Config) (epoch : UnixTime) (steps : List Step) :
    let past := history config epoch steps
    let state := reached config epoch steps
    let next := Moment.of config state .turn
    (∀ job retries attempt, state.mode.activity? = some (.running job retries attempt) →
      job.command.Built →
      ∃ earlier last, Trials config job past earlier last ∧ last.pause = []
        ∧ earlier.length + retries = config.transientRetries
        ∧ (((earlier ++ [last]).flatMap Trial.moments).flatMap Moment.requests).length
          = earlier.length + 1
        ∧ attempt.command = last.result job
        ∧ last.fresh job
          = { request := job.command.request, session? := (last.fresh job).session? }
        ∧ ∀ command, next.ended config = [command] →
          let whole : Trial := ⟨last.handing, last.since ++ [next], []⟩
          (command = whole.result job
            ∨ next.taken = [] ∧ ∃ error,
              error ∈ [.shutdown, .connectivity .connectionLost, CommandError.timeout]
                ∧ command = (last.result job).fail error)
          ∧ (command.RefusedForNow ∧ 0 < retries →
            next.effects = []
              ∧ next.after.mode.activity?
                = some (.pausing job (retries - 1) (whole.pauseEnd config)))
          ∧ (¬ (command.RefusedForNow ∧ 0 < retries) →
            HandsBack job command next
              ∧ ∀ other left resume,
                next.after.mode.activity? ≠ some (.pausing other left resume)))
    ∧ (∀ job retries resume, state.mode.activity? = some (.pausing job retries resume) →
      job.command.Built →
      (∃ earlier last, Trials config job past earlier last ∧ last.Refused config job
        ∧ earlier.length + 1 + retries = config.transientRetries
        ∧ (((earlier ++ [last]).flatMap Trial.moments).flatMap Moment.requests).length
          = earlier.length + 1
        ∧ resume = last.pauseEnd config)
      ∧ (state.terminating →
        HandsBack job { request := job.command.request, status := .failed .shutdown } next
          ∧ next.requests = [] ∧ next.after.mode = .stopped)
      ∧ (¬ state.terminating →
        (state.now < resume → state.turn? config = none)
          ∧ (resume ≤ state.now → state.due? = some job)))
    ∧ ∀ job, state.due? = some job →
      Hands config next job.command (.running job (state.left config))
        ∨ (∃ link, state.mode.link? = some link ∧ link.refusing)
          ∧ HandsBack job
            ((state.assignSession job.command).1.fail (.connectivity .connectionLost)) next := by
  intro past state next
  have fares := fares_reached config epoch steps
  refine ⟨?_, ?_, fun job => turn_due fares.fit⟩
  · intro job retries attempt out built
    obtain ⟨earlier, last, running⟩ := fares.running job retries attempt out
    have hcommand := running.command_eq
    refine ⟨earlier, last, running.trials, running.pause, running.budget,
      running.trials.length_requests, hcommand, fresh_of_built built last, ?_⟩
    intro command ended whole
    have pending : job.command.status = .pending := by
      rw [built.eq_pristine]
      rfl
    obtain ⟨hresult, hpauses, hreturns⟩ := turn_ended fares.fit pending out ended
    refine ⟨?_, ?_, hreturns⟩
    · rw [hcommand] at hresult
      refine hresult.imp_left ?_
      rintro ⟨frame, taken, accepts, rfl⟩
      exact (result_concat taken accepts).symm
    · intro again
      obtain ⟨effects, pausing⟩ := hpauses again
      refine ⟨effects, pausing.trans ?_⟩
      rw [Trial.pauseEnd, List.getLast?_concat]
      rfl
  · intro job retries resume put built
    obtain ⟨earlier, last, pausing⟩ := fares.pausing job retries resume put
    refine ⟨⟨earlier, last, pausing.trials, pausing.refused, pausing.budget,
      pausing.trials.length_requests, pausing.resume⟩, ?_, ?_⟩
    · intro terminating
      have hfailed : job.command.fail .shutdown
          = { request := job.command.request, status := .failed .shutdown } := by
        rw [built.eq_pristine]
        rfl
      rw [← hfailed]
      exact turn_terminating put terminating
    · intro running
      obtain ⟨link, refresh, hturn⟩ := turn_of_pausing config put
      rw [if_neg running] at hturn
      refine ⟨fun early => hturn.trans (if_neg (Nat.not_le.mpr early)), fun due => ?_⟩
      obtain ⟨link, refresh, mode⟩ := exists_online_of_activity put
      rw [State.due?, mode]
      exact if_pos ⟨running, due⟩

/-- A velocity that the gateway is too busy to set is put off for a quarter of the time of a
confirmation, and its request is handed over again when that has passed. -/
example :
    let config : Config :=
      { hostname := "gateway", password := "secret", refreshOnConnect := false }
    let velocity : Command := { request := .setVelocity 3 .silent }
    let steps : List Step :=
      loginSteps ++ refreshSteps versionAnswer
        ++ [.event (.submit 1 velocity), .turn] ++ arrival ⟨0x0000, [7]⟩
    let resume : Instant := config.confirmationTimeout.quarter.nanos
    let due := reached config 0 (steps ++ [.event (.elapse resume)])
    (reached config 0 steps).mode.activity?
        = some (.pausing ⟨velocity, .caller 1⟩ (config.transientRetries - 1) resume)
      ∧ due.due? = some ⟨velocity, .caller 1⟩
      ∧ (Moment.of config due .turn).requests = [⟨0x020a, [3, 1, 0]⟩] := by
  decide

end Processor

end ShutterGateway
