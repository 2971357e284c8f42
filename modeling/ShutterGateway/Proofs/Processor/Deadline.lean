import ShutterGateway.Proofs.Processor.Attempts

/-!
Until when answers are awaited. An attempt has the time of its kind of command, from the instant at
which its request is handed over. Its own session can announce that it takes longer, and nothing
else moves the deadline, which never comes closer. If the time passes only while nothing is to be
done, and not past the alarm that the processor has set, then no attempt is out after its deadline,
and one that nothing else ends times out at this very instant.
-/

namespace ShutterGateway

/-- The rest of a session is announced by one kind of notification, which holds the seconds. -/
theorem Frame.remaining?_eq_some {frame : Frame} {seconds : UInt16}
    (h : frame.remaining? = some seconds) :
    frame.opcode? = some .commandRemainingTimeNtf
      ∧ (frame.payload.drop 4).take 2 = wordBytes seconds := by
  obtain ⟨opcode, hopcode, hread⟩ := Option.bind_eq_some_iff.mp h
  unfold Opcode.remainingOf? Opcode.readRemaining at hread
  split at hread
  · refine ⟨hopcode, ?_⟩
    split at hread
    · cases hread
    · rename_i long
      have hhi : 4 < frame.payload.length := by omega
      have hlo : 5 < frame.payload.length := by omega
      have hread : joinWord (frame.payload.getD 4 0) (frame.payload.getD 5 0) = seconds :=
        Option.some.inj hread
      have hseconds : joinWord frame.payload[4] frame.payload[5] = seconds := by
        simpa [hhi, hlo] using hread
      rw [← hseconds, wordBytes_joinWord, List.drop_eq_getElem_cons hhi,
        List.drop_eq_getElem_cons hlo]
      rfl
  · cases hread

namespace Command

variable {frame : Frame}

/-- Which frames belong to a command depends on its request and its session alone. -/
theorem accepts_congr {a b : Command} (request : a.request = b.request)
    (session : a.session? = b.session?) (frame : Frame) : a.accepts frame = b.accepts frame := by
  rw [accepts_eq, accepts_eq, descriptor, descriptor, kind, kind, request, session]

/-- A command is told the rest of its own session only. -/
theorem carriesSession_of_remaining {command : Command} {seconds : UInt16}
    (accepts : command.accepts frame) (remaining : frame.remaining? = some seconds) :
    ∃ session, command.session? = some session ∧ frame.CarriesSession session := by
  obtain ⟨hopcode, hseconds⟩ := Frame.remaining?_eq_some remaining
  have hlength := congrArg List.length hseconds
  simp only [List.length_take, List.length_drop, length_wordBytes] at hlength
  exact carriesSession_of_accepts accepts hopcode rfl (by omega)

end Command

namespace Processor

/-! ## The deadline of an attempt -/

/-- The instant up to which a frame extends an attempt that takes it: when the time that is left to
its session is over, and that of a confirmation. -/
def extension? (config : Config) (heard : Instant × Frame) : Option Instant :=
  heard.2.remaining?.map fun seconds =>
    heard.1 + (Duration.ofSeconds seconds.toNat).nanos + config.confirmationTimeout.nanos

/-- The instants up to which an attempt at a command is extended by those frames that belong to
it. -/
def extensions (config : Config) (command : Command) (heard : List (Instant × Frame)) :
    List Instant :=
  (heard.filter (command.accepts ·.2)).filterMap (extension? config)

section

variable {config : Config} {attempt : Attempt}

theorem accepts_hearAll (heard : List (Instant × Frame)) (attempt : Attempt) (frame : Frame) :
    (attempt.hearAll config heard).command.accepts frame = attempt.command.accepts frame := by
  rw [command_hearAll]
  obtain ⟨request, session⟩ := attempt.command.receiveAll_keeps (heard.map Prod.snd)
  exact Command.accepts_congr request session frame

theorem deadline_hear (heard : Instant × Frame) (attempt : Attempt) :
    (attempt.hear config heard).deadline
      = (extensions config attempt.command [heard]).foldl max attempt.deadline := by
  unfold Attempt.hear extensions
  by_cases accepts : attempt.command.accepts heard.2
  · rw [if_pos accepts, Attempt.extend, List.filter_singleton, accepts, cond_true]
    cases hremaining : heard.2.remaining? with
    | none => simp [extension?, hremaining]
    | some seconds => simp [extension?, hremaining]
  · rw [if_neg accepts, List.filter_singleton, Bool.eq_false_iff.mpr accepts]
    rfl

/-- The deadline is the latest of the instants up to which the attempt was extended. -/
theorem deadline_hearAll (heard : List (Instant × Frame)) (attempt : Attempt) :
    (attempt.hearAll config heard).deadline
      = (extensions config attempt.command heard).foldl max attempt.deadline := by
  induction heard generalizing attempt with
  | nil => rfl
  | cons first rest ih =>
    -- What has been heard does not change which frames belong to the command.
    have hrest : extensions config (attempt.hear config first).command rest
        = extensions config attempt.command rest := by
      have same : (attempt.hear config first).command.accepts = attempt.command.accepts :=
        funext (accepts_hearAll [first] attempt)
      rw [extensions, extensions, same]
    have hall : extensions config attempt.command (first :: rest)
        = extensions config attempt.command [first] ++ extensions config attempt.command rest := by
      rw [extensions, ← List.singleton_append, List.filter_append, List.filterMap_append]
      rfl
    show ((attempt.hear config first).hearAll config rest).deadline = _
    rw [ih, hrest, deadline_hear, hall, List.foldl_append]

theorem deadline_le_hear (heard : Instant × Frame) (attempt : Attempt) :
    attempt.deadline ≤ (attempt.hear config heard).deadline := by
  unfold Attempt.hear Attempt.extend
  split
  · split
    · exact Nat.le_refl _
    · exact Nat.le_max_left ..
  · exact Nat.le_refl _

theorem deadline_le_hearAll (heard : List (Instant × Frame)) (attempt : Attempt) :
    attempt.deadline ≤ (attempt.hearAll config heard).deadline := by
  induction heard generalizing attempt with
  | nil => exact Nat.le_refl _
  | cons first rest ih => exact Nat.le_trans (deadline_le_hear first attempt) (ih _)

/-- Frames that do not belong to the command leave the attempt as it is. -/
theorem hearAll_of_not_accepts {heard : List (Instant × Frame)}
    (foreign : ∀ one ∈ heard, ¬ attempt.command.accepts one.2) :
    attempt.hearAll config heard = attempt := by
  induction heard with
  | nil => rfl
  | cons first rest ih =>
    obtain ⟨hfirst, hrest⟩ := List.forall_mem_cons.mp foreign
    show (attempt.hear config first).hearAll config rest = attempt
    rw [Attempt.hear, if_neg hfirst]
    exact ih hrest

end

/-! ## An attempt that is out -/

/-- An attempt at a command is out. -/
def State.Awaits (state : State) (command : Command) (attempt : Attempt) : Prop :=
  ∃ activity, state.mode.activity? = some activity ∧ activity.asked? = some command
    ∧ activity.attempt? = some attempt

/-- Nothing but the time ends an attempt in the next turn: the end is not asked for, the connection
has not come to its end, and no frame is taken that decides the attempt. -/
structure State.Undisturbed (state : State) (attempt : Attempt) : Prop where
  running : ¬ state.terminating
  alive : ∀ link, state.mode.link? = some link → link.ended? = none
  undecided : ∀ frame, state.taken? = some frame → attempt.command.accepts frame →
    ¬ (attempt.command.respond frame).isTerminal

section

variable {config : Config} {state : State} {link : Link} {refresh : List Request}
  {activity : Activity} {command : Command} {attempt : Attempt} {step : Step}

theorem asked?_after (change : Attempt → Attempt) (activity : Activity) :
    (activity.after change).asked? = activity.asked? := by
  cases activity <;> rfl

theorem attempt?_after (change : Attempt → Attempt) (activity : Activity) :
    (activity.after change).attempt? = activity.attempt?.map change := by
  cases activity <;> rfl

theorem State.Awaits.attempt?_eq (awaits : state.Awaits command attempt) :
    state.attempt? = some attempt := by
  obtain ⟨activity, hactivity, -, hattempt⟩ := awaits
  rw [State.attempt?, hactivity]
  exact hattempt

/-- A moment after which an attempt at a command is out that was not out before. -/
structure Starts (config : Config) (moment : Moment) (command : Command) (attempt : Attempt) :
    Prop where
  awaits : moment.after.Awaits command attempt
  begun : attempt = moment.before.attempting config command
  hands : moment.requests ≠ []
  now : moment.after.now = moment.before.now

theorem Hands.starts {moment : Moment} {next : Attempt → Activity}
    (hands : Hands config moment command next)
    (asked : ∀ attempt, (next attempt).asked? = some command)
    (attempted : ∀ attempt, (next attempt).attempt? = some attempt)
    (out : moment.after.attempt? = some attempt) : Starts config moment command attempt := by
  obtain ⟨frame, -, request⟩ := hands.request
  have awaits : moment.after.Awaits command (moment.before.attempting config command) :=
    ⟨_, hands.out, asked _, attempted _⟩
  obtain rfl := Option.some.inj (awaits.attempt?_eq.symm.trans out)
  exact ⟨awaits, rfl, request ▸ List.cons_ne_nil _ _, hands.now⟩

/-- An attempt that is out after a moment was started by it, or the processor has gone on with what
it did. -/
theorem Goes.of_out {moment : Moment} (goes : Goes config moment)
    (out : moment.after.attempt? = some attempt) :
    (∃ command, Starts config moment command attempt)
      ∨ moment.after.mode.activity?
          = moment.before.mode.activity?.map (Activity.after (Attempt.hearAll config moment.heard))
        ∧ moment.requests = []
        ∧ (moment.step = .turn → moment.after.now = moment.before.now) := by
  cases goes with
  | on activity silent now => exact .inr ⟨activity, silent, now⟩
  | pauses _ _ _ _ _ pausing =>
    rw [State.attempt?, pausing] at out
    cases out
  | resumes _ _ _ hands => exact .inl ⟨_, hands.starts (fun _ => rfl) (fun _ => rfl) out⟩
  | begins _ hands => exact .inl ⟨_, hands.starts (fun _ => rfl) (fun _ => rfl) out⟩
  | checks hands => exact .inl ⟨_, hands.starts (fun _ => rfl) (fun _ => rfl) out⟩
  | ends free =>
    obtain ⟨activity, hactivity, hattempt⟩ := Option.bind_eq_some_iff.mp out
    rw [free activity hactivity] at hattempt
    cases hattempt

/-- An attempt that does not end is out still, and no other request is handed over. -/
theorem out_of_unended (sound : state.Sound) (out : state.attempt? = some attempt)
    (unended : (Moment.of config state step).ended config = []) :
    (Moment.of config state step).requests = []
      ∧ ∃ later, (Moment.of config state step).after.attempt? = some later := by
  -- The request that was out and those handed over are out now, which is one at most.
  have hlength := length_flight_moment config state step sound
  have hflight := length_flight_le (Moment.of config state step).after
  rw [unended, flight_eq state, out] at hlength
  simp only [Option.map_some, Option.toList_some, List.length_singleton, List.length_nil,
    Nat.zero_add] at hlength
  refine ⟨List.eq_nil_of_length_eq_zero (by omega), ?_⟩
  cases hlater : (Moment.of config state step).after.attempt? with
  | some later => exact ⟨later, rfl⟩
  | none =>
    rw [flight_eq, hlater] at hlength
    exact absurd hlength (by simp)

/-- An attempt that does not end has heard what was taken. -/
theorem State.Awaits.on (awaits : state.Awaits command attempt) (sound : state.Sound)
    (fit : state.Fit) (unended : (Moment.of config state step).ended config = []) :
    (Moment.of config state step).after.Awaits command
        (attempt.hearAll config (Moment.of config state step).heard)
      ∧ (Moment.of config state step).requests = []
      ∧ (step = .turn → (Moment.of config state step).after.now = state.now) := by
  obtain ⟨silent, later, out⟩ := out_of_unended sound awaits.attempt?_eq unended
  obtain ⟨activity, hactivity, hasked, hattempt⟩ := awaits
  have hbefore : (Moment.of config state step).before.mode.activity? = some activity := hactivity
  rcases (goes_moment config step fit).of_out out with ⟨other, starts⟩ | ⟨hears, -, now⟩
  · exact absurd silent starts.hands
  · rw [hbefore] at hears
    refine ⟨⟨_, hears, (asked?_after ..).trans hasked, ?_⟩, silent, now⟩
    rw [attempt?_after, hattempt]
    rfl

/-- The command of an attempt that is out stands as the one that was given. -/
theorem State.Awaits.status_eq (awaits : state.Awaits command attempt) (fit : state.Fit) :
    attempt.command.status = command.status := by
  obtain ⟨activity, hactivity, hasked, hattempt⟩ := awaits
  obtain ⟨link, refresh, mode⟩ := exists_online_of_activity hactivity
  have hfit : activity.Fit := (fit.online mode).2.2
  cases activity with
  | running job retries out =>
    cases hasked
    cases hattempt
    exact hfit.2.2
  | checking out =>
    cases hasked
    cases hattempt
    exact hfit.2
  | idle => cases hasked
  | pausing => cases hasked

/-! ## The next turn -/

theorem exists_online_of_attempt (out : state.attempt? = some attempt) :
    ∃ link refresh activity, state.mode = .online link refresh activity
      ∧ activity.attempt? = some attempt := by
  obtain ⟨activity, hactivity, hattempt⟩ := Option.bind_eq_some_iff.mp out
  obtain ⟨link, refresh, mode⟩ := exists_online_of_activity hactivity
  exact ⟨link, refresh, activity, mode, hattempt⟩

/-- The processor waits for the deadline of the attempt that is out. -/
theorem alarm?_of_attempt (out : state.attempt? = some attempt) :
    state.alarm? = some attempt.deadline := by
  obtain ⟨link, refresh, activity, mode, attempted⟩ := exists_online_of_attempt out
  rw [State.alarm?, mode]
  cases activity with
  | running => cases attempted; rfl
  | checking => cases attempted; rfl
  | idle => cases attempted
  | pausing => cases attempted

theorem turn?_eq_none_iff (mode : state.mode = .online link refresh activity)
    (attempted : activity.attempt? = some attempt) :
    state.turn? config = none ↔ (attempt.progress config state link).1 = .waiting := by
  rw [State.turn?, mode]
  show state.turnOnline? config link refresh activity = none ↔ _
  cases activity with
  | running job retries out =>
    cases attempted
    rw [State.turnOnline?]
    generalize attempt.progress config state link = result
    obtain ⟨progress, left⟩ := result
    cases progress <;> simp
  | checking out =>
    cases attempted
    rw [State.turnOnline?]
    generalize attempt.progress config state link = result
    obtain ⟨progress, left⟩ := result
    cases progress <;> simp
  | idle => cases attempted
  | pausing => cases attempted

/-- With nothing to do, the processor has no frame to take and time left. -/
theorem waits_of_no_turn (out : state.attempt? = some attempt) (h : state.turn? config = none) :
    state.buffered = [] ∧ state.now < attempt.deadline := by
  obtain ⟨link, refresh, activity, mode, attempted⟩ := exists_online_of_attempt out
  have comes := attempt.comes_progress config state link
  have waiting := (turn?_eq_none_iff mode attempted).mp h
  generalize attempt.progress config state link = result at comes waiting
  cases comes with
  | waiting running silent alive early =>
    exact ⟨(buffered_of_online mode).trans silent, Nat.lt_of_not_le early⟩
  | _ => cases waiting

/-- What ends an attempt that is not disturbed is the time. -/
theorem timeout_of_ended (out : state.attempt? = some attempt)
    (undisturbed : state.Undisturbed attempt)
    (ended : (Moment.of config state .turn).ended config = [command]) :
    command = attempt.command.fail .timeout ∧ attempt.deadline ≤ state.now := by
  obtain ⟨link, refresh, activity, mode, attempted⟩ := exists_online_of_attempt out
  obtain ⟨outcome, left, -, comes⟩ := exists_progress_of_ended mode attempted ended
  cases comes with
  | terminated terminating => exact absurd terminating undisturbed.running
  | done running arrived accepts terminal =>
    have taken := taken?_of_arrived running mode attempted arrived
    exact absurd terminal (undisturbed.undecided _ taken accepts)
  | linkLost _ _ lost =>
    rw [undisturbed.alive link (by rw [mode]; rfl)] at lost
    cases lost
  | timedOut _ _ _ late => exact ⟨rfl, late⟩

/-- An attempt that is not disturbed, with no frame to take, waits for its deadline, and times out
when that has come. -/
theorem turn_of_silent (config : Config) (out : state.attempt? = some attempt)
    (undisturbed : state.Undisturbed attempt) (silent : state.buffered = []) :
    (state.now < attempt.deadline → state.turn? config = none)
      ∧ (attempt.deadline ≤ state.now →
        (Moment.of config state .turn).ended config = [attempt.command.fail .timeout]) := by
  obtain ⟨link, refresh, activity, mode, attempted⟩ := exists_online_of_attempt out
  have hinbound : link.inbound = [] := (buffered_of_online mode).symm.trans silent
  have halive : link.ended? = none := undisturbed.alive link (by rw [mode]; rfl)
  have hprogress : attempt.progress config state link
      = if attempt.deadline ≤ state.now then
          (.ended (attempt.command.fail .timeout) .timedOut, link)
        else (.waiting, link) := by
    rw [Attempt.progress, if_neg undisturbed.running, hinbound, halive]
    rfl
  constructor
  · intro early
    rw [turn?_eq_none_iff mode attempted, hprogress, if_neg (Nat.not_le.mpr early)]
  · intro late
    have comes := attempt.comes_progress config state link
    rw [hprogress, if_pos late] at comes
    show (state.ended? config).toList = _
    rw [ended?_of_comes mode attempted comes]
    rfl

end

/-! ## Punctual runs -/

/-- The instant up to which time passes. -/
def Moment.elapsed? (moment : Moment) : Option Instant :=
  match moment.step with
  | .event (.elapse instant) => some instant
  | _ => none

/-- Time passes only while nothing is to be done, and not past the alarm. -/
def Moment.Punctual (config : Config) (moment : Moment) : Prop :=
  ∀ instant ∈ moment.elapsed?,
    (moment.before.turn? config).isNone ∧ ∀ alarm ∈ moment.before.alarm?, instant ≤ alarm

instance (config : Config) (moment : Moment) : Decidable (moment.Punctual config) :=
  inferInstanceAs (Decidable (∀ instant ∈ moment.elapsed?, _ ∧ _))

/-- The frames that the connection delivers, with the instant. -/
def Moment.incoming (moment : Moment) : List (Instant × Frame) :=
  moment.delivered.map (moment.before.now, ·)

/-- The frames that wait, with the time. -/
def State.timed (state : State) : List (Instant × Frame) :=
  state.buffered.map (state.now, ·)

/-- A moment after which the deadline of an attempt has not passed. What waited and what arrives is
heard or waits then, and no frame has been left waiting while time passed. -/
structure OnTime (config : Config) (attempt : Attempt) (moment : Moment) : Prop where
  now_le : moment.after.now ≤ (attempt.hearAll config moment.heard).deadline
  order : moment.before.timed ++ moment.incoming = moment.heard ++ moment.after.timed

section

variable {config : Config} {state : State} {command : Command} {attempt : Attempt} {step : Step}

theorem now_occur {event : Event} (untimed : ∀ instant, event ≠ .elapse instant) :
    (state.occur event).1.now = state.now := by
  cases event with
  | elapse instant => exact absurd rfl (untimed instant)
  | submit ticket command =>
    rw [State.occur, State.submit]
    split
    · rfl
    · rfl
    · split <;> rfl
  | recur periodic =>
    rw [State.occur]
    split <;> rfl
  | connected success =>
    rw [State.occur]
    split <;> rfl
  | arrive | dry | choke | terminate => rfl

/-- Where the time stands still, nothing is late. -/
theorem onTime_of_now {later : Attempt} (sound : state.Sound)
    (silent : (Moment.of config state step).requests = [])
    (out : (Moment.of config state step).after.attempt? = some later)
    (now : (Moment.of config state step).after.now = state.now)
    (early : state.now ≤ attempt.deadline) : OnTime config attempt (.of config state step) := by
  constructor
  · rw [now]
    exact Nat.le_trans early (deadline_le_hearAll ..)
  · obtain ⟨-, -, -, order⟩ := continues_moment config sound silent out
    have timed := congrArg (List.map (state.now, ·)) order
    rw [List.map_append, List.map_append] at timed
    rw [State.timed, State.timed, now]
    exact timed

/-- When time passes punctually, no frame waits and the deadline has not come. -/
theorem onTime_elapse {instant : Instant} (out : state.attempt? = some attempt)
    (early : state.now ≤ attempt.deadline)
    (punctual : (Moment.of config state (.event (.elapse instant))).Punctual config) :
    OnTime config attempt (.of config state (.event (.elapse instant))) := by
  obtain ⟨idle, alarm⟩ := punctual instant rfl
  constructor
  · exact Nat.max_le.mpr ⟨early, alarm _ (alarm?_of_attempt out)⟩
  · -- A frame that waits would have been something to do.
    have hidle : state.turn? config = none := Option.isNone_iff_eq_none.mp idle
    have hbefore : state.buffered = [] := (waits_of_no_turn out hidle).1
    have hafter : (state.occur (.elapse instant)).1.buffered = [] := hbefore
    show state.timed ++ [] = [] ++ (state.occur (.elapse instant)).1.timed
    rw [State.timed, State.timed, hbefore, hafter]
    rfl

/-- A punctual step in which the attempt goes on is not late. -/
theorem State.Awaits.onTime (awaits : state.Awaits command attempt) (sound : state.Sound)
    (fit : state.Fit) (unended : (Moment.of config state step).ended config = [])
    (punctual : (Moment.of config state step).Punctual config)
    (early : state.now ≤ attempt.deadline) : OnTime config attempt (.of config state step) := by
  obtain ⟨after, silent, hturn⟩ := awaits.on sound fit unended
  cases step with
  | turn => exact onTime_of_now sound silent after.attempt?_eq (hturn rfl) early
  | event event =>
    by_cases elapses : ∃ instant, event = .elapse instant
    · obtain ⟨instant, rfl⟩ := elapses
      exact onTime_elapse awaits.attempt?_eq early punctual
    · have now : (state.occur event).1.now = state.now :=
        now_occur fun instant same => elapses ⟨instant, same⟩
      exact onTime_of_now sound silent after.attempt?_eq now early

/-! ## Runs -/

/-- An attempt that no step ends is out after a run, and has heard what was taken in it. -/
theorem State.Awaits.run (awaits : state.Awaits command attempt) (sound : state.Sound)
    (fit : state.Fit) (more : List Step)
    (unended : (moments config more state).flatMap (Moment.ended config) = []) :
    (Processor.run config more state).1.Awaits command
      (attempt.hearAll config ((moments config more state).flatMap Moment.heard)) := by
  induction more generalizing state attempt with
  | nil => exact awaits
  | cons step rest ih =>
    obtain ⟨hfirst, hrest⟩ := List.append_eq_nil_iff.mp unended
    have awaits' := (awaits.on sound fit hfirst).1
    have hrun := ih awaits' (sound_moment config state step sound)
      (fit_moment config state step fit) hrest
    rw [moments, List.flatMap_cons, hearAll_append]
    exact hrun

/-- Over a punctual run in which an attempt is out, its deadline is not passed, and every frame is
taken at the instant at which it arrives. -/
theorem State.Awaits.onTime_run (awaits : state.Awaits command attempt) (sound : state.Sound)
    (fit : state.Fit) (early : state.now ≤ attempt.deadline) (more : List Step)
    (unended : (moments config more state).flatMap (Moment.ended config) = [])
    (punctual : ∀ moment ∈ moments config more state, moment.Punctual config) :
    (Processor.run config more state).1.now
        ≤ (attempt.hearAll config ((moments config more state).flatMap Moment.heard)).deadline
      ∧ state.timed ++ (moments config more state).flatMap Moment.incoming
        = (moments config more state).flatMap Moment.heard
          ++ (Processor.run config more state).1.timed := by
  induction more generalizing state attempt with
  | nil => exact ⟨early, List.append_nil _⟩
  | cons step rest ih =>
    obtain ⟨hfirst, hrest⟩ := List.append_eq_nil_iff.mp unended
    obtain ⟨pfirst, prest⟩ := List.forall_mem_cons.mp punctual
    have onTime := awaits.onTime sound fit hfirst pfirst early
    obtain ⟨later, order⟩ := ih (awaits.on sound fit hfirst).1
      (sound_moment config state step sound) (fit_moment config state step fit) onTime.now_le
      hrest prest
    have horder : state.timed ++ (Moment.of config state step).incoming
        = (Moment.of config state step).heard ++ (Moment.of config state step).after.timed :=
      onTime.order
    rw [moments, List.flatMap_cons, List.flatMap_cons, hearAll_append]
    refine ⟨later, ?_⟩
    rw [← List.append_assoc, horder, List.append_assoc, order, List.append_assoc]
    rfl

end

/-- **An attempt times out exactly at its deadline, which its own session alone puts off.** Let a
request be handed over at some moment of any run, so that an attempt at a command is out.

* The attempt has the time of the kind of its command, from that instant. It is extended only by
  notifications that carry its own session and hold the seconds that are left to it; a frame that
  carries another number does not belong to its command.
* Whatever happens then, as long as no step has ended the attempt, it is out. Its deadline is the
  latest of the first one and of those instants up to which the frames have extended it that it has
  heard since, each at the instant at which it was heard. The next step that does not end the
  attempt does not bring the deadline closer, and if no frame is taken in it that belongs to the
  command, it leaves the attempt as it is.
* If nothing disturbs the attempt, then a turn that ends it does so by the timeout, and its deadline
  has come. With no frame to take, the processor has nothing to do at any instant before the
  deadline, and ends the attempt at the deadline or later. A pending command is then failed by the
  timeout.
* If the run was punctual since, then the deadline has not passed while the attempt is out; so what
  times out does so at its deadline. And every frame was heard at the instant at which it had
  arrived, or at that of the request if it was waiting then. -/
theorem times_out_exactly_at_its_deadline (config : Config) (epoch : UnixTime) (steps : List Step)
    (step : Step) {attempt : Attempt}
    (hands : (Moment.of config (reached config epoch steps) step).requests ≠ [])
    (out : (Moment.of config (reached config epoch steps) step).after.attempt? = some attempt) :
    let handing := Moment.of config (reached config epoch steps) step
    ∃ command, handing.after.Awaits command attempt
      ∧ attempt.command = (handing.before.assignSession command).1
      ∧ attempt.deadline = handing.before.now + (config.limit command.descriptor.wait).nanos
      ∧ handing.after.now = handing.before.now
      ∧ (∀ frame seconds, attempt.command.accepts frame → frame.remaining? = some seconds →
        frame.opcode? = some .commandRemainingTimeNtf
          ∧ (frame.payload.drop 4).take 2 = wordBytes seconds
          ∧ ∃ session, attempt.command.session? = some session ∧ frame.CarriesSession session)
      ∧ (∀ frame session, frame.CarriesSession session →
        attempt.command.session? ≠ some session → ¬ attempt.command.accepts frame)
      ∧ ∀ more,
        let since := moments config more handing.after
        let state := (run config more handing.after).1
        since.flatMap (Moment.ended config) = [] →
        ∃ later, state.Awaits command later
          ∧ later.command = attempt.command.receiveAll (since.flatMap Moment.taken)
          ∧ later.deadline = (extensions config attempt.command
              (since.flatMap Moment.heard)).foldl max attempt.deadline
          ∧ (∀ step, let next := Moment.of config state step
            next.ended config = [] →
            ∃ further, next.after.Awaits command further ∧ later.deadline ≤ further.deadline
              ∧ ((∀ frame ∈ next.taken, ¬ attempt.command.accepts frame) → further = later))
          ∧ (state.Undisturbed later →
            (∀ ended, (Moment.of config state .turn).ended config = [ended] →
              ended = later.command.fail .timeout ∧ later.deadline ≤ state.now)
            ∧ (state.buffered = [] → ∀ instant, state.now ≤ instant →
              let waited := (state.occur (.elapse instant)).1
              (instant < later.deadline → waited.turn? config = none)
              ∧ (later.deadline ≤ instant →
                (Moment.of config waited .turn).ended config = [later.command.fail .timeout])))
          ∧ (command.status = .pending →
            (later.command.fail .timeout).status = .failed .timeout)
          ∧ ((∀ moment ∈ since, moment.Punctual config) →
            state.now ≤ later.deadline
            ∧ (state.Undisturbed later → (Moment.of config state .turn).ended config ≠ [] →
              state.now = later.deadline)
            ∧ handing.after.timed ++ since.flatMap Moment.incoming
              = since.flatMap Moment.heard ++ state.timed) := by
  intro handing
  have sound : handing.after.Sound := sound_moment config _ step (sound_reached config epoch steps)
  have fit : handing.after.Fit := fit_moment config _ step (fit_reached config epoch steps)
  obtain ⟨command, awaits, begun, -, hnow⟩ : ∃ command, Starts config handing command attempt :=
    ((goes_moment config step (fit_reached config epoch steps)).of_out out).resolve_right
      fun goesOn => hands goesOn.2.1
  have hcommand : attempt.command = (handing.before.assignSession command).1 :=
    congrArg Attempt.command begun
  have hdeadline : attempt.deadline
      = handing.before.now + (config.limit command.descriptor.wait).nanos :=
    congrArg Attempt.deadline begun
  refine ⟨command, awaits, hcommand, hdeadline, hnow, ?_, ?_, ?_⟩
  · intro frame seconds accepts remaining
    obtain ⟨hopcode, hseconds⟩ := Frame.remaining?_eq_some remaining
    exact ⟨hopcode, hseconds, Command.carriesSession_of_remaining accepts remaining⟩
  · intro frame session carries other accepts
    exact other (Command.session?_of_accepts accepts carries).2
  intro more since state unended
  have stateSound : state.Sound := (run_keeps (sound_moment config) more sound).2
  have stateFit : state.Fit := (run_keeps (fit_moment config) more fit).2
  obtain ⟨later, hlater⟩ : ∃ later, later = attempt.hearAll config (since.flatMap Moment.heard) :=
    ⟨_, rfl⟩
  have stillOut : state.Awaits command later := hlater ▸ awaits.run sound fit more unended
  refine ⟨later, stillOut, ?_, ?_, ?_, ?_, ?_, ?_⟩
  · rw [hlater, command_hearAll, map_heard]
  · rw [hlater, deadline_hearAll]
  · intro step next unended
    refine ⟨_, (stillOut.on stateSound stateFit unended).1, deadline_le_hearAll .., ?_⟩
    intro foreign
    refine hearAll_of_not_accepts fun one member => ?_
    obtain ⟨frame, taken, rfl⟩ := List.mem_map.mp member
    rw [hlater, accepts_hearAll]
    exact foreign frame taken
  · intro undisturbed
    refine ⟨fun ended => timeout_of_ended stillOut.attempt?_eq undisturbed, ?_⟩
    intro silent instant ahead waited
    have hnow : waited.now = instant := Nat.max_eq_right ahead
    rw [← hnow]
    have undisturbed' : waited.Undisturbed later :=
      ⟨undisturbed.running, undisturbed.alive, undisturbed.undecided⟩
    exact turn_of_silent config stillOut.attempt?_eq undisturbed' silent
  · intro pending
    exact status_fail_of_pending ((stillOut.status_eq stateFit).trans pending) _
  · intro punctual
    -- The time of the command counts from the instant of the request.
    have start : handing.after.now ≤ attempt.deadline := by
      rw [hnow, hdeadline]
      exact Nat.le_add_right ..
    obtain ⟨early, order⟩ := awaits.onTime_run sound fit start more unended punctual
    rw [← hlater] at early
    refine ⟨early, ?_, order⟩
    intro undisturbed ended
    obtain ⟨result, hresult⟩ := List.exists_mem_of_ne_nil _ ended
    have hended : (Moment.of config state .turn).ended config = [result] :=
      Option.toList_eq_singleton_iff.mpr (Option.mem_toList.mp hresult)
    exact Nat.le_antisymm early (timeout_of_ended stillOut.attempt?_eq undisturbed hended).2

/-- A scene is carried out five seconds long, and after two of them the gateway announces that it
takes another twenty: with the time of a confirmation these make the deadline. -/
theorem times_out_after_announced_time :
    let config : Config :=
      { hostname := "gateway", password := "secret", sessionTimeout := .ofSeconds 5,
        refreshOnConnect := false }
    let second : Instant := (Duration.ofSeconds 1).nanos
    let steps : List Step :=
      loginSteps ++ refreshSteps versionAnswer
        ++ [.event (.elapse second), .event (.submit 1 { request := .executeScene 3 .silent })]
    let attempt : Attempt :=
      ⟨{ request := .executeScene 3 .silent, session? := some 1 }, 6 * second⟩
    let handing := Moment.of config (reached config 0 steps) .turn
    let more : List Step :=
      [.event (.elapse (3 * second)), .event (.arrive ⟨0x0303, [0, 1, 2, 0, 0, 20]⟩), .turn,
        .event (.elapse (25 * second))]
    let state := (run config more handing.after).1
    handing.requests ≠ [] ∧ handing.after.attempt? = some attempt
      ∧ (∀ moment ∈ moments config more handing.after, moment.Punctual config)
      ∧ ∃ later, state.attempt? = some later ∧ later.deadline = 25 * second
        ∧ state.now = later.deadline
        ∧ (Moment.of config state .turn).ended config = [later.command.fail .timeout] := by
  intro config second steps attempt handing more state
  have hands : handing.requests ≠ [] := by decide
  have out : handing.after.attempt? = some attempt := by decide
  have punctual : ∀ moment ∈ moments config more handing.after, moment.Punctual config := by
    decide
  obtain ⟨command, -, -, -, -, -, -, goes⟩ :=
    times_out_exactly_at_its_deadline config 0 steps .turn hands out
  obtain ⟨later, stillOut, -, deadline, -, ends, -, exactly⟩ := goes more (by decide)
  have undisturbed : state.Undisturbed later := by
    refine ⟨by decide, ?_, ?_⟩
    · have alive : state.mode.link?.bind Link.ended? = none := by decide
      exact Option.bind_eq_none_iff.mp alive
    · have silent : state.taken? = none := by decide
      intro frame taken
      cases silent.symm.trans taken
  obtain ⟨result, ended⟩ : ∃ result, (Moment.of config state .turn).ended config = [result] :=
    List.length_eq_one_iff.mp (by decide)
  obtain ⟨-, now, -⟩ := exactly punctual
  refine ⟨hands, out, punctual, later, stillOut.attempt?_eq, deadline.trans (by decide),
    now undisturbed (ended ▸ List.cons_ne_nil _ _), ?_⟩
  rw [ended, ((ends undisturbed).1 result ended).1]

end Processor

end ShutterGateway
