import ShutterGateway.Proofs.Processor.Order

/-!
Which frames decide an attempt. Frames are looked at in the order in which they arrive, so that the
frames that an attempt takes are first those that waited when its request was handed over, and then
those that were delivered after it. A job from the queue and a check begin with no frame waiting,
and are decided by answers to their own request only. Nobody takes the frames away that wait when
an attempt is repeated after a pause, or when one request of the refresh follows another: such a
frame is taken for an answer like any other.
-/

namespace ShutterGateway.Processor

/-! ## Frames on the connection -/

namespace State

/-- The attempt whose request is out. -/
def attempt? (state : State) : Option Attempt :=
  state.mode.activity?.bind Activity.attempt?

/-- The frames that have arrived on the connection and were not looked at yet. -/
def buffered (state : State) : List Frame :=
  (state.mode.link?.map Link.inbound).getD []

/-- The frame that the attempt takes when the processor looks at it. -/
def taken? (state : State) : Option Frame :=
  if state.attempt?.isSome ∧ ¬ state.terminating then state.buffered.head? else none

end State

/-- The frame that arrives, if the connection is there and has not come to its end. -/
def Event.delivered (state : State) : Event → List Frame
  | .arrive frame =>
    match state.mode.link? with
    | some link => if link.ended?.isSome then [] else [frame]
    | none => []
  | _ => []

namespace Moment

/-- The frames that the connection delivers. -/
def delivered (moment : Moment) : List Frame :=
  match moment.step with
  | .turn => []
  | .event event => event.delivered moment.before

/-- The frames that an attempt takes. -/
def taken (moment : Moment) : List Frame :=
  match moment.step with
  | .turn => moment.before.taken?.toList
  | .event _ => []

/-- The command of the attempt that was out: what it has ended as, or what it is now. -/
def result? (config : Config) (moment : Moment) : Option Command :=
  match moment.ended config with
  | command :: _ => some command
  | [] => moment.after.attempt?.map (·.command)

end Moment

/-- What a command becomes in a step in which its attempt takes some frames, one at most: it is as
it was, it has got an answer that belongs to it, or it has failed without any. -/
inductive Becomes (taken : List Frame) (command : Command) : Command → Prop where
  | same : Becomes taken command command
  | answered {frame : Frame} (answer : taken = [frame]) (accepts : command.accepts frame) :
    Becomes taken command (command.respond frame)
  | failed {error : CommandError} (silent : taken = []) : Becomes taken command (command.fail error)

/-- How a request comes to be handed over. -/
inductive Begins (before after : State) : Prop where
  /-- A job comes from the queue, and no frame waits. -/
  | queue (idle : before.mode.activity? = some .idle) (silent : after.buffered = [])
  /-- The gateway is asked for its state, and no frame waits. -/
  | check {check : Attempt} (checking : after.mode.activity? = some (.checking check))
    (silent : after.buffered = [])
  /-- A job is tried again after a pause, whatever has arrived in it. -/
  | retry {job : Job} {retries : Nat} {resume : Instant}
    (pausing : before.mode.activity? = some (.pausing job retries resume))
  /-- A request of the refresh follows the login or another job, whatever has arrived. -/
  | refresh {job : Job} {retries : Nat} {attempt : Attempt}
    (busy : before.mode.activity? ≠ some .idle)
    (running : after.mode.activity? = some (.running job retries attempt))
    (internal : job.origin = .internal)

/-- The request of an attempt was handed over at a moment, and none since. -/
structure HandedOver (past : List Moment) (attempt : Attempt) (handing : Moment)
    (since : List Moment) : Prop where
  history : ∃ before, past = before ++ handing :: since
  request : ∃ frame, attempt.command.frame? = .ok frame ∧ handing.requests = [frame]
  last : ∀ moment ∈ since, moment.requests = []

/-- The next frame was delivered after a moment: those that waited then are all taken. -/
def CameAfter (handing : Moment) (since : List Moment) (frame : Frame) : Prop :=
  ∃ earlier later, since.flatMap Moment.delivered = earlier ++ frame :: later
    ∧ since.flatMap Moment.taken = handing.after.buffered ++ earlier

/-- The next frame is one of those that waited already at a moment. -/
def WaitedAt (handing : Moment) (since : List Moment) (frame : Frame) : Prop :=
  ∃ later, handing.after.buffered = since.flatMap Moment.taken ++ frame :: later

section

variable {config : Config} {state : State} {link left : Link} {refresh : List Request}
  {activity : Activity}

theorem attempt?_of_online (mode : state.mode = .online link refresh activity) :
    state.attempt? = activity.attempt? := by
  rw [State.attempt?, mode]
  rfl

theorem buffered_of_online (mode : state.mode = .online link refresh activity) :
    state.buffered = link.inbound := by
  rw [State.buffered, mode]
  rfl

theorem flight_eq (state : State) :
    state.flight = (state.attempt?.map fun attempt => attempt.command.frame?).toList := rfl

theorem link?_mapLink (change : Link → Link) (mode : Mode) :
    (mode.mapLink change).link? = mode.link?.map change := by
  cases mode with
  | offline outage stage => cases stage <;> rfl
  | online link refresh activity => rfl
  | stopped => rfl

/-- What arrives waits behind what has arrived before, and nothing else that happens changes the
frames on the connection. -/
theorem buffered_occur (event : Event) (state : State) :
    (state.occur event).1.buffered = state.buffered ++ event.delivered state := by
  cases event with
  | submit ticket command =>
    rw [State.buffered, State.occur, (occur_submit ticket command state).1]
    exact (List.append_nil _).symm
  | recur periodic =>
    rw [State.occur]
    split <;> exact (List.append_nil _).symm
  | connected success =>
    rw [State.occur]
    split
    · rename_i hmode
      rw [State.buffered, State.buffered, hmode]
      rfl
    · exact (List.append_nil _).symm
  | arrive | dry | choke =>
    simp only [State.occur, State.silently, State.buffered, Event.delivered, link?_mapLink]
    cases state.mode.link? with
    | none => rfl
    | some link =>
      -- After the end of the connection nothing arrives, and it ends once.
      cases hended : link.ended? <;> simp [hended]
  | elapse instant => exact (List.append_nil _).symm
  | terminate => exact (List.append_nil _).symm

/-! ## Before and after a request -/

section

variable {handing : Moment} {since : List Moment} {frame : Frame} {rest : List Frame}

theorem cameAfter_iff (order : handing.after.buffered ++ since.flatMap Moment.delivered
      = since.flatMap Moment.taken ++ frame :: rest) :
    CameAfter handing since frame
      ↔ handing.after.buffered.length ≤ (since.flatMap Moment.taken).length := by
  constructor
  · rintro ⟨earlier, later, -, htaken⟩
    rw [htaken, List.length_append]
    omega
  · intro hlength
    rcases List.append_eq_append_iff.mp order with
      ⟨earlier, htaken, hdelivered⟩ | ⟨waiting, hbuffered, hwaiting⟩
    · exact ⟨earlier, rest, hdelivered, htaken⟩
    · -- Nothing more waited then than what is taken since.
      rw [hbuffered, List.length_append] at hlength
      obtain rfl := List.eq_nil_of_length_eq_zero (show waiting.length = 0 by omega)
      rw [List.append_nil] at hbuffered
      exact ⟨[], rest, hwaiting.symm, by rw [hbuffered, List.append_nil]⟩

theorem waitedAt_iff (order : handing.after.buffered ++ since.flatMap Moment.delivered
      = since.flatMap Moment.taken ++ frame :: rest) :
    WaitedAt handing since frame
      ↔ (since.flatMap Moment.taken).length < handing.after.buffered.length := by
  constructor
  · rintro ⟨later, hbuffered⟩
    rw [hbuffered, List.length_append, List.length_cons]
    omega
  · intro hlength
    rcases List.append_eq_append_iff.mp order with
      ⟨earlier, htaken, -⟩ | ⟨waiting, hbuffered, hwaiting⟩
    · rw [htaken, List.length_append] at hlength
      omega
    · cases waiting with
      | nil =>
        rw [hbuffered, List.append_nil] at hlength
        omega
      | cons first later =>
        obtain rfl := (List.cons.inj hwaiting).1
        exact ⟨later, hbuffered⟩

end

/-! ## What an attempt takes -/

/-- The frame that an attempt takes is the first that waits. -/
theorem taken?_of_arrived {attempt : Attempt} {frame : Frame} {rest : List Frame}
    (running : ¬ state.terminating) (mode : state.mode = .online link refresh activity)
    (attempted : activity.attempt? = some attempt) (arrived : link.inbound = frame :: rest) :
    state.taken? = some frame := by
  have hout : state.attempt?.isSome := by
    rw [attempt?_of_online mode, attempted]
    rfl
  rw [State.taken?, if_pos ⟨hout, running⟩, buffered_of_online mode, arrived]
  rfl

/-- A frame that waits is taken by the attempt as soon as the processor looks at it. -/
theorem Attempt.Comes.taken {attempt : Attempt} {progress : Progress}
    (comes : attempt.Comes config state link (progress, left))
    (mode : state.mode = .online link refresh activity)
    (attempted : activity.attempt? = some attempt) (goes : progress.ended? = none) :
    state.buffered = state.taken?.toList ++ left.inbound := by
  have hout : state.attempt?.isSome := by
    rw [attempt?_of_online mode, attempted]
    rfl
  rw [State.taken?, buffered_of_online mode]
  cases comes with
  | terminated => cases goes
  | done => cases goes
  | ongoing running arrived => simp [hout, running, arrived]
  | unclaimed running arrived => simp [hout, running, arrived]
  | linkLost => cases goes
  | timedOut => cases goes
  | waiting running silent => simp [silent]

theorem Becomes.frame?_eq {taken : List Frame} {command later : Command}
    (h : Becomes taken command later) : later.frame? = command.frame? := by
  cases h with
  | same => rfl
  | answered => exact Command.frame?_respond ..
  | failed => exact Command.frame?_fail ..

theorem Attempt.Comes.becomes_of_ongoing {attempt later : Attempt}
    (comes : attempt.Comes config state link (.ongoing later, left))
    (mode : state.mode = .online link refresh activity)
    (attempted : activity.attempt? = some attempt) :
    Becomes state.taken?.toList attempt.command later.command := by
  have htaken := comes.taken mode attempted rfl
  rw [buffered_of_online mode] at htaken
  cases comes with
  | ongoing running arrived accepts =>
    rw [command_extend]
    exact .answered (List.append_cancel_right (htaken.symm.trans arrived)) accepts

theorem Attempt.Comes.becomes_of_ended {attempt : Attempt} {command : Command} {outcome : Outcome}
    (comes : attempt.Comes config state link (.ended command outcome, left))
    (mode : state.mode = .online link refresh activity)
    (attempted : activity.attempt? = some attempt) :
    Becomes state.taken?.toList attempt.command command := by
  have hout : state.attempt?.isSome := by
    rw [attempt?_of_online mode, attempted]
    rfl
  rw [State.taken?, buffered_of_online mode]
  cases comes with
  | terminated terminating => exact .failed (by simp [terminating])
  | done running arrived accepts => exact .answered (by simp [hout, running, arrived]) accepts
  | linkLost _ silent => exact .failed (by simp [silent])
  | timedOut _ silent => exact .failed (by simp [silent])

/-- As long as frames wait, a processor whose attempt is out has something to do. -/
theorem taken?_of_no_turn (h : state.turn? config = none) : state.taken? = none := by
  have hsilent {link : Link} {refresh : List Request} {activity : Activity}
      (mode : state.mode = .online link refresh activity) (silent : link.inbound = []) :
      state.taken? = none := by
    simp [State.taken?, buffered_of_online mode, silent]
  unfold State.turn? at h
  cases mode : state.mode with
  | stopped => simp [State.taken?, State.attempt?, mode, Mode.activity?]
  | offline outage stage => simp [State.taken?, State.attempt?, mode, Mode.activity?]
  | online link refresh activity =>
    rw [mode] at h
    cases activity with
    | idle => simp [State.taken?, State.attempt?, mode, Mode.activity?, Activity.attempt?]
    | pausing => simp [State.taken?, State.attempt?, mode, Mode.activity?, Activity.attempt?]
    | running _ _ attempt
    | checking attempt =>
      have comes := attempt.comes_progress config state link
      simp only [State.turnOnline?] at h
      generalize attempt.progress config state link = result at h comes
      cases comes with
      | waiting _ silent => exact hsilent mode silent
      | _ => cases h

/-! ## What goes on on a connection -/

/-- No attempt is out, or there is an attempt on a connection at somebody's job or at one for which
nobody waits. -/
inductive GoesOn (link : Link) (origin : Origin) (state : State) : Prop where
  | free (free : state.attempt? = none)
  | running {refresh : List Request} {job : Job} {retries : Nat} {attempt : Attempt}
    (mode : state.mode = .online link refresh (.running job retries attempt))
    (whose : job.origin = origin ∨ job.origin = .internal)

/-- A check of a connection is out. -/
def Checks (link : Link) (state : State) : Prop :=
  ∃ refresh attempt, state.mode = .online link refresh (.checking attempt)

theorem attempt?_of_offline {outage : Outage} {stage : Stage}
    (mode : state.mode = .offline outage stage) : state.attempt? = none := by
  rw [State.attempt?, mode]
  rfl

theorem Withdraws.attempt?_eq_none {reaction : Reaction} (h : Withdraws state reaction) :
    reaction.1.attempt? = none := by
  obtain ⟨outage, stage, mode⟩ := h.offline
  exact attempt?_of_offline mode

theorem attempt?_stop (state : State) : state.stop.1.attempt? = none := by
  have hmode : state.stop.1.mode = .stopped := mode_drain state.queue _
  rw [State.attempt?, hmode]
  rfl

variable {origin : Origin}

theorem goesOn_loseLink (state : State) : GoesOn link origin (state.loseLink config).1 :=
  GoesOn.free (withdraws_loseLink config state).attempt?_eq_none

theorem goesOn_launch (refresh : List Request) (job : Job) (retries : Nat)
    {next : State → Reaction} (whose : job.origin = origin ∨ job.origin = .internal)
    (hnext : ∀ later, GoesOn link origin (next later).1) (state : State) :
    GoesOn link origin (state.launch config link refresh job retries next).1 := by
  obtain ⟨assigned, later, -, -, hbegin⟩ := begin_cases config link job.command state
  unfold State.launch
  rcases hbegin with ⟨error, hbegin⟩ | ⟨-, hbegin⟩ | ⟨frame, deadline, -, hbegin⟩
  · rw [hbegin]
    exact hnext _
  · rw [hbegin]
    exact goesOn_loseLink _
  · rw [hbegin]
    exact .running rfl whose

theorem goesOn_proceed (refresh : List Request) (state : State) :
    GoesOn link origin (State.proceed config link refresh state).1 := by
  induction refresh generalizing state with
  | nil => exact .free rfl
  | cons request rest ih => exact goesOn_launch rest _ _ (.inr rfl) ih state

theorem checks_or_goesOn_check (refresh : List Request) (state : State) :
    Checks link (state.check config link refresh).1
      ∨ GoesOn link origin (state.check config link refresh).1 := by
  obtain ⟨assigned, later, -, -, hbegin⟩ := begin_cases config link { request := .ping } state
  unfold State.check
  rcases hbegin with ⟨error, hbegin⟩ | ⟨-, hbegin⟩ | ⟨frame, deadline, -, hbegin⟩
  · rw [hbegin]
    exact .inr (goesOn_proceed refresh later)
  · rw [hbegin]
    exact .inr (goesOn_loseLink later)
  · rw [hbegin]
    exact .inl ⟨refresh, _, rfl⟩

theorem goesOn_concludeCheck (refresh : List Request) (outcome : Outcome) (state : State) :
    GoesOn link origin (state.concludeCheck config link refresh outcome).1 := by
  cases outcome with
  | done => exact goesOn_proceed refresh state
  | terminated => exact .free (attempt?_stop state)
  | linkLost => exact goesOn_loseLink state
  | timedOut => exact goesOn_loseLink state

/-- Only an attempt without an answer is followed by a check. -/
theorem goesOn_conclude {refresh : List Request} {job : Job} {retries : Nat} {command : Command}
    {outcome : Outcome} {reaction : Reaction}
    (h : Concludes config link refresh job retries command state outcome reaction) :
    (outcome = .timedOut ∧ Checks link reaction.1) ∨ GoesOn link origin reaction.1 := by
  cases h with
  | again => exact .inr (.free rfl)
  | settle => exact .inr (goesOn_concludeCheck refresh outcome _)
  | check => exact (checks_or_goesOn_check refresh _).imp_left fun checks => ⟨rfl, checks⟩

theorem GoesOn.of_attempt {attempt : Attempt} (h : GoesOn link origin state)
    (out : state.attempt? = some attempt) :
    ∃ refresh job retries, state.mode = .online link refresh (.running job retries attempt)
      ∧ (job.origin = origin ∨ job.origin = .internal) := by
  cases h with
  | free free => cases free.symm.trans out
  | running mode whose =>
    obtain rfl := Option.some.inj ((attempt?_of_online mode).symm.trans out)
    exact ⟨_, _, _, mode, whose⟩

/-! ## Turns -/

/-- A turn that hands over no request while an attempt is out goes on with that attempt. What waits
on the connection is what the attempt takes, and what still waits after the turn. -/
theorem continues_turn {reaction : Reaction} {earlier attempt : Attempt}
    (h : Turns config state reaction) (before : state.attempt? = some earlier)
    (goes : state.ended? config = none) (after : reaction.1.attempt? = some attempt) :
    Becomes state.taken?.toList earlier.command attempt.command
      ∧ state.buffered = state.taken?.toList ++ reaction.1.buffered := by
  have hattempt {link : Link} {refresh : List Request} {activity : Activity}
      (mode : state.mode = .online link refresh activity) : activity.attempt? = some earlier :=
    (attempt?_of_online mode).symm.trans before
  cases h with
  | @ongoing link left refresh job retries _ later mode comes =>
    obtain rfl := Option.some.inj (hattempt mode)
    obtain rfl := Option.some.inj after
    exact ⟨comes.becomes_of_ongoing mode rfl, comes.taken mode rfl rfl⟩
  | unclaimed mode comes =>
    obtain rfl := Option.some.inj (hattempt mode)
    rw [state_unsolicited] at after ⊢
    obtain rfl := Option.some.inj after
    exact ⟨.same, comes.taken mode rfl rfl⟩
  | keepChecking mode comes =>
    obtain rfl := Option.some.inj (hattempt mode)
    obtain rfl := Option.some.inj after
    exact ⟨comes.becomes_of_ongoing mode rfl, comes.taken mode rfl rfl⟩
  | unclaimedByCheck mode comes =>
    obtain rfl := Option.some.inj (hattempt mode)
    rw [state_unsolicited] at after ⊢
    obtain rfl := Option.some.inj after
    exact ⟨.same, comes.taken mode rfl rfl⟩
  | conclude mode comes =>
    rw [ended?_of_comes mode rfl comes] at goes
    cases goes
  | concludeCheck mode comes =>
    rw [ended?_of_comes mode rfl comes] at goes
    cases goes
  | stop free =>
    rcases free with ⟨outage, stage, mode⟩ | ⟨link, refresh, mode⟩
    · cases (attempt?_of_offline mode).symm.trans before
    · cases hattempt mode
  | reject _ suspended =>
    obtain ⟨stage, mode⟩ := suspended.offline
    cases (attempt?_of_offline mode).symm.trans before
  | failAttempt _ fails =>
    obtain ⟨stage, mode⟩ := fails.offline
    cases (attempt?_of_offline mode).symm.trans before
  | connect _ mode | logIn _ mode | keepLoggingIn _ mode | goOnline _ mode =>
    cases (attempt?_of_offline mode).symm.trans before
  | unsolicited _ mode | loseLink _ mode | launch _ mode | stopPause mode | resume _ mode =>
    cases hattempt mode

/-- A turn that hands a request over does it in one of four ways. -/
theorem begins_turn {reaction : Reaction} {attempt : Attempt} (h : Turns config state reaction)
    (hands : requests state reaction.2 ≠ []) (out : reaction.1.attempt? = some attempt) :
    Begins state reaction.1 := by
  -- What goes on with a job for which nobody waits, without having been idle, is the refresh.
  have hrefresh {link : Link} (goes : GoesOn link .internal reaction.1)
      (busy : state.mode.activity? ≠ some .idle) : Begins state reaction.1 := by
    obtain ⟨refresh, job, retries, hmode, whose⟩ := goes.of_attempt out
    exact .refresh busy (by rw [hmode]; rfl) (whose.elim id id)
  cases h with
  | stop => cases (attempt?_stop state).symm.trans out
  | connect => cases out
  | reject => exact absurd ((requests_of_sent (sent_finish ..)).trans (sent_finish ..)) hands
  | logIn => cases out
  | failAttempt => cases (withdraws_failAttempt config _ _ state).attempt?_eq_none.symm.trans out
  | keepLoggingIn => cases out
  | goOnline _ mode => exact hrefresh (goesOn_proceed _ _) (by simp [mode, Mode.activity?])
  | unsolicited _ mode =>
    rw [state_unsolicited] at out
    cases out
  | loseLink => cases (withdraws_loseLink config state).attempt?_eq_none.symm.trans out
  | launch _ mode silent =>
    obtain ⟨refresh, job, retries, hmode, -⟩ :=
      (goesOn_launch _ _ _ (.inl rfl) (goesOn_proceed _) _).of_attempt out
    exact .queue (by rw [mode]; rfl) ((buffered_of_online hmode).trans silent)
  | ongoing mode => exact absurd (requests_of_online mode _) hands
  | unclaimed mode => exact absurd ((requests_of_online mode _).trans (sent_unsolicited ..)) hands
  | @conclude _ left refresh job retries _ command outcome mode comes =>
    have concludes := concludes_conclude config left refresh job retries command outcome state
    rcases goesOn_conclude concludes with ⟨rfl, refresh, check, hmode⟩ | goes
    · cases comes with
      | timedOut _ silent =>
        exact .check (by rw [hmode]; rfl) ((buffered_of_online hmode).trans silent)
    · exact hrefresh goes (by simp [mode, Mode.activity?])
  | stopPause => cases (attempt?_stop _).symm.trans out
  | resume _ mode => exact .retry (by rw [mode]; rfl)
  | keepChecking mode => exact absurd (requests_of_online mode _) hands
  | unclaimedByCheck mode =>
    exact absurd ((requests_of_online mode _).trans (sent_unsolicited ..)) hands
  | concludeCheck mode =>
    exact hrefresh (goesOn_concludeCheck _ _ _) (by simp [mode, Mode.activity?])

/-! ## Moments -/

variable (config)

theorem buffered_of_taken {step : Step} {frame : Frame}
    (h : (Moment.of config state step).taken = [frame]) :
    ∃ rest, state.buffered = frame :: rest := by
  cases step with
  | event event => cases h
  | turn =>
    have htaken : state.taken?.toList = [frame] := h
    rw [Option.toList_eq_singleton_iff, State.taken?] at htaken
    split at htaken
    · exact ⟨_, List.eq_cons_of_mem_head? htaken⟩
    · cases htaken

/-- An attempt that is out after a request was handed over is the one that asked for it. -/
theorem begins_moment {step : Step} {attempt : Attempt} (sound : state.Sound)
    (hands : (Moment.of config state step).requests ≠ [])
    (out : (Moment.of config state step).after.attempt? = some attempt) :
    (∃ frame, attempt.command.frame? = .ok frame
        ∧ (Moment.of config state step).requests = [frame])
      ∧ Begins state (Moment.of config state step).after := by
  constructor
  · obtain ⟨settled, hflight, -⟩ := flight_moment config state step sound
    rw [flight_eq (Moment.of config state step).after, out] at hflight
    match hrequests : (Moment.of config state step).requests with
    | [] => exact absurd hrequests hands
    | [frame] =>
      rw [hrequests] at hflight
      have hlast := (List.append_inj' hflight rfl).2
      exact ⟨frame, (List.singleton_inj.mp hlast).symm, rfl⟩
    | _ :: _ :: _ =>
      have hlength := length_requests_le config state step sound
      rw [hrequests] at hlength
      simp at hlength
  · cases step with
    | event event =>
      have hsent := (occur_keeps event state).2.2
      exact absurd ((requests_of_sent hsent).trans hsent) hands
    | turn =>
      cases h : state.turn? config with
      | none =>
        rw [moment_of_no_turn h] at hands
        exact absurd (requests_of_sent rfl) hands
      | some reaction =>
        rw [moment_of_turn h] at hands out ⊢
        exact begins_turn (turns_of_turn h) hands out

/-- An attempt that is out although no request was handed over was out before. What was waiting and
what arrives is what the attempt takes and what waits then. -/
theorem continues_moment {step : Step} {attempt : Attempt} (sound : state.Sound)
    (keeps : (Moment.of config state step).requests = [])
    (out : (Moment.of config state step).after.attempt? = some attempt) :
    ∃ earlier, state.attempt? = some earlier
      ∧ Becomes (Moment.of config state step).taken earlier.command attempt.command
      ∧ state.buffered ++ (Moment.of config state step).delivered
        = (Moment.of config state step).taken ++ (Moment.of config state step).after.buffered := by
  cases step with
  | event event =>
    have hout : (state.occur event).1.attempt? = some attempt := out
    rw [State.attempt?, (occur_keeps event state).1] at hout
    exact ⟨attempt, hout, .same, (buffered_occur event state).symm⟩
  | turn =>
    cases h : state.turn? config with
    | none =>
      rw [moment_of_no_turn h] at out ⊢
      refine ⟨attempt, out, .same, ?_⟩
      show state.buffered ++ [] = state.taken?.toList ++ state.buffered
      rw [taken?_of_no_turn h]
      exact List.append_nil _
    | some reaction =>
      -- One request was out before and is not answered for, since one is out and none is new.
      have hlength := length_flight_moment config state .turn sound
      have hbefore := length_flight_le state
      rw [keeps, flight_eq (Moment.of config state .turn).after, out] at hlength
      cases hattempt : state.attempt? with
      | none =>
        rw [flight_eq, hattempt] at hlength
        simp at hlength
      | some earlier =>
        have hended : state.ended? config = none := by
          have hnone : (state.ended? config).toList.length = 0 := by
            simp only [List.length_nil, Option.map_some, Option.toList_some,
              List.length_singleton, Moment.ended, Moment.of] at hlength
            omega
          simpa using hnone
        rw [moment_of_turn h] at out ⊢
        obtain ⟨hbecomes, hbuffered⟩ := continues_turn (turns_of_turn h) hattempt hended out
        exact ⟨earlier, rfl, hbecomes, (List.append_nil _).trans hbuffered⟩

theorem becomes_of_ended? {attempt : Attempt} {command : Command}
    (out : state.attempt? = some attempt) (ended : state.ended? config = some command) :
    Becomes state.taken?.toList attempt.command command := by
  rw [State.ended?] at ended
  split at ended
  · rename_i link refresh activity mode
    have hattempt := (attempt?_of_online mode).symm.trans out
    have comes := attempt.comes_progress config state link
    rw [hattempt, Option.bind_some] at ended
    generalize attempt.progress config state link = result at ended comes
    obtain ⟨progress, left⟩ := result
    cases progress with
    | ended _ outcome =>
      cases ended
      exact comes.becomes_of_ended mode hattempt
    | waiting => cases ended
    | ongoing => cases ended
    | unclaimed => cases ended
  · cases ended

/-- Whatever happens, the command of an attempt that is out changes by a frame that belongs to it,
or fails without one. -/
theorem becomes_moment {step : Step} {attempt : Attempt} {command : Command} (sound : state.Sound)
    (out : state.attempt? = some attempt)
    (result : (Moment.of config state step).result? config = some command) :
    Becomes (Moment.of config state step).taken attempt.command command := by
  have hlength := length_flight_moment config state step sound
  have hafter := length_flight_le (Moment.of config state step).after
  rw [Moment.result?] at result
  split at result
  · rename_i ended _ hended
    obtain rfl := Option.some.inj result
    cases step with
    | event event => cases hended
    | turn =>
      have hsome : state.ended? config = some ended := by
        have hmem : ended ∈ (state.ended? config).toList := by
          show ended ∈ (Moment.of config state .turn).ended config
          rw [hended]
          exact List.mem_cons_self
        exact Option.mem_toList.mp hmem
      exact becomes_of_ended? config out hsome
  · -- The attempt has not ended, so that no other request was handed over, and it is out still.
    rename_i hended
    obtain ⟨later, hlater, rfl⟩ := Option.map_eq_some_iff.mp result
    have hkeeps : (Moment.of config state step).requests = [] := by
      rw [hended, flight_eq state, out] at hlength
      apply List.eq_nil_of_length_eq_zero
      simp only [Option.map_some, Option.toList_some, List.length_singleton,
        List.length_nil] at hlength
      omega
    obtain ⟨earlier, hearlier, hbecomes, -⟩ := continues_moment config sound hkeeps hlater
    obtain rfl := Option.some.inj (hearlier.symm.trans out)
    exact hbecomes

/-! ## Runs -/

variable (epoch : UnixTime) (steps : List Step)

/-- The request of the attempt that is out was handed over at some moment. What waited then and has
been delivered since is what the attempt has taken since, and what waits now. -/
theorem exists_handedOver {attempt : Attempt}
    (out : (reached config epoch steps).attempt? = some attempt) :
    ∃ handing since, HandedOver (history config epoch steps) attempt handing since
      ∧ Begins handing.before handing.after
      ∧ handing.after.buffered ++ since.flatMap Moment.delivered
        = since.flatMap Moment.taken ++ (reached config epoch steps).buffered := by
  induction steps using List.reverseRecOn generalizing attempt with
  | nil => cases (withdraws_start config epoch).attempt?_eq_none.symm.trans out
  | append_singleton steps step ih =>
    have sound := sound_reached config epoch steps
    have hhistory : history config epoch (steps ++ [step]) = history config epoch steps
        ++ [.of config (reached config epoch steps) step] := moments_concat ..
    have hreached : reached config epoch (steps ++ [step])
        = (Moment.of config (reached config epoch steps) step).after := state_run_concat ..
    rw [hreached] at out ⊢
    rw [hhistory]
    by_cases hands : (Moment.of config (reached config epoch steps) step).requests = []
    · obtain ⟨earlier, hearlier, hbecomes, hbuffered⟩ := continues_moment config sound hands out
      obtain ⟨handing, since, handed, hbegins, horder⟩ := ih hearlier
      obtain ⟨⟨before, hpast⟩, ⟨frame, hframe, hrequests⟩, hlast⟩ := handed
      refine ⟨handing, since ++ [.of config (reached config epoch steps) step],
        ⟨⟨before, ?_⟩, ⟨frame, hbecomes.frame?_eq.trans hframe, hrequests⟩, ?_⟩, hbegins, ?_⟩
      · rw [hpast, List.append_assoc]
        rfl
      · simpa only [List.forall_mem_append, List.forall_mem_singleton] using ⟨hlast, hands⟩
      · simp only [List.flatMap_append, List.flatMap_singleton]
        rw [← List.append_assoc, horder, List.append_assoc, hbuffered, List.append_assoc]
    · -- A request is handed over by this step, and nothing has happened since.
      obtain ⟨hrequest, hbegins⟩ := begins_moment config sound hands out
      exact ⟨.of config (reached config epoch steps) step, [],
        ⟨⟨_, rfl⟩, hrequest, by simp⟩, hbegins, by simp⟩

end

/-- **An attempt is decided by its own answers exactly when no frame is left that waited before its
request.** Whatever happens to a processor and in whatever order, while the request of an attempt is
out:

* The request was handed over at one moment, and no other since. No frame waited then at the first
  attempt at a job from the queue and at a check; otherwise it is another attempt at a job after a
  pause, or a request of the refresh.
* In the next step, whatever it is, the command of the attempt changes only by a frame that belongs
  to it, or by failing without one.
* If a frame is taken in that step, then it was delivered after the request if and only if as many
  frames have been taken since as waited when the request was handed over. Otherwise it is one of
  those that waited. -/
theorem decided_by_later_frames_iff (config : Config) (epoch : UnixTime) (steps : List Step)
    (step : Step) {attempt : Attempt} (out : (reached config epoch steps).attempt? = some attempt) :
    let past := history config epoch steps
    let next := Moment.of config (reached config epoch steps) step
    ∃ handing since, HandedOver past attempt handing since
      ∧ Begins handing.before handing.after
      ∧ (∀ command, next.result? config = some command →
        Becomes next.taken attempt.command command)
      ∧ ∀ frame, next.taken = [frame] →
        (CameAfter handing since frame
            ↔ handing.after.buffered.length ≤ (since.flatMap Moment.taken).length)
          ∧ (WaitedAt handing since frame
            ↔ (since.flatMap Moment.taken).length < handing.after.buffered.length) := by
  intro past next
  have sound := sound_reached config epoch steps
  obtain ⟨handing, since, handed, hbegins, horder⟩ := exists_handedOver config epoch steps out
  refine ⟨handing, since, handed, hbegins, fun command => becomes_moment config sound out, ?_⟩
  intro frame htaken
  obtain ⟨rest, hrest⟩ := buffered_of_taken config htaken
  rw [hrest] at horder
  exact ⟨cameAfter_iff horder, waitedAt_iff horder⟩

/-- The first request of the refresh is out after a login. -/
theorem decided_by_later_frames_of_refresh :
    let config : Config := { hostname := "gateway", password := "secret" }
    let steps : List Step := loginSteps ++ [.event (.arrive versionAnswer)]
    let attempt : Attempt := ⟨{ request := .getVersion }, config.confirmationTimeout.nanos⟩
    let past := history config 0 steps
    let next := Moment.of config (reached config 0 steps) .turn
    (reached config 0 steps).attempt? = some attempt
      ∧ (next.result? config).map Command.status = some .complete
      ∧ ∃ handing since, HandedOver past attempt handing since
        ∧ Begins handing.before handing.after
        ∧ (∀ command, next.result? config = some command →
          Becomes next.taken attempt.command command)
        ∧ ∀ frame, next.taken = [frame] →
          (CameAfter handing since frame
              ↔ handing.after.buffered.length ≤ (since.flatMap Moment.taken).length)
            ∧ (WaitedAt handing since frame
              ↔ (since.flatMap Moment.taken).length < handing.after.buffered.length) := by
  intro config steps attempt past next
  have out : (reached config 0 steps).attempt? = some attempt := by decide
  exact ⟨out, by decide, decided_by_later_frames_iff config 0 steps .turn out⟩

/-- A confirmation that arrives in the pause before a velocity is set again completes the second
attempt: it waited when the request of that attempt was handed over, and no frame came after. -/
theorem waiting_frame_completes_retry :
    let config : Config :=
      { hostname := "gateway", password := "secret", refreshOnConnect := false }
    let velocity : Command := { request := .setVelocity 3 .silent }
    let confirmation : Frame := ⟨0x020b, [0, 3]⟩
    let steps : List Step :=
      loginSteps ++ refreshSteps versionAnswer
        ++ [.event (.submit 1 velocity), .turn] ++ arrival ⟨0x0000, [7]⟩
        ++ [.event (.arrive confirmation), .event (.elapse 500000000)]
    let handing := Moment.of config (reached config 0 steps) .turn
    let next := Moment.of config (reached config 0 (steps ++ [.turn])) .turn
    history config 0 (steps ++ [.turn]) = history config 0 steps ++ [handing]
      ∧ handing.requests = [⟨0x020a, [3, 1, 0]⟩]
      ∧ next.taken = [confirmation] ∧ ¬ CameAfter handing [] confirmation
      ∧ (next.result? config).map Command.status = some .complete := by
  intro config velocity confirmation steps handing next
  refine ⟨moments_concat .., by decide, by decide, ?_, by decide⟩
  rintro ⟨earlier, later, hdelivered, -⟩
  simp at hdelivered

end ShutterGateway.Processor
