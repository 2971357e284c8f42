import ShutterGateway.Proofs.Processor.Attempts
import ShutterGateway.Proofs.Processor.Reconnection
import ShutterGateway.Proofs.Processor.Shutdown

/-!
What a processor knows about the attempts to connect. It keeps two things in mind: whether there
ever was a connection, and how many attempts have failed since. At every point of a run they tell
together whether any attempt has been decided so far.
-/

namespace ShutterGateway.Processor

/-! ## Attempts to connect that are decided -/

/-- An attempt to connect is decided: there is a connection, or the attempt has failed. -/
def Effect.Decides : Effect → Prop
  | .publish .connected | .attemptFailed _ => True
  | _ => False

/-- An attempt to connect is decided in a moment. -/
def Moment.Decides (moment : Moment) : Prop :=
  ∃ effect ∈ moment.effects, effect.Decides

/-- An attempt to connect has been decided: there was a connection, or an attempt has failed. -/
def Decided (past : List Moment) : Prop :=
  ∃ moment ∈ past, moment.Decides

/-- The attempts to connect that go on. -/
def Mode.outage? : Mode → Option Outage
  | .offline outage _ => some outage
  | _ => none

/-- The processor knows that an attempt to connect has been decided. -/
def State.Knows (state : State) : Prop :=
  state.connectedOnce ∨ ∃ outage, state.mode.outage? = some outage ∧ 0 < outage.failures

theorem decided_concat {past : List Moment} {moment : Moment} :
    Decided (past ++ [moment]) ↔ Decided past ∨ moment.Decides := by
  simp [Decided, or_and_right, exists_or]

section

variable {config : Config} {link : Link} {refresh : List Request} {state : State}
  {reaction : Reaction}

theorem knows_of_offline {outage : Outage} {stage : Stage}
    (mode : state.mode = .offline outage stage) :
    state.Knows ↔ state.connectedOnce ∨ 0 < outage.failures := by
  simp [State.Knows, mode, Mode.outage?]

/-! ### Whether there ever was a connection -/

theorem connectedOnce_approach (outage : Outage) (state : State) :
    (state.approach config outage).1.connectedOnce = state.connectedOnce := by
  unfold State.approach
  split <;> rfl

theorem connectedOnce_loseLink (state : State) :
    (state.loseLink config).1.connectedOnce = state.connectedOnce := by
  show (state.establish config).1.connectedOnce = _
  unfold State.establish
  split <;> exact connectedOnce_approach _ _

theorem connectedOnce_drain (jobs : List Job) (state : State) :
    (State.drain jobs state).1.connectedOnce = state.connectedOnce := by
  induction jobs generalizing state with
  | nil => rfl
  | cons job rest ih => exact (ih _).trans (connectedOnce_learn _ state)

theorem connectedOnce_stop (state : State) : state.stop.1.connectedOnce = state.connectedOnce :=
  connectedOnce_drain state.queue _

@[simp] theorem connectedOnce_assigned (command : Command) (state : State) :
    (state.assignSession command).2.connectedOnce = state.connectedOnce := by
  rw [state_assigned]

theorem connectedOnce_launchesAs {job : Job} {retries : Nat}
    (launches : LaunchesAs config link refresh state job retries reaction) :
    reaction.1.connectedOnce = state.connectedOnce := by
  cases launches with
  | sent taking frame? => exact connectedOnce_assigned ..
  | refused refusing =>
    refine (connectedOnce_loseLink _).trans ?_
    exact (connectedOnce_learn ..).trans (connectedOnce_assigned ..)

theorem connectedOnce_proceed (sendable : ∀ request ∈ refresh, Sendable request.kind)
    (state : State) :
    (State.proceed config link refresh state).1.connectedOnce = state.connectedOnce := by
  have proceeds := proceedsAs_proceed config link refresh state sendable
  generalize State.proceed config link refresh state = reaction at proceeds
  cases proceeds with
  | idle => rfl
  | launch launches => exact connectedOnce_launchesAs launches

theorem connectedOnce_check (state : State) :
    (state.check config link refresh).1.connectedOnce = state.connectedOnce := by
  have checks := checksAs_check config link refresh state
  generalize state.check config link refresh = reaction at checks
  cases checks with
  | sent => exact connectedOnce_assigned ..
  | refused => exact (connectedOnce_loseLink _).trans (connectedOnce_assigned ..)

theorem connectedOnce_concludeCheck {outcome : Outcome}
    (sendable : ∀ request ∈ refresh, Sendable request.kind) :
    (state.concludeCheck config link refresh outcome).1.connectedOnce = state.connectedOnce := by
  cases outcome with
  | done => exact connectedOnce_proceed sendable state
  | terminated => exact connectedOnce_stop state
  | linkLost => exact connectedOnce_loseLink state
  | timedOut => exact connectedOnce_loseLink state

theorem connectedOnce_conclude {job : Job} {retries : Nat} {command : Command} {outcome : Outcome}
    (sendable : ∀ request ∈ refresh, Sendable request.kind)
    (h : Concludes config link refresh job retries command state outcome reaction) :
    reaction.1.connectedOnce = state.connectedOnce := by
  have learnt : (state.learn command).connectedOnce = state.connectedOnce :=
    connectedOnce_learn command state
  cases h with
  | again => rfl
  | settle => exact (connectedOnce_concludeCheck sendable).trans learnt
  | check => exact (connectedOnce_check _).trans learnt

/-- That there was a connection is never forgotten. -/
theorem connectedOnce_turn (fit : state.Fit) (h : Turns config state reaction)
    (once : state.connectedOnce) : reaction.1.connectedOnce := by
  cases h with
  | stop => rwa [connectedOnce_stop]
  | connect | logIn | keepLoggingIn | ongoing | keepChecking => exact once
  | reject =>
    refine Eq.trans ?_ once
    exact connectedOnce_learn _ _
  | failAttempt =>
    refine Eq.trans ?_ once
    exact connectedOnce_approach _ _
  | goOnline => exact connectedOnce_proceed (sendable_refreshRequests config _) _
  | unsolicited | unclaimed | unclaimedByCheck => rwa [state_unsolicited]
  | loseLink => rwa [connectedOnce_loseLink]
  | @launch link refresh job rest running mode silent alive queue =>
    have launches := launchesAs_launch config link refresh { state with queue := rest }
      config.transientRetries (State.proceed config link refresh) (fit.front queue).1.sendable
    exact (connectedOnce_launchesAs launches).trans once
  | conclude mode => rwa [connectedOnce_conclude (fit.online mode).2.1 (concludes_conclude ..)]
  | stopPause =>
    refine (connectedOnce_stop _).trans (Eq.trans ?_ once)
    exact connectedOnce_learn _ _
  | @resume link refresh job retries resume running mode due =>
    have fitting : job.Fit := (fit.online mode).2.2
    have launches := launchesAs_launch config link refresh state retries
      (State.proceed config link refresh) fitting.sendable
    exact (connectedOnce_launchesAs launches).trans once
  | concludeCheck mode => rwa [connectedOnce_concludeCheck (fit.online mode).2.1]

/-! ### What a processor knows -/

/-- Telling a caller or the listeners about a command decides nothing. -/
theorem not_decides_finish (command : Command) (origin : Origin) (state : State) :
    ¬ ∃ effect ∈ (state.finish command origin).2, effect.Decides := by
  rintro ⟨effect, member, decides⟩
  rcases List.mem_append.mp member with told | answered
  · obtain ⟨event, -, rfl⟩ := List.mem_map.mp told
    exact decides
  · cases origin with
    | caller ticket =>
      obtain rfl := List.mem_singleton.mp answered
      exact decides
    | internal => cases answered

theorem failures_failAttempt {outage : Outage} {error : LinkError} (state : State) :
    ∃ later, (state.failAttempt config outage error).1.mode.outage? = some later
      ∧ 0 < later.failures := by
  have counted : 0 < countUp outage.failures := by
    unfold countUp
    omega
  show ∃ later, (State.approach config ⟨countUp outage.failures, countUp outage.attempt⟩
    _).1.mode.outage? = _ ∧ _
  unfold State.approach
  split
  · exact ⟨_, rfl, counted⟩
  · exact ⟨_, rfl, counted⟩

/-- A reaction within an outage that decides nothing. -/
theorem knows_of_same {outage : Outage} {stage later : Stage}
    (mode : state.mode = .offline outage stage) (mode' : reaction.1.mode = .offline outage later)
    (once : reaction.1.connectedOnce = state.connectedOnce)
    (open' : ¬ ∃ effect ∈ reaction.2, effect.Decides) :
    reaction.1.Knows ↔ state.Knows ∨ ∃ effect ∈ reaction.2, effect.Decides := by
  rw [knows_of_offline mode, knows_of_offline mode', once, or_iff_left open']

/-- A processor that has not stopped gets to know by a turn what is decided in it, and nothing
else. -/
theorem knows_turn (fit : state.Fit) (online : state.mode.activity?.isSome → state.connectedOnce)
    (h : Turns config state reaction) (alive : reaction.1.mode ≠ .stopped) :
    reaction.1.Knows ↔ state.Knows ∨ ∃ effect ∈ reaction.2, effect.Decides := by
  by_cases once : state.connectedOnce
  · have still : reaction.1.connectedOnce := connectedOnce_turn fit h once
    exact ⟨fun _ => .inl (.inl once), fun _ => .inl still⟩
  -- There was no connection yet, so there is none now.
  have busy {link : Link} {refresh : List Request} {activity : Activity}
      (mode : state.mode = .online link refresh activity) : False :=
    once (online (by rw [mode]; rfl))
  cases h with
  | stop => exact absurd (mode_drain state.queue _) alive
  | connect running mode =>
    exact knows_of_same mode rfl rfl (by simp [State.openConnection, Effect.Decides])
  | @reject outage job rest running suspended =>
    obtain ⟨stage, mode⟩ := suspended.offline
    exact knows_of_same mode ((mode_learn _ _).trans mode) (connectedOnce_learn ..)
      (not_decides_finish _ _ _)
  | logIn running mode => exact knows_of_same mode rfl rfl (by simp [Effect.Decides])
  | @failAttempt outage error =>
    obtain ⟨later, mode, counted⟩ := @failures_failAttempt config outage error state
    have failed : (.attemptFailed error : Effect) ∈ (state.failAttempt config outage error).2 :=
      List.mem_cons_of_mem _ List.mem_cons_self
    exact ⟨fun _ => .inr ⟨_, failed, trivial⟩, fun _ => .inr ⟨later, mode, counted⟩⟩
  | keepLoggingIn running mode => exact knows_of_same mode rfl rfl (by simp [State.silently])
  | @goOnline outage link login frame rest =>
    have connected : (.publish .connected : Effect)
        ∈ (state.goOnline config { link with inbound := rest }).2 := List.mem_cons_self
    have now : (state.goOnline config { link with inbound := rest }).1.connectedOnce :=
      connectedOnce_proceed (sendable_refreshRequests config _) _
    exact ⟨fun _ => .inr ⟨_, connected, trivial⟩, fun _ => .inl now⟩
  | unsolicited running mode | loseLink running mode | launch running mode | ongoing mode
  | unclaimed mode | conclude mode | stopPause mode | resume running mode | keepChecking mode
  | unclaimedByCheck mode | concludeCheck mode => exact (busy mode).elim

theorem outage?_mapLink (change : Link → Link) (mode : Mode) :
    (mode.mapLink change).outage? = mode.outage? := by
  unfold Mode.mapLink
  split <;> rfl

/-- Nothing that happens around a processor begins or ends an outage, or counts in it. -/
theorem outage?_occur (event : Event) (state : State) :
    (state.occur event).1.mode.outage? = state.mode.outage? := by
  cases event with
  | submit ticket command => rw [State.occur, (occur_submit ticket command state).1]
  | recur periodic => rw [State.occur]; split <;> rfl
  | connected success =>
    rw [State.occur]
    split
    · rename_i mode
      rw [mode]
      rfl
    · rfl
  | arrive | dry | choke => exact outage?_mapLink ..
  | elapse | terminate => rfl

/-- What happens around a processor is told to callers at most. -/
theorem not_decides_occur (event : Event) (state : State) :
    ¬ ∃ effect ∈ (state.occur event).2, effect.Decides := by
  rintro ⟨effect, member, decides⟩
  have overlooked : (state.occur event).2.filterMap Effect.entry? = [] := entries_occur event state
  have unseen : effect.entry? = none := List.filterMap_eq_nil_iff.mp overlooked effect member
  cases effect with
  | publish | attemptFailed => cases unseen
  | _ => exact decides

theorem knows_moment (step : Step) (fit : state.Fit)
    (online : state.mode.activity?.isSome → state.connectedOnce)
    (alive : (Moment.of config state step).after.mode ≠ .stopped) :
    (Moment.of config state step).after.Knows
      ↔ state.Knows ∨ (Moment.of config state step).Decides := by
  cases step with
  | event event =>
    have same : (state.occur event).1.Knows ↔ state.Knows := by
      rw [State.Knows, State.Knows, connectedOnce_occur, outage?_occur]
    exact same.trans (or_iff_left (not_decides_occur event state)).symm
  | turn =>
    cases hturn : state.turn? config with
    | none =>
      rw [moment_of_no_turn hturn]
      simp [Moment.Decides]
    | some reaction =>
      rw [moment_of_turn hturn] at alive ⊢
      exact knows_turn fit online (turns_of_turn hturn) alive

theorem alive_of_after {step : Step}
    (alive : (Moment.of config state step).after.mode ≠ .stopped) : state.mode ≠ .stopped := by
  intro stopped
  cases step with
  | event event => exact alive (mode_occur_of_stopped event stopped)
  | turn =>
    rw [moment_of_stopped config stopped] at alive
    exact alive stopped

theorem connectedOnce_of_online (config : Config) (epoch : UnixTime) (steps : List Step)
    (online : (reached config epoch steps).mode.activity?.isSome) :
    (reached config epoch steps).connectedOnce := by
  obtain ⟨activity, busy⟩ := Option.isSome_iff_exists.mp online
  obtain ⟨link, refresh, mode⟩ := exists_online_of_activity busy
  obtain ⟨standing, -, placed⟩ := placed_reached config epoch steps
  exact (placed.connected mode).2.once

/-- As long as it has not stopped, a processor knows what has been decided so far. -/
theorem knows_reached (config : Config) (epoch : UnixTime) (steps : List Step)
    (alive : (reached config epoch steps).mode ≠ .stopped) :
    (reached config epoch steps).Knows ↔ Decided (history config epoch steps) := by
  induction steps using List.reverseRecOn with
  | nil =>
    have fresh : ¬ (State.start config epoch).1.Knows := by
      rw [knows_of_offline (show (State.start config epoch).1.mode = .offline ⟨0, 0⟩ _ from rfl)]
      exact not_or.mpr ⟨Bool.false_ne_true, Nat.lt_irrefl 0⟩
    exact iff_of_false fresh (by simp [Decided, history, moments])
  | append_singleton steps step ih =>
    rw [reached_concat] at alive ⊢
    rw [history_concat, decided_concat, ← ih (alive_of_after alive)]
    exact knows_moment step (fit_reached config epoch steps)
      (connectedOnce_of_online config epoch steps) alive

end

end ShutterGateway.Processor
