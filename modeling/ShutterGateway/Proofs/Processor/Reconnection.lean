import ShutterGateway.Proofs.Processor.Connection

/-!
Every run of a processor keeps to the rules by which a connection is made, kept and made again. Each
function of the processor is shown once to keep to them from where it is called, each form of a turn
is put together from these, and where the processor rests tells how far things have come.
-/

namespace ShutterGateway.Processor

/-- Where the processor rests tells the numbers of the outage, and with them what is published and
how the attempts are counted. -/
inductive Placed (config : Config) (state : State) : Standing → Prop where
  | waiting {c f : Nat} {resume : Instant}
    (mode : state.mode = .offline ⟨saturated f, saturated (f + c)⟩ (.waiting resume))
    (tried : 0 < f + c) (published : state.published = outageState config c f) :
    Placed config state (.waiting c f resume)
  | seeking {c f : Nat} {deadline : Instant} {result? : Option Bool}
    (mode : state.mode = .offline ⟨saturated f, saturated (f + c)⟩ (.connecting deadline result?))
    (published : state.published = outageState config c f) : Placed config state (.seeking c f)
  | asking {c f : Nat} {link : Link} {login : Attempt}
    (mode : state.mode = .offline ⟨saturated f, saturated (f + c)⟩ (.loggingIn link login))
    (published : state.published = outageState config c f) : Placed config state (.asking c f)
  | linked {link : Link} {refresh : List Request} {activity : Activity}
    (mode : state.mode = .online link refresh activity) (once : state.connectedOnce)
    (published : state.published = .connected) : Placed config state .linked
  | halted (mode : state.mode = .stopped) (published : state.published = .disconnected) :
    Placed config state .halted

/-- A state between the beginning and the end of a turn on a connection. -/
structure Connected (before state : State) : Prop where
  now : state.now = before.now
  once : state.connectedOnce
  published : state.published = .connected

/-- What has been noted already and what a reaction does keep to the rules. -/
def Moves (config : Config) (before : State) (standing : Standing) (log : List Entry)
    (reaction : Reaction) : Prop :=
  ∃ last, standing.Follows config ((log ++ entries reaction.2).map (Note.mk before)) last
    ∧ Placed config reaction.1 last

section

variable {config : Config} {before state : State} {link left : Link} {refresh : List Request}
  {reaction : Reaction} {standing next : Standing} {entry : Entry} {log : List Entry} {c f : Nat}

theorem Moves.lead (leads : standing.Leads config ⟨before, entry⟩ next)
    (h : Moves config before next log reaction) :
    Moves config before standing (entry :: log) reaction := by
  obtain ⟨last, follows, placed⟩ := h
  exact ⟨last, .step leads follows, placed⟩

theorem Moves.after {effect : Effect} (noted : effect.entry? = some entry)
    (leads : standing.Leads config ⟨before, entry⟩ next)
    (h : Moves config before next [] reaction) :
    Moves config before standing [] (.after effect reaction) := by
  obtain ⟨last, follows, placed⟩ := h
  refine ⟨last, ?_, placed⟩
  show standing.Follows config
    (((effect :: reaction.2).filterMap Effect.entry?).map (Note.mk before)) last
  rw [List.filterMap_cons_some noted]
  exact .step leads follows

/-- A reaction that nothing is noted of. -/
theorem moves_of_quiet (quiet : entries reaction.2 = [])
    (placed : Placed config reaction.1 standing) : Moves config before standing [] reaction := by
  refine ⟨standing, ?_, placed⟩
  rw [quiet]
  exact .refl

theorem Moves.andThen {handle : State → Reaction} (quiet : entries reaction.2 = [])
    (h : Moves config before standing [] (handle reaction.1)) :
    Moves config before standing [] (reaction.andThen handle) := by
  obtain ⟨last, follows, placed⟩ := h
  refine ⟨last, ?_, placed⟩
  rw [Reaction.andThen, entries_append, quiet]
  exact follows

theorem Moves.finish {handle : State → Reaction} {command : Command} {origin : Origin}
    (h : Moves config before standing [] (handle (state.learn command))) :
    Moves config before standing [] ((state.finish command origin).andThen handle) :=
  h.andThen (entries_finish command origin state)

/-! ## Without a connection -/

/-- Of an outage is told how it stands, and the next attempt is put off, unless it is the first. -/
theorem moves_announce (running : ¬ before.terminating) (now : state.now = before.now) :
    Moves config before (.announcing c f) []
      ((state.publish (outageState config c f)).andThen
        (State.approach config ⟨saturated f, saturated (f + c)⟩)) := by
  refine Moves.after rfl .announce ?_
  unfold State.approach
  split
  · rename_i hzero
    have hnone : f + c = 0 := saturated_eq_zero.mp hzero
    have due : before.now + outageWait config c f ≤ before.now := by
      rw [outageWait, if_pos hnone]
      exact Nat.le_refl _
    exact ⟨.seeking c f, .step (.attempt running due) .refl, .seeking rfl rfl⟩
  · rename_i hsome
    have htried : f + c ≠ 0 := fun hnone => hsome (saturated_eq_zero.mpr hnone)
    refine moves_of_quiet rfl (.waiting ?_ (Nat.pos_of_ne_zero htried) rfl)
    show Mode.offline _ (.waiting (state.now + _)) = _
    rw [now, outageWait, if_neg htried]

theorem moves_loseLink (running : ¬ before.terminating) (lost : before.LosesLink)
    (now : state.now = before.now) (once : state.connectedOnce) :
    Moves config before .linked [] (state.loseLink config) := by
  refine Moves.after rfl (.lose running lost) ?_
  rw [State.establish, if_pos once]
  exact moves_announce running now

theorem outageState_succ (config : Config) (c f : Nat) :
    outageState config c (f + 1)
      = if config.backoff.unavailableAfter ≤ countUp (saturated f) then .unavailable
        else .reconnecting (countUp (saturated (f + c))) := by
  rw [outageState, if_neg (Nat.succ_ne_zero f), countUp_saturated, countUp_saturated,
    Nat.add_right_comm]

theorem moves_failAttempt (running : ¬ before.terminating) (now : state.now = before.now)
    (trying : standing = .seeking c f ∨ standing = .asking c f) (error : LinkError) :
    Moves config before standing []
      (state.failAttempt config ⟨saturated f, saturated (f + c)⟩ error) := by
  refine Moves.after rfl (.giveUp running trying) (Moves.after rfl .fail ?_)
  show Moves _ _ _ _ ((state.publish (if _ then _ else _)).andThen _)
  rw [← outageState_succ, countUp_saturated, countUp_saturated, Nat.add_right_comm]
  exact moves_announce running now

theorem moves_stop (terminating : before.terminating) (rests : standing.Rests) (state : State) :
    Moves config before standing [] state.stop := by
  refine Moves.after rfl (.stop terminating rests) ?_
  refine Moves.andThen (filterMap_drain overlooks_entry _ _) ?_
  refine ⟨.halted, .step .disconnect .refl, .halted ?_ rfl⟩
  exact mode_drain state.queue _

theorem entries_stop (state : State) :
    entries state.stop.2 = [.hungUp, .published .disconnected] := by
  have hdrain : entries
      (State.drain state.queue { state with mode := .stopped, queue := [] }).2 = [] :=
    filterMap_drain overlooks_entry _ _
  show .hungUp :: entries (_ ++ [.publish .disconnected]) = _
  rw [entries_append, hdrain]
  rfl

theorem entries_reject {outage : Outage} (h : state.rejectNext? outage = some reaction) :
    entries reaction.2 = [] := by
  unfold State.rejectNext? at h
  split at h
  · split at h
    · cases h
    · cases h
      exact entries_finish ..
  · cases h

/-! ## On a connection -/

@[simp] theorem connectedOnce_learn (command : Command) (state : State) :
    (state.learn command).connectedOnce = state.connectedOnce := by
  unfold State.learn
  split <;> rfl

theorem Connected.learn {command : Command} (h : Connected before state) :
    Connected before (state.learn command) := by
  refine ⟨?_, ?_, ?_⟩
  · rw [now_learn, h.now]
  · rw [connectedOnce_learn, h.once]
  · rw [published_learn, h.published]

theorem Connected.assigned {command : Command} (h : Connected before state) :
    Connected before (state.assignSession command).2 := by
  rw [state_assigned]
  exact ⟨h.now, h.once, h.published⟩

theorem Connected.loseLink (h : Connected before state) (running : ¬ before.terminating)
    (lost : before.LosesLink) : Moves config before .linked [] (state.loseLink config) :=
  moves_loseLink running lost h.now h.once

theorem Connected.launchesAs {job : Job} {retries : Nat} (h : Connected before state)
    (running : ¬ before.terminating) (lost : link.refusing → before.LosesLink)
    (launches : LaunchesAs config link refresh state job retries reaction) :
    Moves config before .linked [] reaction := by
  cases launches with
  | sent taking frame? =>
    refine ⟨.linked, .step .write .refl, .linked rfl ?_ ?_⟩
    · exact (Connected.assigned h).once
    · exact (Connected.assigned h).published
  | refused refusing => exact .finish (h.assigned.learn.loseLink running (lost refusing))

theorem Connected.proceed (h : Connected before state) (running : ¬ before.terminating)
    (lost : link.refusing → before.LosesLink)
    (sendable : ∀ request ∈ refresh, Sendable request.kind) :
    Moves config before .linked [] (State.proceed config link refresh state) := by
  have proceeds := proceedsAs_proceed config link refresh state sendable
  generalize State.proceed config link refresh state = reaction at proceeds
  cases proceeds with
  | idle => exact moves_of_quiet rfl (.linked rfl h.once h.published)
  | launch launches => exact h.launchesAs running lost launches

theorem Connected.check (h : Connected before state) (running : ¬ before.terminating)
    (lost : before.LosesLink) :
    Moves config before .linked [] (state.check config link refresh) := by
  have checks := checksAs_check config link refresh state
  generalize state.check config link refresh = reaction at checks
  cases checks with
  | sent taking request status frame? =>
    refine ⟨.linked, .step .write .refl, .linked rfl ?_ ?_⟩
    · exact (Connected.assigned h).once
    · exact (Connected.assigned h).published
  | refused refusing => exact h.assigned.loseLink running lost

/-- A frame is told to the listeners, and the connection stays. -/
theorem Connected.unsolicited {activity : Activity} (h : Connected before state)
    (mode : state.mode = .online link refresh activity) (frame : Frame) :
    Moves config before .linked [] (state.unsolicited frame) := by
  refine moves_of_quiet (entries_unsolicited ..) ?_
  rw [state_unsolicited]
  exact .linked mode h.once h.published

/-! ### The end of an attempt -/

/-- A connection that takes no more frames is lost. -/
theorem losesLink_of_refusing (online : state.mode.link? = some link) (refusing : link.refusing) :
    state.LosesLink :=
  ⟨link, online, .inr (.inl refusing)⟩

/-- Why an attempt can end in some way, with something left of the connection. -/
def State.Explains (state : State) (left : Link) : Outcome → Prop
  | .done => ¬ state.terminating ∧ (left.refusing → state.LosesLink)
  | .linkLost | .timedOut => ¬ state.terminating ∧ state.LosesLink
  | .terminated => state.terminating

theorem Attempt.Comes.explains {attempt : Attempt} {command : Command} {outcome : Outcome}
    (online : state.mode.link? = some link) (out : state.attempt? = some attempt)
    (comes : attempt.Comes config state link (.ended command outcome, left)) :
    state.Explains left outcome := by
  cases comes with
  | terminated terminating => exact terminating
  | done running arrived accepts terminal =>
    exact ⟨running, fun refusing => losesLink_of_refusing online refusing⟩
  | linkLost running silent ended => exact ⟨running, link, online, .inl ended⟩
  | timedOut running silent alive late =>
    exact ⟨running, link, online, .inr (.inr ⟨attempt, out, late⟩)⟩

theorem Connected.concludeCheck {outcome : Outcome} (h : Connected before state)
    (explains : before.Explains left outcome)
    (sendable : ∀ request ∈ refresh, Sendable request.kind) :
    Moves config before .linked [] (state.concludeCheck config left refresh outcome) := by
  cases outcome with
  | done => exact h.proceed explains.1 explains.2 sendable
  | terminated => exact moves_stop explains Standing.rests_linked state
  | linkLost => exact h.loseLink explains.1 explains.2
  | timedOut => exact h.loseLink explains.1 explains.2

theorem Connected.conclude {job : Job} {retries : Nat} {command : Command} {outcome : Outcome}
    {reaction : Reaction} (connected : Connected before before)
    (explains : before.Explains left outcome)
    (sendable : ∀ request ∈ refresh, Sendable request.kind)
    (h : Concludes config left refresh job retries command before outcome reaction) :
    Moves config before .linked [] reaction := by
  cases h with
  | again => exact moves_of_quiet rfl (.linked rfl connected.once connected.published)
  | settle => exact .finish (connected.learn.concludeCheck explains sendable)
  | check => exact .finish (connected.learn.check explains.1 explains.2)

/-! ## Turns -/

theorem Placed.rests (h : Placed config state standing) (running : state.mode ≠ .stopped) :
    standing.Rests := by
  cases h with
  | halted mode => exact absurd mode running
  | _ => trivial

/-- On a connection the processor rests where it is published. -/
theorem Placed.connected {activity : Activity} (h : Placed config state standing)
    (mode : state.mode = .online link refresh activity) :
    standing = .linked ∧ Connected state state := by
  cases h with
  | linked _ once published => exact ⟨rfl, rfl, once, published⟩
  | waiting mode' | seeking mode' | asking mode' | halted mode' => cases mode'.symm.trans mode

theorem Placed.congr {later : State} (h : Placed config state standing)
    (mode : later.mode = state.mode) (once : later.connectedOnce = state.connectedOnce)
    (published : later.published = state.published) : Placed config later standing := by
  cases h with
  | waiting mode' tried published' =>
    exact .waiting (mode.trans mode') tried (published.trans published')
  | seeking mode' published' => exact .seeking (mode.trans mode') (published.trans published')
  | asking mode' published' => exact .asking (mode.trans mode') (published.trans published')
  | linked mode' once' published' =>
    exact .linked (mode.trans mode') (once.trans once') (published.trans published')
  | halted mode' published' => exact .halted (mode.trans mode') (published.trans published')

/-- During the login the password is accepted exactly by a frame that accepts it. -/
theorem accepted_iff {outage : Outage} {login : Attempt} {frame : Frame} {phase : Phase}
    (stands : Stands state.mode phase)
    (mode : state.mode = .offline outage (.loggingIn link login)) :
    Login.receive login.command frame = .accepted ↔ frame.Grants := by
  rw [mode] at stands
  cases stands with
  | loggingIn kind pending =>
    rcases Login.receive_cases kind pending frame with
      ⟨grants, accepted⟩ | ⟨refuses, cause, rejected⟩ | ⟨undecided, same⟩
    · exact ⟨fun _ => grants, fun _ => accepted⟩
    · rw [rejected]
      refine ⟨nofun, fun grants => ?_⟩
      rcases refuses with refuses | notified
      · exact absurd grants.2 refuses.2
      · cases grants.1.symm.trans notified
    · rw [same]
      exact ⟨nofun, fun grants => absurd grants undecided.1⟩

/-- An attempt fails while a connection is sought or asked for. -/
theorem Placed.trying {outage : Outage} {error : LinkError} (h : Placed config state standing)
    (fails : Fails config state outage error) :
    ∃ c f, outage = ⟨saturated f, saturated (f + c)⟩
      ∧ (standing = .seeking c f ∨ standing = .asking c f) := by
  cases fails with
  | refused mode | late mode | unsendable mode =>
    cases h with
    | seeking mode' =>
      cases mode'.symm.trans mode
      exact ⟨_, _, rfl, .inl rfl⟩
    | waiting mode' | asking mode' | linked mode' | halted mode' => cases mode'.symm.trans mode
  | denied mode | dropped mode | unanswered mode =>
    cases h with
    | asking mode' =>
      cases mode'.symm.trans mode
      exact ⟨_, _, rfl, .inr rfl⟩
    | waiting mode' | seeking mode' | linked mode' | halted mode' => cases mode'.symm.trans mode

theorem moves_fails {outage : Outage} {error : LinkError} {phase : Phase}
    (running : ¬ state.terminating) (stands : Stands state.mode phase)
    (placed : Placed config state standing) (h : Fails config state outage error) :
    Moves config state standing (state.noted config (state.failAttempt config outage error).1)
      (state.failAttempt config outage error) := by
  obtain ⟨c, f, rfl, trying⟩ := placed.trying h
  have failed : Moves config state standing []
      (state.failAttempt config ⟨saturated f, saturated (f + c)⟩ error) :=
    moves_failAttempt running rfl trying error
  -- Unless a frame is taken, there is nothing to note but the failure.
  have silently (silent : state.next? = none) :
      Moves config state standing
        (state.noted config
          (state.failAttempt config ⟨saturated f, saturated (f + c)⟩ error).1)
        (state.failAttempt config ⟨saturated f, saturated (f + c)⟩ error) := by
    obtain ⟨stage, mode⟩ := h.offline
    rw [noted_of_offline mode, heard_of_silent silent]
    exact failed
  cases h with
  | refused mode | late mode | unsendable mode =>
    refine silently (next?_of_not_listens ?_)
    rw [mode]
    rfl
  | dropped mode silent | unanswered mode silent =>
    refine silently (next?_of_silent ?_)
    rw [State.buffered, mode]
    exact silent
  | @denied link login frame rest error mode arrived denied =>
    rw [noted_of_offline mode, heard_of_arrived running mode arrived]
    have other : ¬ frame.Grants := by
      rw [← accepted_iff stands mode, denied]
      simp
    cases placed with
    | asking => exact failed.lead (.pass running other)
    | seeking mode' | waiting mode' => cases (Mode.offline.inj (mode'.symm.trans mode)).2
    | linked mode' | halted mode' => cases mode'.symm.trans mode

/-- Every turn keeps to the rules. -/
theorem moves_turn {phase : Phase} (fit : state.Fit) (stands : Stands state.mode phase)
    (placed : Placed config state standing) (h : Turns config state reaction) :
    Moves config state standing (state.noted config reaction.1) reaction := by
  cases h with
  | stop free terminating =>
    rw [noted_of_stop free terminating]
    refine moves_stop terminating (placed.rests ?_) state
    rcases free with ⟨outage, stage, mode⟩ | ⟨link, refresh, mode⟩
    · intro stopped
      cases mode.symm.trans stopped
    · intro stopped
      cases mode.symm.trans stopped
  | connect running mode due =>
    rw [noted_of_offline mode, heard_of_silent (next?_of_not_listens (by rw [mode]; rfl))]
    cases placed with
    | waiting mode' tried published =>
      cases mode'.symm.trans mode
      exact ⟨_, .step (.attempt running due) .refl, .seeking rfl published⟩
    | seeking mode' | asking mode' | linked mode' | halted mode' => cases mode'.symm.trans mode
  | @reject outage job rest running suspended =>
    obtain ⟨stage, mode⟩ := suspended.offline
    rw [noted_of_offline mode, heard_of_silent (next?_of_silent suspended.buffered)]
    refine moves_of_quiet (entries_finish ..) (placed.congr ?_ ?_ ?_)
    · exact mode_learn ..
    · exact connectedOnce_learn ..
    · exact published_learn ..
  | logIn running mode start =>
    rw [noted_of_offline mode, heard_of_silent (next?_of_not_listens (by rw [mode]; rfl))]
    cases placed with
    | seeking mode' published =>
      cases mode'.symm.trans mode
      exact ⟨_, .step (.ask running ⟨_, _, mode⟩) .refl, .asking rfl published⟩
    | waiting mode' | asking mode' | linked mode' | halted mode' => cases mode'.symm.trans mode
  | failAttempt running fails => exact moves_fails running stands placed fails
  | @keepLoggingIn outage link login frame rest command running mode arrived kept =>
    rw [noted_of_offline mode, heard_of_arrived running mode arrived]
    have other : ¬ frame.Grants := by
      rw [← accepted_iff stands mode, kept]
      simp
    cases placed with
    | asking mode' published =>
      cases mode'.symm.trans mode
      exact .lead (.pass running other) (moves_of_quiet rfl (.asking rfl published))
    | waiting mode' | seeking mode' | linked mode' | halted mode' => cases mode'.symm.trans mode
  | @goOnline outage link login frame rest running mode arrived accepted =>
    rw [noted_of_offline mode, heard_of_arrived running mode arrived]
    have grants : frame.Grants := (accepted_iff stands mode).mp accepted
    cases placed with
    | asking mode' =>
      refine .lead (.grant running grants) (Moves.after rfl .connect ?_)
      have lost : link.refusing → state.LosesLink := losesLink_of_refusing (by rw [mode]; rfl)
      exact Connected.proceed ⟨rfl, rfl, rfl⟩ running lost (sendable_refreshRequests config state)
    | waiting mode' | seeking mode' | linked mode' | halted mode' => cases mode'.symm.trans mode
  | unsolicited running mode =>
    obtain ⟨rfl, connected⟩ := placed.connected mode
    rw [noted_of_idle mode, took_of_queue (by rw [state_unsolicited])]
    refine Connected.unsolicited ?_ rfl _
    exact ⟨rfl, connected.once, connected.published⟩
  | @loseLink link refresh running mode silent ended =>
    obtain ⟨rfl, connected⟩ := placed.connected mode
    rw [noted_of_idle mode, took_of_queue (withdraws_loseLink config state).queue]
    exact connected.loseLink running ⟨link, by rw [mode]; rfl, .inl ended⟩
  | @launch link refresh job rest running mode silent alive queue =>
    obtain ⟨rfl, connected⟩ := placed.connected mode
    have sendable := (fit.front queue).1.sendable
    have launches := launchesAs_launch config link refresh { state with queue := rest }
      config.transientRetries (State.proceed config link refresh) sendable
    have hrest : (State.launch config link refresh job config.transientRetries
        (State.proceed config link refresh) { state with queue := rest }).1.queue = rest :=
      queue_launch link refresh job _ (queue_proceed link refresh) _
    rw [noted_of_idle mode, took_of_launch (by rw [mode]; rfl) launches.running queue hrest]
    have lost : link.refusing → state.LosesLink := losesLink_of_refusing (by rw [mode]; rfl)
    have same : Connected state { state with queue := rest } :=
      ⟨rfl, connected.once, connected.published⟩
    exact .lead .take (same.launchesAs running lost launches)
  | ongoing mode comes =>
    obtain ⟨rfl, connected⟩ := placed.connected mode
    rw [noted_of_busy mode (by simp), ended?_of_comes mode rfl comes]
    exact moves_of_quiet rfl (.linked rfl connected.once connected.published)
  | unclaimed mode comes =>
    obtain ⟨rfl, connected⟩ := placed.connected mode
    rw [noted_of_busy mode (by simp), ended?_of_comes mode rfl comes]
    refine Connected.unsolicited ?_ rfl _
    exact ⟨rfl, connected.once, connected.published⟩
  | @conclude link left refresh job retries attempt command outcome mode comes =>
    obtain ⟨rfl, connected⟩ := placed.connected mode
    rw [noted_of_busy mode (by simp), ended?_of_comes mode rfl comes]
    have explains : state.Explains left outcome :=
      comes.explains (by rw [mode]; rfl) (by rw [State.attempt?, mode]; rfl)
    exact .lead .finish
      (connected.conclude explains (fit.online mode).2.1 (concludes_conclude ..))
  | stopPause mode terminating =>
    obtain ⟨rfl, connected⟩ := placed.connected mode
    rw [noted_of_busy mode (by simp), ended?_of_free mode rfl]
    exact .finish (moves_stop terminating Standing.rests_linked _)
  | @resume link refresh job retries resume running mode due =>
    obtain ⟨rfl, connected⟩ := placed.connected mode
    rw [noted_of_busy mode (by simp), ended?_of_free mode rfl]
    have fitting : job.Fit := (fit.online mode).2.2
    have lost : link.refusing → state.LosesLink := losesLink_of_refusing (by rw [mode]; rfl)
    exact connected.launchesAs running lost
      (launchesAs_launch config link refresh state retries _ fitting.sendable)
  | keepChecking mode comes =>
    obtain ⟨rfl, connected⟩ := placed.connected mode
    rw [noted_of_busy mode (by simp), ended?_of_comes mode rfl comes]
    exact moves_of_quiet rfl (.linked rfl connected.once connected.published)
  | unclaimedByCheck mode comes =>
    obtain ⟨rfl, connected⟩ := placed.connected mode
    rw [noted_of_busy mode (by simp), ended?_of_comes mode rfl comes]
    refine Connected.unsolicited ?_ rfl _
    exact ⟨rfl, connected.once, connected.published⟩
  | @concludeCheck link left refresh attempt command outcome mode comes =>
    obtain ⟨rfl, connected⟩ := placed.connected mode
    rw [noted_of_busy mode (by simp), ended?_of_comes mode rfl comes]
    have explains : state.Explains left outcome :=
      comes.explains (by rw [mode]; rfl) (by rw [State.attempt?, mode]; rfl)
    exact .lead .finish (connected.concludeCheck explains (fit.online mode).2.1)

/-! ## Moments -/

theorem connectedOnce_occur (event : Event) (state : State) :
    (state.occur event).1.connectedOnce = state.connectedOnce := by
  obtain ⟨_, _, _, _, h⟩ := state_occur event state
  rw [h]

theorem placed_mapLink {later : State} (h : Placed config state standing) (change : Link → Link)
    (mode : later.mode = state.mode.mapLink change)
    (once : later.connectedOnce = state.connectedOnce)
    (published : later.published = state.published) : Placed config later standing := by
  cases h with
  | waiting mode' tried published' =>
    rw [mode'] at mode
    exact .waiting mode tried (published.trans published')
  | seeking mode' published' =>
    rw [mode'] at mode
    exact .seeking mode (published.trans published')
  | asking mode' published' =>
    rw [mode'] at mode
    exact .asking mode (published.trans published')
  | linked mode' once' published' =>
    rw [mode'] at mode
    exact .linked mode (once.trans once') (published.trans published')
  | halted mode' published' =>
    rw [mode'] at mode
    exact .halted mode (published.trans published')

/-- Nothing that happens around a processor changes how far things have come. -/
theorem placed_occur (event : Event) (h : Placed config state standing) :
    Placed config (state.occur event).1 standing := by
  have once := connectedOnce_occur event state
  have published := published_occur event state
  cases event with
  | submit ticket command => exact h.congr (occur_submit ticket command state).1 once published
  | recur periodic =>
    refine h.congr ?_ once published
    rw [State.occur]
    split <;> rfl
  | connected success =>
    rw [State.occur] at once published ⊢
    split
    · rename_i outage deadline mode
      cases h with
      | seeking mode' published' =>
        cases mode'.symm.trans mode
        exact .seeking rfl published'
      | waiting mode' | asking mode' | linked mode' | halted mode' => cases mode'.symm.trans mode
    · exact h
  | arrive | dry | choke => exact placed_mapLink h _ rfl once published
  | elapse | terminate => exact h.congr rfl once published

/-- What is noted in a moment, with the state in which it is noted. -/
def Moment.notes (config : Config) (moment : Moment) : List Note :=
  (moment.entries config).map (Note.mk moment.before)

/-- Whatever happens next keeps to the rules. -/
theorem placed_moment {phase : Phase} (step : Step) (fit : state.Fit)
    (stands : Stands state.mode phase) (placed : Placed config state standing) :
    ∃ last, standing.Follows config ((Moment.of config state step).notes config) last
      ∧ Placed config (Moment.of config state step).after last := by
  cases step with
  | event event =>
    refine ⟨standing, ?_, placed_occur event placed⟩
    show standing.Follows config
      (([] ++ entries (state.occur event).2).map (Note.mk state)) standing
    rw [entries_occur]
    exact .refl
  | turn =>
    cases hturn : state.turn? config with
    | none =>
      rw [moment_of_no_turn hturn]
      refine ⟨standing, ?_, placed⟩
      show standing.Follows config ((state.noted config state ++ []).map (Note.mk state)) standing
      rw [noted_of_no_turn hturn]
      exact .refl
    | some reaction =>
      rw [moment_of_turn hturn]
      exact moves_turn fit stands placed (turns_of_turn hturn)

end

/-! ## Runs -/

/-- What has been noted in a run, with the states in which it was noted. -/
def chronicle (config : Config) (epoch : UnixTime) (steps : List Step) : List Note :=
  (entries (State.start config epoch).2).map (Note.mk { mode := .stopped, epoch := epoch })
    ++ (history config epoch steps).flatMap (Moment.notes config)

theorem moves_start (config : Config) (epoch : UnixTime) :
    Moves config { mode := .stopped, epoch := epoch } (.announcing 0 0) []
      (State.start config epoch) :=
  @moves_announce config { mode := .stopped, epoch := epoch } { mode := .stopped, epoch := epoch }
    0 0 nofun rfl

theorem placed_reached (config : Config) (epoch : UnixTime) (steps : List Step) :
    ∃ standing, Standing.Follows config (.announcing 0 0) (chronicle config epoch steps) standing
      ∧ Placed config (reached config epoch steps) standing := by
  suffices h : (reached config epoch steps).Fit
      ∧ (∃ phase, Stands (reached config epoch steps).mode phase)
      ∧ ∃ standing, Standing.Follows config (.announcing 0 0) (chronicle config epoch steps)
        standing ∧ Placed config (reached config epoch steps) standing from h.2.2
  refine @history_induction (fun past state => state.Fit ∧ (∃ phase, Stands state.mode phase)
    ∧ ∃ standing, Standing.Follows config (.announcing 0 0)
        ((entries (State.start config epoch).2).map
          (Note.mk { mode := .stopped, epoch := epoch }) ++ past.flatMap (Moment.notes config))
        standing
      ∧ Placed config state standing) config epoch steps ?_ ?_
  · obtain ⟨phase, -, stands⟩ := @carries_establish config { mode := .stopped, epoch := epoch }
    obtain ⟨standing, follows, placed⟩ := moves_start config epoch
    refine ⟨fit_start config epoch, ⟨phase, stands⟩, standing, ?_, placed⟩
    rw [List.flatMap_nil, List.append_nil]
    exact follows
  · rintro past state step ⟨fit, ⟨phase, stands⟩, standing, follows, placed⟩
    obtain ⟨phase', -, stands'⟩ := stands_moment config step fit stands
    obtain ⟨last, further, placed'⟩ := placed_moment step fit stands placed
    refine ⟨fit_moment config state step fit, ⟨phase', stands'⟩, last, ?_, placed'⟩
    rw [List.flatMap_append, List.flatMap_singleton, ← List.append_assoc]
    exact follows.trans further

section

variable {config : Config} {state : State}

/-- A processor that puts an attempt off makes it as soon as it is due, unless it is to end. -/
theorem connect_iff_due {outage : Outage} {resume : Instant}
    (mode : state.mode = .offline outage (.waiting resume)) :
    .connect ∈ (Moment.of config state .turn).entries config
      ↔ resume ≤ state.now ∧ ¬ state.terminating := by
  have hturn : state.turn? config
      = if state.terminating then some state.stop
        else if resume ≤ state.now then some (state.openConnection config outage)
        else state.rejectNext? outage := by
    rw [State.turn?, mode]
    rfl
  have hentries (reaction : Reaction) (h : state.turn? config = some reaction) :
      (Moment.of config state .turn).entries config = entries reaction.2 := by
    rw [moment_of_turn h]
    show state.noted config reaction.1 ++ _ = _
    rw [noted_of_offline mode, heard_of_silent (next?_of_not_listens (by rw [mode]; rfl)),
      List.nil_append]
  by_cases terminating : state.terminating
  · rw [if_pos terminating] at hturn
    rw [hentries _ hturn, entries_stop]
    simp [terminating]
  · rw [if_neg terminating] at hturn
    by_cases due : resume ≤ state.now
    · rw [if_pos due] at hturn
      rw [hentries _ hturn]
      exact ⟨fun _ => ⟨due, terminating⟩, fun _ => List.mem_cons_self⟩
    · rw [if_neg due] at hturn
      refine ⟨fun member => ?_, fun h => absurd h.1 due⟩
      cases hreject : state.rejectNext? outage with
      | none =>
        rw [hreject] at hturn
        have hnothing : (Moment.of config state .turn).entries config = [] := by
          rw [moment_of_no_turn hturn]
          show state.noted config state ++ [] = []
          rw [noted_of_no_turn hturn]
          rfl
        rw [hnothing] at member
        cases member
      | some reaction =>
        rw [hreject] at hturn
        rw [hentries _ hturn, entries_reject hreject] at member
        cases member

/-- Where a connection is published there is one. -/
theorem Placed.of_connected {standing : Standing} (h : Placed config state standing)
    (connected : state.published = .connected) : standing = .linked := by
  cases h with
  | linked => rfl
  | @waiting c f resume _ _ published =>
    exact absurd (published.symm.trans connected) (outageState_ne_connected config c f)
  | @seeking c f _ _ _ published =>
    exact absurd (published.symm.trans connected) (outageState_ne_connected config c f)
  | @asking c f _ _ _ published =>
    exact absurd (published.symm.trans connected) (outageState_ne_connected config c f)
  | halted _ published => cases published.symm.trans connected

/-- A connection is given up only when it is lost or the end has been asked for. -/
theorem published_of_connected {phase : Phase} {standing : Standing} (step : Step)
    (fit : state.Fit) (stands : Stands state.mode phase) (placed : Placed config state standing)
    (connected : state.published = .connected) (running : ¬ state.terminating)
    (kept : ¬ state.LosesLink) : (Moment.of config state step).after.published = .connected := by
  obtain rfl := placed.of_connected connected
  obtain ⟨last, follows, placed'⟩ := placed_moment step fit stands placed
  have stays : last = .linked := by
    refine follows.of_linked ?_
    intro note member
    obtain ⟨entry, -, rfl⟩ := List.mem_map.mp member
    exact ⟨running, kept⟩
  subst stays
  cases placed' with
  | linked _ _ published => exact published

end

/-- **A connection is made again and again, at a growing pace, until it is made.** Whatever happens
to a processor and in whatever order, what it does about its connection keeps to the rules
`Standing.Leads`, at every point of the run, and where it rests tells the numbers of the outage:
`c`, one if there was a connection before and zero otherwise, and `f`, how many attempts have failed
since.

* An outage is published by `outageState`: as connecting, or as the first attempt to reconnect, at
  its beginning; after each failure as unavailable if `f` has reached the threshold, and as attempt
  `f + c` otherwise. The next attempt is put off for the delay of attempt `f + c`, and is made as
  soon as that time is up; only the very first of all is not put off. The counters stay at their
  largest number.
* A connection is published exactly when the gateway has just accepted the password on a connection
  that was made. It is given up only when it is lost or the end has been asked for. Then the next
  outage counts afresh.
* That there will be no more connections is published only when the end has been asked for, and
  nothing is noted after it. -/
theorem reconnects_by_the_rules (config : Config) (epoch : UnixTime) (steps : List Step) :
    let log := chronicle config epoch steps
    let state := reached config epoch steps
    (∀ earlier rest, log = earlier ++ rest → ∃ standing last,
      Standing.Follows config (.announcing 0 0) earlier standing ∧ standing.Counts earlier
        ∧ Standing.Follows config standing rest last ∧ last.Counts log
        ∧ Placed config state last)
    ∧ (∀ earlier note rest, log = earlier ++ note :: rest →
        (note.entry = .published .connected ↔ ∃ before frame time,
          earlier.getLast? = some ⟨before, .heard frame time⟩ ∧ frame.Grants)
        ∧ (note.entry = .published .disconnected → rest = []
          ∧ ∃ before, earlier.getLast? = some ⟨before, .hungUp⟩ ∧ before.terminating))
    ∧ (∀ outage resume, state.mode = .offline outage (.waiting resume) →
        state.alarm? = some resume
          ∧ (.connect ∈ (Moment.of config state .turn).entries config
            ↔ resume ≤ state.now ∧ ¬ state.terminating))
    ∧ ∀ step, state.published = .connected → ¬ state.terminating → ¬ state.LosesLink →
        (Moment.of config state step).after.published = .connected := by
  intro log state
  obtain ⟨last, follows, placed⟩ := placed_reached config epoch steps
  refine ⟨?_, ?_, ?_, ?_⟩
  · intro earlier rest hlog
    have hall := follows
    rw [show chronicle config epoch steps = earlier ++ rest from hlog] at hall
    obtain ⟨standing, first, second⟩ := hall.split
    exact ⟨standing, last, first, first.counts, second, follows.counts, placed⟩
  · intro earlier note rest hlog
    rw [show chronicle config epoch steps = earlier ++ note :: rest from hlog] at follows
    obtain ⟨standing, first, second⟩ := follows.split
    cases second with
    | step leads later =>
      refine ⟨leads.connected_iff.trans first.granted_iff, ?_⟩
      intro published
      obtain ⟨rfl, rfl⟩ := leads.disconnected published
      exact ⟨later.of_halted, first.of_stopping⟩
  · intro outage resume mode
    refine ⟨?_, connect_iff_due mode⟩
    rw [State.alarm?, mode]
  · intro step connected running kept
    obtain ⟨phase, -, stands⟩ := stands_reached config epoch steps
    exact published_of_connected step (fit_reached config epoch steps) stands placed connected
      running kept

end ShutterGateway.Processor
