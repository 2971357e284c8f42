import ShutterGateway.Proofs.Processor.Deliveries

/-!
What waits on the connection. A turn takes one frame at most, the first, and what it leads to does
not depend on the frames behind it: they are left as they are, or go with the connection. In a pause
between two attempts, and when the end has been asked for, no frame is taken at all.
-/

namespace ShutterGateway.Processor

/-! ## Other frames on the connection -/

/-- A connection on which other frames wait. -/
def Link.holding (frames : List Frame) (link : Link) : Link :=
  { link with inbound := frames }

/-- A state with other frames on its connection, if it has one. -/
def State.holding (frames : List Frame) (state : State) : State :=
  { state with mode := state.mode.mapLink (·.holding frames) }

/-- A reaction that leaves other frames on the connection, if it leaves one. -/
def Reaction.holding (frames : List Frame) (reaction : Reaction) : Reaction :=
  (reaction.1.holding frames, reaction.2)

/-- Two functions of the processor that do the same but for the frames on the connection. Where the
processor was before, the second does not look at. -/
def Alike (frames : List Frame) (handle handle' : State → Reaction) : Prop :=
  ∀ state mode, handle' { state with mode := mode } = (handle state).holding frames

section

variable {config : Config} {link : Link} {refresh : List Request} {state : State} {mode : Mode}
  {frames : List Frame}

theorem holding_of_online {activity : Activity}
    (mode : state.mode = .online link refresh activity) (frames : List Frame) :
    state.holding frames
      = { state with mode := .online (link.holding frames) refresh activity } := by
  rw [State.holding, mode]
  rfl

theorem holding_of_loggingIn {outage : Outage} {login : Attempt}
    (mode : state.mode = .offline outage (.loggingIn link login)) (frames : List Frame) :
    state.holding frames
      = { state with mode := .offline outage (.loggingIn (link.holding frames) login) } := by
  rw [State.holding, mode]
  rfl

/-- There is a connection during the login and after it. -/
theorem exists_mode_of_link (h : state.mode.link?.isSome) :
    (∃ outage link login, state.mode = .offline outage (.loggingIn link login))
      ∨ ∃ link refresh activity, state.mode = .online link refresh activity := by
  cases mode : state.mode with
  | stopped =>
    rw [mode] at h
    cases h
  | offline outage stage =>
    rw [mode] at h
    cases stage with
    | loggingIn link login => exact .inl ⟨outage, link, login, rfl⟩
    | _ => cases h
  | online link refresh activity => exact .inr ⟨link, refresh, activity, rfl⟩

theorem mapLink_of_no_link (h : state.mode.link? = none) (change : Link → Link) :
    state.mode.mapLink change = state.mode := by
  cases hmode : state.mode with
  | offline outage stage =>
    rw [hmode] at h
    cases stage with
    | loggingIn link login => cases h
    | _ => rfl
  | online link refresh activity =>
    rw [hmode] at h
    cases h
  | stopped => rfl

theorem holding_of_no_link (h : state.mode.link? = none) : state.holding frames = state := by
  rw [State.holding, mapLink_of_no_link h]

theorem link?_holding :
    (state.holding frames).mode.link? = state.mode.link?.map (·.holding frames) :=
  link?_mapLink _ _

theorem buffered_holding (h : state.mode.link?.isSome) :
    (state.holding frames).buffered = frames := by
  obtain ⟨link, hlink⟩ := Option.isSome_iff_exists.mp h
  rw [State.buffered, link?_holding, hlink]
  rfl

theorem holding_holding (frames others : List Frame) (state : State) :
    (state.holding others).holding frames = state.holding frames := by
  cases hmode : state.mode with
  | offline outage stage => cases stage <;> simp [State.holding, Mode.mapLink, hmode, Link.holding]
  | online link refresh activity => simp [State.holding, Mode.mapLink, hmode, Link.holding]
  | stopped => simp [State.holding, Mode.mapLink, hmode]

theorem holding_buffered (state : State) : state.holding state.buffered = state := by
  by_cases link : state.mode.link?.isSome
  · rcases exists_mode_of_link link with
      ⟨outage, link, login, mode⟩ | ⟨link, refresh, activity, mode⟩
    · rw [holding_of_loggingIn mode, State.buffered, mode]
      show { state with mode := .offline outage (.loggingIn link login) } = state
      rw [← mode]
    · rw [holding_of_online mode, buffered_of_online mode]
      show { state with mode := .online link refresh activity } = state
      rw [← mode]
  · exact holding_of_no_link (Option.not_isSome_iff_eq_none.mp link)

/-! ## Functions of the processor -/

theorem finish_elsewhere (command : Command) (origin : Origin) :
    State.finish command origin { state with mode := mode }
      = ({ (state.finish command origin).1 with mode := mode },
          (state.finish command origin).2) := by
  have hlearn : State.learn command { state with mode := mode }
      = { state.learn command with mode := mode } := by
    unfold State.learn
    split <;> rfl
  unfold State.finish
  rw [hlearn]

theorem begin_elsewhere (command : Command) :
    State.begin config (link.holding frames) command { state with mode := mode }
      = ((state.begin config link command).1,
          { (state.begin config link command).2.1 with mode := mode },
          (state.begin config link command).2.2) := by
  have hassign : State.assignSession command { state with mode := mode }
      = ((state.assignSession command).1,
          { (state.assignSession command).2 with mode := mode }) := by
    unfold State.assignSession
    split <;> rfl
  unfold State.begin
  rw [hassign]
  generalize state.assignSession command = assigned
  obtain ⟨assigned, later⟩ := assigned
  cases hframe : assigned.frame? with
  | error error =>
    simp only [hframe]
    rfl
  | ok frame =>
    simp only [hframe]
    show (if link.refusing = true then _ else _) = _
    split <;> rfl

/-- Nothing waits where there is no connection any more. -/
theorem alike_of_no_link {handle : State → Reaction}
    (elsewhere : ∀ (state : State) mode, handle { state with mode := mode } = handle state)
    (link : ∀ state, (handle state).1.mode.link? = none) : Alike frames handle handle := by
  intro state mode
  rw [elsewhere, Reaction.holding, holding_of_no_link (link state)]

theorem link?_approach (outage : Outage) (state : State) :
    (state.approach config outage).1.mode.link? = none := by
  unfold State.approach
  split <;> rfl

@[simp] theorem link?_loseLink (state : State) : (state.loseLink config).1.mode.link? = none := by
  show (state.establish config).1.mode.link? = none
  unfold State.establish
  split
  · exact link?_approach ⟨0, 1⟩ _
  · exact link?_approach ⟨0, 0⟩ _

@[simp] theorem link?_failAttempt (outage : Outage) (error : LinkError) (state : State) :
    (state.failAttempt config outage error).1.mode.link? = none :=
  link?_approach _ _

@[simp] theorem link?_stop (state : State) : state.stop.1.mode.link? = none := by
  have hmode : state.stop.1.mode = .stopped := mode_drain state.queue _
  rw [hmode]
  rfl

theorem alike_stop : Alike frames State.stop State.stop :=
  alike_of_no_link (fun _ _ => rfl) link?_stop

theorem alike_loseLink : Alike frames (State.loseLink config) (State.loseLink config) := by
  refine alike_of_no_link ?_ link?_loseLink
  intro state mode
  unfold State.loseLink State.establish
  split <;> rfl

theorem alike_failAttempt (outage : Outage) (error : LinkError) :
    Alike frames (State.failAttempt config outage error)
      (State.failAttempt config outage error) := by
  refine alike_of_no_link ?_ (link?_failAttempt outage error)
  intro state mode
  unfold State.failAttempt State.approach
  simp only [State.publish, Reaction.andThen]
  split <;> rfl

theorem Alike.finish {next next' : State → Reaction} (alike : Alike frames next next')
    (command : Command) (origin : Origin) :
    Alike frames (fun state => (state.finish command origin).andThen next)
      (fun state => (state.finish command origin).andThen next') := by
  intro state mode
  simp only [finish_elsewhere, Reaction.andThen, alike _ _]
  rfl

theorem Alike.launch {next next' : State → Reaction} (alike : Alike frames next next')
    (config : Config) (link : Link) (refresh : List Request) (job : Job) (retries : Nat) :
    Alike frames (State.launch config link refresh job retries next)
      (State.launch config (link.holding frames) refresh job retries next') := by
  intro state mode
  unfold State.launch
  rw [begin_elsewhere]
  generalize state.begin config link job.command = begun
  obtain ⟨begun, later, effects⟩ := begun
  cases begun with
  | sent attempt => rfl
  | refused command =>
    simp only [Reaction.andThen, finish_elsewhere]
    rw [alike_loseLink (later.finish command job.origin).1 mode]
    rfl
  | unsendable command =>
    simp only [Reaction.andThen, finish_elsewhere, alike _ _]
    rfl

theorem alike_proceed : Alike frames (State.proceed config link refresh)
    (State.proceed config (link.holding frames) refresh) := by
  induction refresh with
  | nil => exact fun _ _ => rfl
  | cons request rest ih => exact ih.launch config link rest _ _

theorem alike_check : Alike frames (State.check config link refresh)
    (State.check config (link.holding frames) refresh) := by
  intro state mode
  unfold State.check
  rw [begin_elsewhere]
  generalize state.begin config link { request := .ping } = begun
  obtain ⟨begun, later, effects⟩ := begun
  cases begun with
  | sent attempt => rfl
  | refused command =>
    simp only [Reaction.andThen]
    rw [alike_loseLink later mode]
    rfl
  | unsendable command =>
    simp only [Reaction.andThen]
    rw [alike_proceed later mode]
    rfl

theorem alike_conclude (job : Job) (retries : Nat) (command : Command) (outcome : Outcome) :
    Alike frames (State.conclude config link refresh job retries command outcome)
      (State.conclude config (link.holding frames) refresh job retries command outcome) := by
  cases outcome with
  | done =>
    intro state mode
    show (if _ then _ else _) = Reaction.holding frames (if _ then _ else _)
    split
    · rfl
    · exact alike_proceed.finish command job.origin state mode
  | terminated => exact alike_stop.finish command job.origin
  | linkLost => exact alike_loseLink.finish command job.origin
  | timedOut =>
    have hnext : Alike frames
        (fun state =>
          if command.kind = .ping then state.loseLink config else state.check config link refresh)
        (fun state =>
          if command.kind = .ping then state.loseLink config
          else state.check config (link.holding frames) refresh) := by
      split
      · exact alike_loseLink
      · exact alike_check
    exact hnext.finish command job.origin

theorem alike_concludeCheck (outcome : Outcome) :
    Alike frames (State.concludeCheck config link refresh outcome)
      (State.concludeCheck config (link.holding frames) refresh outcome) := by
  cases outcome with
  | done => exact alike_proceed
  | terminated => exact alike_stop
  | linkLost => exact alike_loseLink
  | timedOut => exact alike_loseLink

theorem alike_goOnline : Alike frames (State.goOnline config link)
    (State.goOnline config (link.holding frames)) := by
  intro state mode
  have proceeds : State.proceed config (link.holding frames) (state.refreshRequests config)
      { state with mode := mode, connectedOnce := true, published := .connected } = _ :=
    alike_proceed { state with connectedOnce := true, published := .connected } mode
  exact congrArg (Reaction.after (.publish .connected)) proceeds

theorem unsolicited_holding (frame : Frame) (state : State) (frames : List Frame) :
    (state.holding frames).unsolicited frame = (state.unsolicited frame).holding frames := by
  unfold State.unsolicited
  cases frame.event? <;> rfl

end

/-! ## The frame that a turn takes -/

/-- The processor waits for frames: for an answer to the login or to a command, or for anything. -/
def Mode.listens : Mode → Bool
  | .offline _ (.loggingIn _ _) => true
  | .online _ _ (.pausing _ _ _) => false
  | .online _ _ _ => true
  | _ => false

theorem link_of_listens {mode : Mode} (h : mode.listens) : mode.link?.isSome := by
  cases mode with
  | offline outage stage =>
    cases stage with
    | loggingIn link login => rfl
    | _ => cases h
  | online link refresh activity => rfl
  | stopped => cases h

/-- The frame that the next turn takes from the connection. -/
def State.next? (state : State) : Option Frame :=
  if state.mode.listens ∧ ¬ state.terminating then state.buffered.head? else none

section

variable (config : Config) {state : State} {link : Link} {refresh : List Request}

/-- What a turn leads to that takes a frame. -/
def Takes (config : Config) (state : State) (frame : Frame) : Prop :=
  ∃ reaction : Reaction, ∀ frames,
    (state.holding (frame :: frames)).turn? config = some (reaction.holding frames)

theorem takes_login {outage : Outage} {login : Attempt} (running : ¬ state.terminating)
    (mode : state.mode = .offline outage (.loggingIn link login)) (frame : Frame) :
    Takes config state frame := by
  simp only [Takes, State.turn?, holding_of_loggingIn mode, if_neg running, State.turnOffline?,
    Link.holding]
  cases Login.receive login.command frame with
  | pending command =>
    exact ⟨State.silently
      { state with mode := .offline outage (.loggingIn link ⟨command, login.deadline⟩) },
      fun frames => rfl⟩
  | accepted =>
    exact ⟨state.goOnline config link, fun frames => congrArg some (alike_goOnline state _)⟩
  | failed error =>
    exact ⟨state.failAttempt config outage error,
      fun frames => congrArg some (alike_failAttempt outage error state _)⟩

theorem unsolicited_of_online {activity : Activity}
    (mode : state.mode = .online link refresh activity) (frame : Frame) (frames : List Frame) :
    State.unsolicited frame { state with mode := .online (link.holding frames) refresh activity }
      = (state.unsolicited frame).holding frames := by
  rw [← holding_of_online mode, unsolicited_holding]

theorem takes_idle (running : ¬ state.terminating)
    (mode : state.mode = .online link refresh .idle) (frame : Frame) :
    Takes config state frame := by
  simp only [Takes, State.turn?, holding_of_online mode, State.turnOnline?, if_neg running,
    State.turnIdle?, Link.holding]
  exact ⟨state.unsolicited frame,
    fun frames => congrArg some (unsolicited_of_online mode frame frames)⟩

theorem takes_running {job : Job} {retries : Nat} {attempt : Attempt}
    (running : ¬ state.terminating)
    (mode : state.mode = .online link refresh (.running job retries attempt)) (frame : Frame) :
    Takes config state frame := by
  simp only [Takes, State.turn?, holding_of_online mode, State.turnOnline?, Attempt.progress,
    if_neg running, Link.holding, Attempt.take]
  split
  · split
    · exact ⟨state.conclude config link refresh job retries (attempt.command.respond frame) .done,
        fun frames => congrArg some (alike_conclude job retries _ .done state _)⟩
    · exact ⟨State.silently { state with mode := .online link refresh (.running job retries _) },
        fun frames => rfl⟩
  · exact ⟨state.unsolicited frame,
      fun frames => congrArg some (unsolicited_of_online mode frame frames)⟩

theorem takes_checking {attempt : Attempt} (running : ¬ state.terminating)
    (mode : state.mode = .online link refresh (.checking attempt)) (frame : Frame) :
    Takes config state frame := by
  simp only [Takes, State.turn?, holding_of_online mode, State.turnOnline?, Attempt.progress,
    if_neg running, Link.holding, Attempt.take]
  split
  · split
    · exact ⟨state.concludeCheck config link refresh .done,
        fun frames => congrArg some (alike_concludeCheck .done state _)⟩
    · exact ⟨State.silently { state with mode := .online link refresh (.checking _) },
        fun frames => rfl⟩
  · exact ⟨state.unsolicited frame,
      fun frames => congrArg some (unsolicited_of_online mode frame frames)⟩

/-- The first frame decides what a turn leads to, and those behind it are left alone. -/
theorem takes_of_listens (listens : state.mode.listens) (running : ¬ state.terminating)
    (frame : Frame) : Takes config state frame := by
  cases mode : state.mode with
  | stopped =>
    rw [mode] at listens
    cases listens
  | offline outage stage =>
    rw [mode] at listens
    cases stage with
    | loggingIn link login => exact takes_login config running mode frame
    | _ => cases listens
  | online link refresh activity =>
    rw [mode] at listens
    cases activity with
    | idle => exact takes_idle config running mode frame
    | running job retries attempt => exact takes_running config running mode frame
    | checking attempt => exact takes_checking config running mode frame
    | pausing job retries resume => cases listens

/-- What a turn leads to that takes no frame, whatever waits. -/
def Ignores (config : Config) (state : State) : Prop :=
  ∃ reaction : Reaction, ∀ frames,
    Step.turn.take config (state.holding frames) = reaction.holding frames

theorem ignores_of_turn (reaction : Reaction)
    (h : ∀ frames, (state.holding frames).turn? config = some (reaction.holding frames)) :
    Ignores config state := by
  refine ⟨reaction, fun frames => ?_⟩
  rw [Step.take, h]
  rfl

/-- In a pause no frame is taken. -/
theorem ignores_pausing {job : Job} {retries : Nat} {resume : Instant}
    (mode : state.mode = .online link refresh (.pausing job retries resume)) :
    Ignores config state := by
  by_cases terminating : state.terminating
  · refine ignores_of_turn config
      ((state.finish (job.command.fail .shutdown) job.origin).andThen State.stop) fun frames => ?_
    simp only [State.turn?, holding_of_online mode, State.turnOnline?, if_pos terminating]
    exact congrArg some (alike_stop.finish (job.command.fail .shutdown) job.origin state _)
  by_cases due : resume ≤ state.now
  · refine ignores_of_turn config
      (state.launch config link refresh job retries (State.proceed config link refresh))
      fun frames => ?_
    simp only [State.turn?, holding_of_online mode, State.turnOnline?, if_neg terminating,
      if_pos due]
    exact congrArg some (alike_proceed.launch config link refresh job retries state _)
  · refine ⟨state.silently, fun frames => ?_⟩
    simp only [Step.take, State.turn?, holding_of_online mode, State.turnOnline?,
      if_neg terminating, if_neg due]
    exact congrArg State.silently (holding_of_online mode frames).symm

/-- When the end has been asked for, no frame is taken. -/
theorem ignores_terminating (terminating : state.terminating) (link : state.mode.link?.isSome) :
    Ignores config state := by
  rcases exists_mode_of_link link with ⟨outage, link, login, mode⟩ | ⟨link, refresh, activity, mode⟩
  · refine ignores_of_turn config state.stop fun frames => ?_
    simp only [State.turn?, holding_of_loggingIn mode, if_pos terminating]
    exact congrArg some (alike_stop state _)
  cases activity with
  | pausing job retries resume => exact ignores_pausing config mode
  | idle =>
    refine ignores_of_turn config state.stop fun frames => ?_
    simp only [State.turn?, holding_of_online mode, State.turnOnline?, if_pos terminating]
    exact congrArg some (alike_stop state _)
  | running job retries attempt =>
    refine ignores_of_turn config
      (state.conclude config link refresh job retries (attempt.command.fail .shutdown)
        .terminated) fun frames => ?_
    simp only [State.turn?, holding_of_online mode, State.turnOnline?, Attempt.progress,
      if_pos terminating]
    exact congrArg some (alike_conclude job retries _ .terminated state _)
  | checking attempt =>
    refine ignores_of_turn config (state.concludeCheck config link refresh .terminated)
      fun frames => ?_
    simp only [State.turn?, holding_of_online mode, State.turnOnline?, Attempt.progress,
      if_pos terminating]
    exact congrArg some (alike_concludeCheck .terminated state _)

theorem ignores_of_not_listens (link : state.mode.link?.isSome)
    (h : ¬ (state.mode.listens ∧ ¬ state.terminating)) : Ignores config state := by
  by_cases terminating : state.terminating
  · exact ignores_terminating config terminating link
  have silent : ¬ state.mode.listens := fun listens => h ⟨listens, terminating⟩
  rcases exists_mode_of_link link with ⟨outage, link, login, mode⟩ | ⟨link, refresh, activity, mode⟩
  · rw [mode] at silent
    exact absurd rfl silent
  rw [mode] at silent
  cases activity with
  | pausing job retries resume => exact ignores_pausing config mode
  | _ => exact absurd rfl silent

end

/-! ## What is left -/

section

variable {config : Config} {state : State} {link : Link} {refresh : List Request}

/-- What a function of the processor leaves on the connection. -/
theorem Alike.buffered {handle handle' : State → Reaction} {frames : List Frame}
    (alike : Alike frames handle handle') (state : State)
    (link : (handle' state).1.mode.link?.isSome) : (handle' state).1.buffered = frames := by
  have hholding : handle' state = (handle state).holding frames := alike state state.mode
  rw [hholding] at link ⊢
  refine buffered_holding ?_
  rwa [Reaction.holding, link?_holding, Option.isSome_map] at link

theorem next?_of_terminating (terminating : state.terminating) : state.next? = none :=
  if_neg fun looks => looks.2 terminating

theorem next?_of_not_listens (h : state.mode.listens = false) : state.next? = none :=
  if_neg fun looks => Bool.eq_false_iff.mp h looks.1

theorem next?_of_online {activity : Activity} (running : ¬ state.terminating)
    (mode : state.mode = .online link refresh activity)
    (listens : (Mode.online link refresh activity).listens) :
    state.next? = link.inbound.head? := by
  rw [State.next?, buffered_of_online mode, mode, if_pos ⟨listens, running⟩]

theorem buffered_of_loggingIn {outage : Outage} {login : Attempt}
    (mode : state.mode = .offline outage (.loggingIn link login)) :
    state.buffered = link.inbound := by
  rw [State.buffered, mode]
  rfl

theorem next?_of_loggingIn {outage : Outage} {login : Attempt} (running : ¬ state.terminating)
    (mode : state.mode = .offline outage (.loggingIn link login)) :
    state.next? = link.inbound.head? := by
  rw [State.next?, buffered_of_loggingIn mode, mode, if_pos ⟨rfl, running⟩]

/-- An attempt takes a frame if there is one. -/
theorem Attempt.Comes.buffered {attempt : Attempt} {progress : Progress} {left : Link}
    {activity : Activity} (comes : attempt.Comes config state link (progress, left))
    (mode : state.mode = .online link refresh activity)
    (attempted : activity.attempt? = some attempt) :
    state.buffered = state.next?.toList ++ left.inbound := by
  have listens : (Mode.online link refresh activity).listens := by
    cases activity <;> first | rfl | cases attempted
  rw [buffered_of_online mode]
  cases comes with
  | terminated terminating =>
    rw [next?_of_terminating terminating]
    rfl
  | done running arrived | ongoing running arrived | unclaimed running arrived =>
    rw [next?_of_online running mode listens, arrived]
    rfl
  | linkLost running silent | timedOut running silent | waiting running silent =>
    rw [next?_of_online running mode listens, silent]
    rfl

theorem next?_of_silent (silent : state.buffered = []) : state.next? = none := by
  rw [State.next?, silent]
  split <;> rfl

theorem Suspended.buffered {outage : Outage} (h : Suspended state outage) :
    state.buffered = [] := by
  cases h with
  | waiting mode | connecting mode =>
    rw [State.buffered, mode]
    rfl
  | loggingIn mode silent =>
    rw [State.buffered, mode]
    exact silent

theorem buffered_finish (command : Command) (origin : Origin) (state : State) :
    (state.finish command origin).1.buffered = state.buffered := by
  show (State.learn command state).buffered = _
  rw [State.buffered, mode_learn]
  rfl

/-- As long as the connection lasts, a turn takes one frame at most, the first that waits. -/
theorem buffered_turn {reaction : Reaction} (h : Turns config state reaction)
    (lasts : reaction.1.mode.link?.isSome) :
    state.buffered = state.next?.toList ++ reaction.1.buffered := by
  cases h with
  | stop | failAttempt | loseLink => simp at lasts
  | connect => cases lasts
  | reject running suspended =>
    rw [buffered_finish]
    show _ = _ ++ state.buffered
    rw [next?_of_silent suspended.buffered]
    rfl
  | logIn running mode =>
    have silent : state.buffered = [] := by
      rw [State.buffered, mode]
      rfl
    rw [next?_of_silent silent, silent]
    rfl
  | @keepLoggingIn outage link login frame rest command running mode arrived =>
    rw [next?_of_loggingIn running mode, buffered_of_loggingIn mode, arrived]
    rfl
  | @goOnline outage link login frame rest running mode arrived =>
    have alike : Alike rest (State.goOnline config link)
        (State.goOnline config { link with inbound := rest }) := alike_goOnline
    rw [alike.buffered state lasts, next?_of_loggingIn running mode, buffered_of_loggingIn mode,
      arrived]
    rfl
  | @unsolicited link refresh frame rest running mode arrived =>
    rw [state_unsolicited, next?_of_online running mode rfl, buffered_of_online mode, arrived]
    rfl
  | @launch link refresh job rest running mode silent =>
    have alike : Alike link.inbound
        (State.launch config link refresh job config.transientRetries
          (State.proceed config link refresh))
        (State.launch config link refresh job config.transientRetries
          (State.proceed config link refresh)) := alike_proceed.launch config link refresh job _
    rw [alike.buffered _ lasts, next?_of_online running mode rfl, buffered_of_online mode, silent]
    rfl
  | ongoing mode comes | keepChecking mode comes => exact comes.buffered mode rfl
  | unclaimed mode comes | unclaimedByCheck mode comes =>
    rw [state_unsolicited]
    exact comes.buffered mode rfl
  | @conclude link left refresh job retries attempt command outcome mode comes =>
    have alike : Alike left.inbound (State.conclude config left refresh job retries command outcome)
        (State.conclude config left refresh job retries command outcome) :=
      alike_conclude job retries command outcome
    rw [alike.buffered state lasts]
    exact comes.buffered mode rfl
  | @stopPause link refresh job =>
    have hstop : (State.stop (state.learn (job.command.fail .shutdown))).1.mode.link?.isSome :=
      lasts
    simp at hstop
  | @resume link refresh job retries resume running mode =>
    have alike : Alike link.inbound
        (State.launch config link refresh job retries (State.proceed config link refresh))
        (State.launch config link refresh job retries (State.proceed config link refresh)) :=
      alike_proceed.launch config link refresh job retries
    rw [alike.buffered state lasts, next?_of_not_listens (by rw [mode]; rfl),
      buffered_of_online mode]
    rfl
  | @concludeCheck link left refresh attempt command outcome mode comes =>
    have alike : Alike left.inbound (State.concludeCheck config left refresh outcome)
        (State.concludeCheck config left refresh outcome) := alike_concludeCheck outcome
    rw [alike.buffered state lasts]
    exact comes.buffered mode rfl

/-- A processor that could take a frame does not wait. -/
theorem next?_of_no_turn (h : state.turn? config = none) : state.next? = none := by
  rw [State.next?]
  split
  · rename_i looks
    cases hbuffered : state.buffered with
    | nil => rfl
    | cons frame rest =>
      obtain ⟨reaction, hturn⟩ := takes_of_listens config looks.1 looks.2 frame
      have hsome := hturn rest
      rw [← hbuffered, holding_buffered, h] at hsome
      cases hsome
  · rfl

end

namespace Moment

/-- The frame that is taken from the connection in a step, if one is. -/
def looked (moment : Moment) : List Frame :=
  match moment.step with
  | .turn => moment.before.next?.toList
  | .event _ => []

end Moment

/-- The account of the frames on the connection, over one step, as long as the connection lasts. -/
theorem buffered_moment (config : Config) (state : State) (step : Step)
    (lasts : (Moment.of config state step).after.mode.link?.isSome) :
    state.buffered ++ (Moment.of config state step).delivered
      = (Moment.of config state step).looked ++ (Moment.of config state step).after.buffered := by
  cases step with
  | event event => exact (buffered_occur event state).symm
  | turn =>
    show state.buffered ++ [] = state.next?.toList ++ _
    rw [List.append_nil]
    cases h : state.turn? config with
    | none =>
      rw [moment_of_no_turn h, next?_of_no_turn h]
      rfl
    | some reaction =>
      rw [moment_of_turn h] at lasts ⊢
      exact buffered_turn (turns_of_turn h) lasts

end ShutterGateway.Processor
