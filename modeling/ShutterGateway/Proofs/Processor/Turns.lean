import ShutterGateway.Processor.Turn

/-!
What a turn of a processor can be. Every turn has one of the forms that are listed here, each with
what made the processor take it. Whatever holds for every turn is shown for one form after the
other, and the step itself is not opened again.
-/

namespace ShutterGateway.Processor

/-! ## What an attempt comes to -/

namespace Attempt

/-- What an attempt can come to, in the order in which it is found out. -/
inductive Comes (config : Config) (state : State) (link : Link) (attempt : Attempt) :
    Progress × Link → Prop where
  | terminated (terminating : state.terminating) :
    Comes config state link attempt (.ended (attempt.command.fail .shutdown) .terminated, link)
  | done {frame : Frame} {rest : List Frame} (running : ¬ state.terminating)
    (arrived : link.inbound = frame :: rest) (accepts : attempt.command.accepts frame)
    (terminal : (attempt.command.respond frame).isTerminal) :
    Comes config state link attempt
      (.ended (attempt.command.respond frame) .done, { link with inbound := rest })
  | ongoing {frame : Frame} {rest : List Frame} (running : ¬ state.terminating)
    (arrived : link.inbound = frame :: rest) (accepts : attempt.command.accepts frame)
    (pending : ¬ (attempt.command.respond frame).isTerminal) :
    Comes config state link attempt
      (.ongoing (attempt.extend config state.now frame (attempt.command.respond frame)),
        { link with inbound := rest })
  | unclaimed {frame : Frame} {rest : List Frame} (running : ¬ state.terminating)
    (arrived : link.inbound = frame :: rest) (accepts : ¬ attempt.command.accepts frame) :
    Comes config state link attempt (.unclaimed frame, { link with inbound := rest })
  | linkLost (running : ¬ state.terminating) (silent : link.inbound = [])
    (ended : link.ended?.isSome) :
    Comes config state link attempt
      (.ended (attempt.command.fail (.connectivity .connectionLost)) .linkLost, link)
  | timedOut (running : ¬ state.terminating) (silent : link.inbound = [])
    (alive : ¬ link.ended?.isSome) (late : attempt.deadline ≤ state.now) :
    Comes config state link attempt (.ended (attempt.command.fail .timeout) .timedOut, link)
  | waiting (running : ¬ state.terminating) (silent : link.inbound = [])
    (alive : ¬ link.ended?.isSome) (early : ¬ attempt.deadline ≤ state.now) :
    Comes config state link attempt (.waiting, link)

theorem comes_progress (config : Config) (state : State) (link : Link) (attempt : Attempt) :
    Comes config state link attempt (attempt.progress config state link) := by
  unfold progress
  by_cases hterminating : state.terminating
  · rw [if_pos hterminating]
    exact .terminated hterminating
  rw [if_neg hterminating]
  cases harrived : link.inbound with
  | cons frame rest =>
    show Comes _ _ _ _ (attempt.take config state.now frame, _)
    unfold take
    by_cases haccepts : attempt.command.accepts frame
    · by_cases hterminal : (attempt.command.respond frame).isTerminal
      · simp only [if_pos haccepts, if_pos hterminal]
        exact .done hterminating harrived haccepts hterminal
      · simp only [if_pos haccepts, if_neg hterminal]
        exact .ongoing hterminating harrived haccepts hterminal
    · simp only [if_neg haccepts]
      exact .unclaimed hterminating harrived haccepts
  | nil =>
    by_cases hended : link.ended?.isSome
    · simp only [if_pos hended]
      exact .linkLost hterminating harrived hended
    · by_cases hlate : attempt.deadline ≤ state.now
      · simp only [if_neg hended, if_pos hlate]
        exact .timedOut hterminating harrived hended hlate
      · simp only [if_neg hended, if_neg hlate]
        exact .waiting hterminating harrived hended hlate

/-- Only one of the forms fits. -/
theorem Comes.progress_eq {config : Config} {state : State} {link : Link} {attempt : Attempt}
    {result : Progress × Link} (h : Comes config state link attempt result) :
    attempt.progress config state link = result := by
  unfold progress
  cases h with
  | terminated terminating => rw [if_pos terminating]
  | done running arrived accepts terminal =>
    simp only [if_neg running, arrived, take, if_pos accepts, if_pos terminal]
  | ongoing running arrived accepts pending =>
    simp only [if_neg running, arrived, take, if_pos accepts, if_neg pending]
  | unclaimed running arrived accepts =>
    simp only [if_neg running, arrived, take, if_neg accepts]
  | linkLost running silent ended => simp only [if_neg running, silent, if_pos ended]
  | timedOut running silent alive late =>
    simp only [if_neg running, silent, if_neg alive, if_pos late]
  | waiting running silent alive early =>
    simp only [if_neg running, silent, if_neg alive, if_neg early]

end Attempt

/-! ## The end of an attempt at a job -/

/-- A job is tried again if the gateway refuses it for now and attempts are left. -/
def Again (command : Command) (outcome : Outcome) (retries : Nat) : Prop :=
  outcome = .done ∧ command.error?.any (·.isTransient) ∧ 0 < retries

section

variable {config : Config} {link : Link} {refresh : List Request} {job : Job} {retries : Nat}
  {command : Command} {state : State} {outcome : Outcome}

theorem conclude_again (again : Again command outcome retries) :
    state.conclude config link refresh job retries command outcome
      = State.silently
        { state with
          mode := .online link refresh (.pausing job (retries - 1)
            (state.now + config.confirmationTimeout.quarter.nanos)) } := by
  obtain ⟨rfl, again⟩ := again
  exact if_pos again

theorem conclude_settled (settled : ¬ Again command .done retries) :
    state.conclude config link refresh job retries command .done
      = (state.finish command job.origin).andThen (State.proceed config link refresh) :=
  if_neg fun again => settled ⟨rfl, again⟩

/-- A ping without an answer loses the connection. -/
theorem conclude_ping (ping : command.kind = .ping) :
    state.conclude config link refresh job retries command .timedOut
      = (state.finish command job.origin).andThen (State.loseLink config) := by
  simp only [State.conclude, if_pos ping]

/-- Any other command without an answer makes the processor check the connection. -/
theorem conclude_unanswered (other : command.kind ≠ .ping) :
    state.conclude config link refresh job retries command .timedOut
      = (state.finish command job.origin).andThen (State.check config link refresh) := by
  simp only [State.conclude, if_neg other]

end

/-- The forms that the end of an attempt at a job can have. But for the pause before the next
attempt and for the check, the command is handed back, and what follows is what follows a check. -/
inductive Concludes (config : Config) (link : Link) (refresh : List Request) (job : Job)
    (retries : Nat) (command : Command) (state : State) : Outcome → Reaction → Prop where
  | again (again : Again command .done retries) :
    Concludes config link refresh job retries command state .done
      (State.silently
        { state with
          mode := .online link refresh (.pausing job (retries - 1)
            (state.now + config.confirmationTimeout.quarter.nanos)) })
  | settle {outcome : Outcome} (settled : ¬ Again command outcome retries)
    (ping : outcome = .timedOut → command.kind = .ping) :
    Concludes config link refresh job retries command state outcome
      ((state.finish command job.origin).andThen (State.concludeCheck config link refresh outcome))
  | check (other : command.kind ≠ .ping) :
    Concludes config link refresh job retries command state .timedOut
      ((state.finish command job.origin).andThen (State.check config link refresh))

theorem concludes_conclude (config : Config) (link : Link) (refresh : List Request) (job : Job)
    (retries : Nat) (command : Command) (outcome : Outcome) (state : State) :
    Concludes config link refresh job retries command state outcome
      (state.conclude config link refresh job retries command outcome) := by
  cases outcome with
  | done =>
    by_cases again : Again command .done retries
    · rw [conclude_again again]
      exact .again again
    · rw [conclude_settled again]
      exact .settle again nofun
  | terminated | linkLost => exact .settle (by rintro ⟨⟨⟩, -⟩) nofun
  | timedOut =>
    by_cases ping : command.kind = .ping
    · rw [conclude_ping ping]
      exact .settle (by rintro ⟨⟨⟩, -⟩) fun _ => ping
    · rw [conclude_unanswered ping]
      exact .check ping

/-! ## The forms of a turn -/

/-- Why an attempt to connect fails. -/
inductive Fails (config : Config) (state : State) (outage : Outage) : LinkError → Prop where
  | refused {deadline : Instant}
    (mode : state.mode = .offline outage (.connecting deadline (some false))) :
    Fails config state outage .refused
  | late {deadline : Instant} (mode : state.mode = .offline outage (.connecting deadline none))
    (due : deadline ≤ state.now) : Fails config state outage .timedOut
  | unsendable {deadline : Instant} {error : LinkError}
    (mode : state.mode = .offline outage (.connecting deadline (some true)))
    (start : Login.start config.password = .error error) : Fails config state outage error
  | denied {link : Link} {login : Attempt} {frame : Frame} {rest : List Frame} {error : LinkError}
    (mode : state.mode = .offline outage (.loggingIn link login))
    (arrived : link.inbound = frame :: rest)
    (failed : Login.receive login.command frame = .failed error) :
    Fails config state outage error
  | dropped {link : Link} {login : Attempt} {error : LinkError}
    (mode : state.mode = .offline outage (.loggingIn link login)) (silent : link.inbound = [])
    (ended : link.ended? = some error) : Fails config state outage error
  | unanswered {link : Link} {login : Attempt}
    (mode : state.mode = .offline outage (.loggingIn link login)) (silent : link.inbound = [])
    (alive : link.ended? = none) (due : login.deadline ≤ state.now) :
    Fails config state outage .timedOut

/-- A processor without a connection that has nothing to do but wait. -/
inductive Suspended (state : State) (outage : Outage) : Prop where
  | waiting {resume : Instant} (mode : state.mode = .offline outage (.waiting resume))
    (early : ¬ resume ≤ state.now)
  | connecting {deadline : Instant}
    (mode : state.mode = .offline outage (.connecting deadline none))
    (early : ¬ deadline ≤ state.now)
  | loggingIn {link : Link} {login : Attempt}
    (mode : state.mode = .offline outage (.loggingIn link login)) (silent : link.inbound = [])
    (alive : link.ended? = none) (early : ¬ login.deadline ≤ state.now)

theorem Fails.offline {config : Config} {state : State} {outage : Outage} {error : LinkError}
    (h : Fails config state outage error) : ∃ stage, state.mode = .offline outage stage := by
  cases h <;> exact ⟨_, by assumption⟩

theorem Suspended.offline {state : State} {outage : Outage} (h : Suspended state outage) :
    ∃ stage, state.mode = .offline outage stage := by
  cases h <;> exact ⟨_, by assumption⟩

/-- The forms of a turn. -/
inductive Turns (config : Config) (state : State) : Reaction → Prop where
  /-- The end has been asked for while nothing is carried out. -/
  | stop (free : (∃ outage stage, state.mode = .offline outage stage)
      ∨ ∃ link refresh, state.mode = .online link refresh .idle)
    (terminating : state.terminating) : Turns config state state.stop
  | connect {outage : Outage} {resume : Instant} (running : ¬ state.terminating)
    (mode : state.mode = .offline outage (.waiting resume)) (due : resume ≤ state.now) :
    Turns config state (state.openConnection config outage)
  | reject {outage : Outage} {job : Job} {rest : List Job} (running : ¬ state.terminating)
    (suspended : Suspended state outage) (hopeless : state.connectedOnce ∨ 0 < outage.failures)
    (queue : state.queue = job :: rest) :
    Turns config state
      (State.finish (job.command.fail (.connectivity .gatewayUnavailable)) job.origin
        { state with queue := rest })
  | logIn {outage : Outage} {deadline : Instant} {command : Command} {frame : Frame}
    (running : ¬ state.terminating)
    (mode : state.mode = .offline outage (.connecting deadline (some true)))
    (start : Login.start config.password = .ok (command, frame)) :
    Turns config state
      ({ state with
          mode := .offline outage
            (.loggingIn {} ⟨command, state.now + config.confirmationTimeout.nanos⟩) },
        [.send frame])
  | failAttempt {outage : Outage} {error : LinkError} (running : ¬ state.terminating)
    (fails : Fails config state outage error) :
    Turns config state (state.failAttempt config outage error)
  /-- The frame does not decide the login. -/
  | keepLoggingIn {outage : Outage} {link : Link} {login : Attempt} {frame : Frame}
    {rest : List Frame} {command : Command} (running : ¬ state.terminating)
    (mode : state.mode = .offline outage (.loggingIn link login))
    (arrived : link.inbound = frame :: rest)
    (pending : Login.receive login.command frame = .pending command) :
    Turns config state
      (State.silently
        { state with
          mode := .offline outage
            (.loggingIn { link with inbound := rest } ⟨command, login.deadline⟩) })
  | goOnline {outage : Outage} {link : Link} {login : Attempt} {frame : Frame}
    {rest : List Frame} (running : ¬ state.terminating)
    (mode : state.mode = .offline outage (.loggingIn link login))
    (arrived : link.inbound = frame :: rest)
    (accepted : Login.receive login.command frame = .accepted) :
    Turns config state (state.goOnline config { link with inbound := rest })
  | unsolicited {link : Link} {refresh : List Request} {frame : Frame} {rest : List Frame}
    (running : ¬ state.terminating) (mode : state.mode = .online link refresh .idle)
    (arrived : link.inbound = frame :: rest) :
    Turns config state
      (State.unsolicited frame
        { state with mode := .online { link with inbound := rest } refresh .idle })
  | loseLink {link : Link} {refresh : List Request} (running : ¬ state.terminating)
    (mode : state.mode = .online link refresh .idle) (silent : link.inbound = [])
    (ended : link.ended?.isSome) : Turns config state (state.loseLink config)
  | launch {link : Link} {refresh : List Request} {job : Job} {rest : List Job}
    (running : ¬ state.terminating) (mode : state.mode = .online link refresh .idle)
    (silent : link.inbound = []) (alive : ¬ link.ended?.isSome)
    (queue : state.queue = job :: rest) :
    Turns config state
      (State.launch config link refresh job config.transientRetries
        (State.proceed config link refresh) { state with queue := rest })
  /-- The frame is an answer to the running command, which is not over. -/
  | ongoing {link left : Link} {refresh : List Request} {job : Job} {retries : Nat}
    {attempt later : Attempt}
    (mode : state.mode = .online link refresh (.running job retries attempt))
    (comes : attempt.Comes config state link (.ongoing later, left)) :
    Turns config state
      (State.silently { state with mode := .online left refresh (.running job retries later) })
  | unclaimed {link left : Link} {refresh : List Request} {job : Job} {retries : Nat}
    {attempt : Attempt} {frame : Frame}
    (mode : state.mode = .online link refresh (.running job retries attempt))
    (comes : attempt.Comes config state link (.unclaimed frame, left)) :
    Turns config state
      (State.unsolicited frame
        { state with mode := .online left refresh (.running job retries attempt) })
  | conclude {link left : Link} {refresh : List Request} {job : Job} {retries : Nat}
    {attempt : Attempt} {command : Command} {outcome : Outcome}
    (mode : state.mode = .online link refresh (.running job retries attempt))
    (comes : attempt.Comes config state link (.ended command outcome, left)) :
    Turns config state (state.conclude config left refresh job retries command outcome)
  | stopPause {link : Link} {refresh : List Request} {job : Job} {retries : Nat} {resume : Instant}
    (mode : state.mode = .online link refresh (.pausing job retries resume))
    (terminating : state.terminating) :
    Turns config state
      ((state.finish (job.command.fail .shutdown) job.origin).andThen State.stop)
  | resume {link : Link} {refresh : List Request} {job : Job} {retries : Nat} {resume : Instant}
    (running : ¬ state.terminating)
    (mode : state.mode = .online link refresh (.pausing job retries resume))
    (due : resume ≤ state.now) :
    Turns config state
      (state.launch config link refresh job retries (State.proceed config link refresh))
  | keepChecking {link left : Link} {refresh : List Request} {attempt later : Attempt}
    (mode : state.mode = .online link refresh (.checking attempt))
    (comes : attempt.Comes config state link (.ongoing later, left)) :
    Turns config state
      (State.silently { state with mode := .online left refresh (.checking later) })
  | unclaimedByCheck {link left : Link} {refresh : List Request} {attempt : Attempt}
    {frame : Frame} (mode : state.mode = .online link refresh (.checking attempt))
    (comes : attempt.Comes config state link (.unclaimed frame, left)) :
    Turns config state
      (State.unsolicited frame { state with mode := .online left refresh (.checking attempt) })
  | concludeCheck {link left : Link} {refresh : List Request} {attempt : Attempt}
    {command : Command} {outcome : Outcome}
    (mode : state.mode = .online link refresh (.checking attempt))
    (comes : attempt.Comes config state link (.ended command outcome, left)) :
    Turns config state (state.concludeCheck config left refresh outcome)

section

variable {config : Config} {state : State} {reaction : Reaction}

theorem turns_of_rejectNext {outage : Outage} (running : ¬ state.terminating)
    (suspended : Suspended state outage) (h : state.rejectNext? outage = some reaction) :
    Turns config state reaction := by
  unfold State.rejectNext? at h
  split at h
  · rename_i hopeless
    cases hqueue : state.queue with
    | nil =>
      rw [hqueue] at h
      cases h
    | cons job rest =>
      rw [hqueue] at h
      cases h
      exact .reject running suspended hopeless hqueue
  · cases h

theorem turns_of_turnOffline {outage : Outage} {stage : Stage} (running : ¬ state.terminating)
    (mode : state.mode = .offline outage stage)
    (h : state.turnOffline? config outage stage = some reaction) :
    Turns config state reaction := by
  cases stage with
  | waiting resume =>
    rw [State.turnOffline?] at h
    split at h
    · rename_i due
      cases h
      exact .connect running mode due
    · rename_i early
      exact turns_of_rejectNext running (.waiting mode early) h
  | connecting deadline result? =>
    match result? with
    | some true =>
      cases h
      unfold State.logIn
      split
      · rename_i error start
        exact .failAttempt running (.unsendable mode start)
      · rename_i command frame start
        exact .logIn running mode start
    | some false =>
      cases h
      exact .failAttempt running (.refused mode)
    | none =>
      rw [State.turnOffline?] at h
      split at h
      · rename_i due
        cases h
        exact .failAttempt running (.late mode due)
      · rename_i early
        exact turns_of_rejectNext running (.connecting mode early) h
  | loggingIn link login =>
    rw [State.turnOffline?] at h
    cases harrived : link.inbound with
    | cons frame rest =>
      rw [harrived] at h
      cases h
      cases hlogin : Login.receive login.command frame with
      | pending command => exact .keepLoggingIn running mode harrived hlogin
      | accepted => exact .goOnline running mode harrived hlogin
      | failed error => exact .failAttempt running (.denied mode harrived hlogin)
    | nil =>
      rw [harrived] at h
      cases hended : link.ended? with
      | some error =>
        rw [hended] at h
        cases h
        exact .failAttempt running (.dropped mode harrived hended)
      | none =>
        rw [hended] at h
        simp only at h
        split at h
        · rename_i due
          cases h
          exact .failAttempt running (.unanswered mode harrived hended due)
        · rename_i early
          exact turns_of_rejectNext running (.loggingIn mode harrived hended early) h

/-- Frames come before the loss of the connection, and both before the queue. -/
theorem turns_of_turnIdle {link : Link} {refresh : List Request} (running : ¬ state.terminating)
    (mode : state.mode = .online link refresh .idle)
    (h : state.turnIdle? config link refresh = some reaction) : Turns config state reaction := by
  unfold State.turnIdle? at h
  cases harrived : link.inbound with
  | cons frame rest =>
    rw [harrived] at h
    cases h
    exact .unsolicited running mode harrived
  | nil =>
    rw [harrived] at h
    simp only at h
    split at h
    · rename_i ended
      cases h
      exact .loseLink running mode harrived ended
    · rename_i alive
      cases hqueue : state.queue with
      | nil =>
        rw [hqueue] at h
        cases h
      | cons job rest =>
        rw [hqueue] at h
        cases h
        exact .launch running mode harrived alive hqueue

theorem turns_of_turnOnline {link : Link} {refresh : List Request} {activity : Activity}
    (mode : state.mode = .online link refresh activity)
    (h : state.turnOnline? config link refresh activity = some reaction) :
    Turns config state reaction := by
  cases activity with
  | idle =>
    rw [State.turnOnline?] at h
    split at h
    · rename_i terminating
      cases h
      exact .stop (.inr ⟨link, refresh, mode⟩) terminating
    · rename_i running
      exact turns_of_turnIdle running mode h
  | running job retries attempt =>
    -- What is left of the link comes with what the attempt comes to, so both are generalized.
    have comes := attempt.comes_progress config state link
    rw [State.turnOnline?] at h
    generalize attempt.progress config state link = result at h comes
    obtain ⟨progress, left⟩ := result
    cases progress with
    | waiting => cases h
    | ongoing later =>
      cases h
      exact .ongoing mode comes
    | unclaimed frame =>
      cases h
      exact .unclaimed mode comes
    | ended command outcome =>
      cases h
      exact .conclude mode comes
  | pausing job retries resume =>
    rw [State.turnOnline?] at h
    split at h
    · rename_i terminating
      cases h
      exact .stopPause mode terminating
    · rename_i running
      split at h
      · rename_i due
        cases h
        exact .resume running mode due
      · cases h
  | checking attempt =>
    have comes := attempt.comes_progress config state link
    rw [State.turnOnline?] at h
    generalize attempt.progress config state link = result at h comes
    obtain ⟨progress, left⟩ := result
    cases progress with
    | waiting => cases h
    | ongoing later =>
      cases h
      exact .keepChecking mode comes
    | unclaimed frame =>
      cases h
      exact .unclaimedByCheck mode comes
    | ended command outcome =>
      cases h
      exact .concludeCheck mode comes

/-- Every turn has one of the forms. -/
theorem turns_of_turn (h : state.turn? config = some reaction) : Turns config state reaction := by
  unfold State.turn? at h
  cases mode : state.mode with
  | stopped =>
    rw [mode] at h
    cases h
  | offline outage stage =>
    rw [mode] at h
    simp only at h
    split at h
    · rename_i terminating
      cases h
      exact .stop (.inl ⟨outage, stage, mode⟩) terminating
    · rename_i running
      exact turns_of_turnOffline running mode h
  | online link refresh activity =>
    rw [mode] at h
    exact turns_of_turnOnline mode h

end

end ShutterGateway.Processor
