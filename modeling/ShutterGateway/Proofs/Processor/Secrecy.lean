import ShutterGateway.Proofs.Command.Secrecy
import ShutterGateway.Proofs.Processor.Buffer

/-!
The password of the configuration. The processor uses it for the login and for nothing else. Two
runs with two passwords, in which the same happens, stand side by side: at all times both are in the
same state, apart from the password in the login that is out, and have had the same effects, apart
from the payload of the frames that log in.
-/

namespace ShutterGateway

/-- A configuration with another password. -/
def Config.entering (password : Password) (config : Config) : Config :=
  { config with password := password.text }

namespace Processor

/-! ## Redaction -/

/-- An attempt without the password of its command. -/
def Attempt.redact (attempt : Attempt) : Attempt :=
  { attempt with command := attempt.command.redact }

/-- A mode without the password of the login that is out. -/
def Mode.redact : Mode → Mode
  | .offline outage (.loggingIn link login) => .offline outage (.loggingIn link login.redact)
  | mode => mode

/-- A state without the password of the login that is out. -/
def State.redact (state : State) : State :=
  { state with mode := state.mode.redact }

/-- An effect of which nobody can read the password. -/
def Effect.redact : Effect → Effect
  | .send frame => .send frame.redact
  | effect => effect

/-- Why an attempt to connect has failed. -/
def Effect.failure? : Effect → Option LinkError
  | .attemptFailed error => some error
  | _ => none

/-- A reaction of which nobody can read the password. -/
def Reaction.redact (reaction : Reaction) : Reaction :=
  (reaction.1.redact, reaction.2.map Effect.redact)

section

variable {config : Config} {link : Link} {refresh : List Request} {state : State}
  (password : Password)

/-- There is nothing to redact in a state unless a login is out. -/
theorem redact_cases (state : State) :
    state.redact = state
      ∨ ∃ outage link login, state.mode = .offline outage (.loggingIn link login)
        ∧ state.redact
          = { state with mode := .offline outage (.loggingIn link login.redact) } := by
  cases hmode : state.mode with
  | offline outage stage =>
    cases stage with
    | loggingIn link login =>
      refine .inr ⟨outage, link, login, rfl, ?_⟩
      rw [State.redact, hmode]
      rfl
    | _ =>
      refine .inl ?_
      rw [State.redact, hmode]
      exact congrArg (fun mode => { state with mode := mode }) hmode.symm
  | _ =>
    refine .inl ?_
    rw [State.redact, hmode]
    exact congrArg (fun mode => { state with mode := mode }) hmode.symm

theorem andThen_redact {reaction reaction' : Reaction} {next next' : State → Reaction}
    (first : reaction.redact = reaction'.redact)
    (second : (next reaction.1).redact = (next' reaction'.1).redact) :
    (reaction.andThen next).redact = (reaction'.andThen next').redact := by
  have heffects : reaction.2.map Effect.redact = reaction'.2.map Effect.redact :=
    congrArg Prod.snd first
  have hlater : (next reaction.1).2.map Effect.redact = (next' reaction'.1).2.map Effect.redact :=
    congrArg Prod.snd second
  refine Prod.ext (congrArg Prod.fst second :) ?_
  show (reaction.2 ++ _).map _ = (reaction'.2 ++ _).map _
  rw [List.map_append, List.map_append, heffects, hlater]

/-! ## Nothing but the login uses the password -/

theorem launch_entering (job : Job) (retries : Nat) (next : State → Reaction) :
    State.launch (config.entering password) link refresh job retries next
      = State.launch config link refresh job retries next := rfl

theorem proceed_entering :
    State.proceed (config.entering password) link refresh
      = State.proceed config link refresh := by
  induction refresh with
  | nil => rfl
  | cons request rest ih =>
    funext state
    rw [State.proceed, State.proceed, ih]
    rfl

theorem check_entering :
    State.check (config.entering password) link refresh = State.check config link refresh := by
  funext state
  rw [State.check, proceed_entering]
  rfl

theorem conclude_entering (job : Job) (retries : Nat) (command : Command) (outcome : Outcome) :
    State.conclude (config.entering password) link refresh job retries command outcome
      = State.conclude config link refresh job retries command outcome := by
  funext state
  unfold State.conclude
  rw [proceed_entering, check_entering]
  rfl

theorem concludeCheck_entering (outcome : Outcome) :
    State.concludeCheck (config.entering password) link refresh outcome
      = State.concludeCheck config link refresh outcome := by
  funext state
  unfold State.concludeCheck
  rw [proceed_entering]
  rfl

theorem goOnline_entering :
    State.goOnline (config.entering password) link = State.goOnline config link := by
  funext state
  simp only [State.goOnline, proceed_entering]
  rfl

theorem turnIdle_entering (state : State) :
    state.turnIdle? (config.entering password) link refresh
      = state.turnIdle? config link refresh := by
  unfold State.turnIdle?
  rw [proceed_entering]
  rfl

theorem turnOnline_entering (state : State) (activity : Activity) :
    state.turnOnline? (config.entering password) link refresh activity
      = state.turnOnline? config link refresh activity := by
  cases activity with
  | idle => rw [State.turnOnline?, State.turnOnline?, turnIdle_entering]
  | pausing job retries resume =>
    rw [State.turnOnline?, State.turnOnline?, proceed_entering, launch_entering]
  | running job retries attempt =>
    have hprogress : attempt.progress (config.entering password) state link
        = attempt.progress config state link := rfl
    rw [State.turnOnline?, State.turnOnline?, hprogress]
    simp only [conclude_entering]
  | checking attempt =>
    have hprogress : attempt.progress (config.entering password) state link
        = attempt.progress config state link := rfl
    rw [State.turnOnline?, State.turnOnline?, hprogress]
    simp only [concludeCheck_entering]

/-! ## The login -/

/-- The frames that log in with one password and with another look alike. -/
theorem logIn_redact (first second : Password) (outage : Outage) (state : State) :
    (state.logIn (config.entering first) outage).redact
      = (state.logIn (config.entering second) outage).redact := by
  have hstart (password : Password) :
      Login.start (config.entering password).password = .ok ({ request := .login password },
        ⟨0x3000, padded passwordSize (utf8 password.text)⟩) :=
    Login.start_text password
  have hframe (password : Password) :
      Frame.redact ⟨0x3000, padded passwordSize (utf8 password.text)⟩
        = ⟨0x3000, List.replicate passwordSize 0⟩ := by
    unfold Frame.redact
    rw [length_padded]
    rfl
  simp only [State.logIn, hstart]
  refine Prod.ext rfl ?_
  show [Effect.send (Frame.redact _)] = [Effect.send (Frame.redact _)]
  rw [hframe, hframe]

/-- A step is the same with one password and with another, apart from what nobody can read. -/
theorem turn_entering (first second : Password) (state : State) :
    (state.turn? (config.entering first)).map Reaction.redact
      = (state.turn? (config.entering second)).map Reaction.redact := by
  unfold State.turn?
  cases state.mode with
  | stopped => rfl
  | online link refresh activity =>
    simp only [turnOnline_entering]
  | offline outage stage =>
    simp only
    split
    · rfl
    cases stage with
    | waiting resume => rfl
    | connecting deadline result? =>
      match result? with
      | some true => exact congrArg some (logIn_redact first second outage state)
      | some false => rfl
      | none => rfl
    | loggingIn link login =>
      simp only [State.turnOffline?, goOnline_entering]
      rfl

/-! ## The login that is out -/

@[simp] theorem redact_redact (mode : Mode) : mode.redact.redact = mode.redact := by
  match mode with
  | .offline outage (.loggingIn link login) =>
    simp [Mode.redact, Attempt.redact]
  | .offline outage (.waiting resume) => rfl
  | .offline outage (.connecting deadline result?) => rfl
  | .online link refresh activity => rfl
  | .stopped => rfl

theorem finish_redact (command : Command) (origin : Origin) (state : State) :
    (state.redact.finish command origin).redact = (state.finish command origin).redact := by
  have helsewhere : state.redact.finish command origin
      = ({ (state.finish command origin).1 with mode := state.mode.redact },
          (state.finish command origin).2) := finish_elsewhere command origin
  rw [helsewhere]
  refine Prod.ext ?_ rfl
  show { state.learn command with mode := state.mode.redact.redact }
    = { state.learn command with mode := (state.learn command).mode.redact }
  rw [redact_redact, mode_learn]

theorem goOnline_redact (link : Link) (state : State) :
    state.redact.goOnline config link = state.goOnline config link := by
  have halike : ∀ mode, State.goOnline config link { state with mode := mode }
      = (state.goOnline config link).holding link.inbound :=
    alike_goOnline state
  exact (halike state.mode.redact).trans (halike state.mode).symm

theorem rejectNext_redact (outage : Outage) (state : State) :
    (state.redact.rejectNext? outage).map Reaction.redact
      = (state.rejectNext? outage).map Reaction.redact := by
  have hqueue : state.redact.queue = state.queue := rfl
  have honce : state.redact.connectedOnce = state.connectedOnce := rfl
  unfold State.rejectNext?
  rw [honce, hqueue]
  split
  · cases state.queue with
    | nil => rfl
    | cons job rest => exact congrArg some (finish_redact _ _ { state with queue := rest })
  · rfl

/-- A login goes on in the same way whatever the password is. -/
theorem turnOffline_redact (outage : Outage) (link : Link) (login : Attempt) (state : State) :
    (state.redact.turnOffline? config outage (.loggingIn link login.redact)).map Reaction.redact
      = (state.turnOffline? config outage (.loggingIn link login)).map Reaction.redact := by
  have hreceive (frame : Frame) : Login.receive login.redact.command frame
      = (Login.receive login.command frame).redact := Login.receive_redact login.command frame
  cases hinbound : link.inbound with
  | cons frame rest =>
    simp only [State.turnOffline?, hinbound, hreceive]
    cases Login.receive login.command frame with
    | pending command =>
      refine congrArg some (Prod.ext ?_ rfl)
      simp [Login.redact, State.silently, Reaction.redact, State.redact, Mode.redact,
        Attempt.redact]
    | accepted => exact congrArg (fun reaction => some reaction.redact) (goOnline_redact _ state)
    | failed error => rfl
  | nil =>
    simp only [State.turnOffline?, hinbound]
    cases link.ended? with
    | some error => rfl
    | none =>
      have hdeadline : login.redact.deadline ≤ state.redact.now ↔ login.deadline ≤ state.now :=
        Iff.rfl
      simp only [hdeadline]
      split
      · rfl
      · exact rejectNext_redact outage state

/-- A step does not depend on the password in the login that is out. -/
theorem turn_redact (state : State) :
    (state.redact.turn? config).map Reaction.redact
      = (state.turn? config).map Reaction.redact := by
  rcases redact_cases state with hsame | ⟨outage, link, login, mode, hredact⟩
  · rw [hsame]
  · have hmode : state.redact.mode = .offline outage (.loggingIn link login.redact) :=
      congrArg State.mode hredact
    simp only [State.turn?, hmode, mode]
    show (if state.terminating then _ else _ : Option Reaction).map Reaction.redact = _
    split
    · rfl
    · exact turnOffline_redact outage link login state

theorem occur_redact (event : Event) (state : State) :
    (state.redact.occur event).redact = (state.occur event).redact := by
  rcases redact_cases state with hsame | ⟨outage, link, login, mode, hredact⟩
  · rw [hsame]
  · rw [hredact]
    cases event with
    | submit ticket command =>
      simp only [State.occur, State.submit, mode]
      split <;>
        simp [Reaction.redact, State.redact, State.silently, Mode.redact, Attempt.redact, mode]
    | _ =>
      simp [State.occur, State.silently, Reaction.redact, State.redact, Mode.mapLink, Mode.redact,
        Attempt.redact, mode]

/-! ## Two runs -/

variable {first second : Password} {a b : State}

theorem take_secret (same : a.redact = b.redact) (step : Step) :
    (step.take (config.entering first) a).redact
      = (step.take (config.entering second) b).redact := by
  cases step with
  | event event =>
    show (a.occur event).redact = (b.occur event).redact
    rw [← occur_redact, same, occur_redact]
  | turn =>
    have hturn : (a.turn? (config.entering first)).map Reaction.redact
        = (b.turn? (config.entering second)).map Reaction.redact := by
      rw [turn_entering first second, ← turn_redact, same, turn_redact]
    show ((a.turn? _).getD _).redact = ((b.turn? _).getD _).redact
    rw [← Option.getD_map Reaction.redact, ← Option.getD_map Reaction.redact, hturn]
    exact congrArg _ (Prod.ext same rfl)

theorem run_secret (same : a.redact = b.redact) (steps : List Step) :
    (run (config.entering first) steps a).redact
      = (run (config.entering second) steps b).redact := by
  induction steps generalizing a b with
  | nil => exact Prod.ext same rfl
  | cons step rest ih =>
    have htake : (step.take (config.entering first) a).redact
        = (step.take (config.entering second) b).redact := take_secret same step
    exact andThen_redact htake (ih (congrArg Prod.fst htake))

/-- Failures of attempts to connect are not redacted. -/
theorem filterMap_failure?_redact (effects : List Effect) :
    (effects.map Effect.redact).filterMap Effect.failure? = effects.filterMap Effect.failure? := by
  rw [List.filterMap_map]
  refine congrFun (congrArg List.filterMap ?_) effects
  funext effect
  cases effect <;> rfl

end

/-- **The password shows in the payload of its request and nowhere else.** For any two passwords
that fit:

* There are commands that log in with them. Whatever is done to both commands, at every stage they
  have the same diagnostic text, status, error, wording of the error, findings and session number,
  take the same frames, and ask by frames of the same opcode with payloads of the same length.
* Whatever frames arrive, both logins fail by the same error, or are both accepted, or are both
  open.
* The diagnostic text of a configuration is the same with any other password, even one that does not
  fit.
* Whatever happens to a processor, it comes to the same state by the same effects with both
  passwords, apart from the password in a login that is out and from the payloads of the frames that
  log in. In particular the attempts to connect fail by the same errors. -/
theorem password_shows_in_its_request_only (first second : Password) :
    (∃ a b, Command.login? first.text = .ok a ∧ Command.login? second.text = .ok b
      ∧ (∀ operations,
        List.Forall₂ Command.Indistinguishable (a.stages operations) (b.stages operations))
      ∧ ∀ frames,
        (∀ error,
          Login.receiveAll a frames = .failed error ↔ Login.receiveAll b frames = .failed error)
        ∧ (Login.receiveAll a frames = .accepted ↔ Login.receiveAll b frames = .accepted))
    ∧ (∀ (config : Config) (password other : String),
      { config with password := password }.diagnostic
        = { config with password := other }.diagnostic)
    ∧ ∀ (config : Config) (epoch : UnixTime) (steps : List Step),
      let lived (password : Password) : Reaction :=
        (State.start (config.entering password) epoch).andThen
          (run (config.entering password) steps)
      (lived first).redact = (lived second).redact
        ∧ (lived first).2.filterMap Effect.failure?
          = (lived second).2.filterMap Effect.failure? := by
  have twins := Command.twins_login first second
  refine ⟨⟨_, _, Command.login?_text first, Command.login?_text second, twins.stages, ?_⟩, ?_, ?_⟩
  · intro frames
    have hsame : (Login.receiveAll { request := .login first } frames).redact
        = (Login.receiveAll { request := .login second } frames).redact := by
      rw [← Login.receiveAll_redact, twins.same, Login.receiveAll_redact]
    refine ⟨fun error => ?_, ?_⟩
    · rw [← Login.redact_eq_failed_iff, hsame, Login.redact_eq_failed_iff]
    · rw [← Login.redact_eq_accepted_iff, hsame, Login.redact_eq_accepted_iff]
  · intro config password other
    rfl
  · intro config epoch steps lived
    have hrun : (lived first).redact = (lived second).redact :=
      andThen_redact rfl (run_secret rfl steps)
    refine ⟨hrun, ?_⟩
    have heffects : (lived first).2.map Effect.redact = (lived second).2.map Effect.redact :=
      congrArg Prod.snd hrun
    rw [← filterMap_failure?_redact, heffects, filterMap_failure?_redact]

end Processor

end ShutterGateway
