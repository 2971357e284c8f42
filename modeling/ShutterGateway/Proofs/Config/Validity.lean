import ShutterGateway.Config.Document
import ShutterGateway.Proofs.Command.Packing
import ShutterGateway.Proofs.Processor.Connection

/-!
Configurations without a fault. What is refused with a fault is exactly what a processor could not
run with: a password that has no login, and periods and limits of no time. So the checks of a
configuration, the limits of the constructor of a login and of the wire, and the reading of a file
fit together, and a connection that was made is always asked to log in.
-/

namespace ShutterGateway

open Processor

namespace Login

/-- The login with a password that fits its field: the command, and the frame that asks for it. -/
theorem exists_start {text : String} (fits : (utf8 text).length ≤ passwordSize) :
    ∃ command frame, Command.login? text = .ok command ∧ command.Travels frame
      ∧ start text = .ok (command, frame) := by
  have hpassword : Password.ofText? text = .ok ⟨text, fits⟩ := dif_pos fits
  have hcommand : Command.login? text = .ok { request := .login ⟨text, fits⟩ } := by
    rw [Command.login?, hpassword]
  obtain ⟨frame, travels⟩ :=
    @Command.exists_travels { request := .login ⟨text, fits⟩ } (by nofun)
  refine ⟨_, frame, hcommand, travels, ?_⟩
  rw [start, hcommand]
  simp only [travels.frame?]

end Login

namespace Config

variable {config : Config}

/-- A configuration in which nothing is wrong. -/
structure Valid (config : Config) : Prop where
  hostname : ¬ config.hostname.toList.all isBlank
  port : config.port ≠ 0
  password : config.password ≠ ""
  fits : (utf8 config.password).length ≤ passwordSize
  keepalive : config.keepalive ≠ .zero
  confirmation : config.confirmationTimeout ≠ .zero
  session : config.sessionTimeout ≠ .zero
  connect : config.connectTimeout ≠ .zero
  refresh : config.refreshInterval? ≠ some .zero
  factor : ¬ config.backoff.factor < 1

theorem fault?_eq_none_iff : config.fault? = none ↔ config.Valid := by
  constructor
  · intro h
    unfold fault? at h
    split at h; · cases h
    rename_i hostname
    split at h; · cases h
    rename_i port
    split at h; · cases h
    rename_i password
    split at h; · cases h
    rename_i fits
    split at h; · cases h
    rename_i keepalive
    split at h; · cases h
    rename_i timeouts
    split at h; · cases h
    rename_i refresh
    split at h; · cases h
    rename_i factor
    simp only [not_or] at timeouts
    exact ⟨hostname, port, password, Nat.not_lt.mp fits, keepalive, timeouts.1, timeouts.2.1,
      timeouts.2.2, refresh, factor⟩
  · intro valid
    have timeouts : ¬ (config.confirmationTimeout = .zero ∨ config.sessionTimeout = .zero
        ∨ config.connectTimeout = .zero) :=
      not_or.mpr ⟨valid.confirmation, not_or.mpr ⟨valid.session, valid.connect⟩⟩
    rw [fault?, if_neg valid.hostname, if_neg valid.port, if_neg valid.password,
      if_neg (Nat.not_lt.mpr valid.fits), if_neg valid.keepalive, if_neg timeouts,
      if_neg valid.refresh, if_neg valid.factor]

/-- What a processor needs of a configuration. -/
structure Runnable (config : Config) : Prop where
  /-- The password has a login, which goes over the wire. The frame is the first thing that is done
  on a connection, and no attempt fails between the two. -/
  logsIn : ∃ command frame, Command.login? config.password = .ok command ∧ command.Travels frame
    ∧ ∀ (state : State) (outage : Outage) (deadline : Instant),
        state.mode = .offline outage (.connecting deadline (some true)) → ¬ state.terminating →
        state.turn? config = some
          ({ state with
              mode := .offline outage
                (.loggingIn {} ⟨command, state.now + config.confirmationTimeout.nanos⟩) },
            [.send frame])
          ∧ ∀ failing error, ¬ Fails config state failing error
  /-- What recurs, recurs after some time. -/
  periods : ∀ entry ∈ config.periods, entry.2 ≠ .zero
  limits : ∀ limit ∈ [config.confirmationTimeout, config.sessionTimeout, config.connectTimeout],
    limit ≠ .zero

theorem Valid.periods (valid : config.Valid) : ∀ entry ∈ config.periods, entry.2 ≠ .zero := by
  intro entry hentry
  rw [Config.periods] at hentry
  cases hrefresh : config.refreshInterval? with
  | none =>
    rw [hrefresh, List.mem_singleton] at hentry
    rw [hentry]
    exact valid.keepalive
  | some period =>
    rw [hrefresh, List.mem_cons, List.mem_singleton] at hentry
    rcases hentry with rfl | rfl
    · exact valid.keepalive
    · rintro (rfl : period = .zero)
      exact valid.refresh hrefresh

theorem Valid.runnable (valid : config.Valid) : config.Runnable where
  logsIn := by
    obtain ⟨command, frame, hlogin, travels, hstart⟩ := Login.exists_start valid.fits
    refine ⟨command, frame, hlogin, travels, fun state outage deadline mode running => ⟨?_, ?_⟩⟩
    · have hlogIn : state.logIn config outage
          = ({ state with
                mode := .offline outage
                  (.loggingIn {} ⟨command, state.now + config.confirmationTimeout.nanos⟩) },
              [.send frame]) := by
        rw [State.logIn, hstart]
      rw [State.turn?]
      simp only [mode, if_neg running, State.turnOffline?, hlogIn]
    · intro failing error fails
      -- But for a login that cannot be sent, every failure is one of another stage.
      cases fails with
      | refused other | late other | denied other | dropped other | unanswered other =>
        rw [mode] at other
        cases other
      | unsendable _ failed =>
        rw [hstart] at failed
        cases failed
  periods := valid.periods
  limits := by
    intro limit hlimit
    simp only [List.mem_cons, List.not_mem_nil, or_false] at hlimit
    rcases hlimit with rfl | rfl | rfl
    · exact valid.confirmation
    · exact valid.session
    · exact valid.connect

/-- A configuration that is read from a file is that of a document, and has no fault. -/
theorem fault?_of_load {file? : Option Bytes} (loaded : load file? = .ok config) :
    config.fault? = none ∧ ∃ document : ConfigDocument, document.config = config := by
  unfold load at loaded
  split at loaded
  · cases loaded
  split at loaded
  · cases loaded
  rw [ofText] at loaded
  split at loaded
  · cases loaded
  rename_i document _
  split at loaded
  · cases loaded
  rename_i hfault
  cases loaded
  exact ⟨hfault, document, rfl⟩

end Config

/-- A document that asks for a refresh after no time asks for none. -/
theorem ConfigDocument.refreshInterval?_ne_zero (document : ConfigDocument) :
    document.config.refreshInterval? ≠ some .zero := by
  intro h
  obtain ⟨seconds, hseconds, hzero⟩ := Option.map_eq_some_iff.mp h
  have hpositive : 0 < seconds := of_decide_eq_true (Option.filter_eq_some_iff.mp hseconds).2
  have hnanos : seconds * Duration.nanosPerSecond = 0 := congrArg Duration.nanos hzero
  rw [Duration.nanosPerSecond] at hnanos
  omega

namespace Config

/-- A processor can run with every configuration that has no fault, however it came about, and so
with every configuration that is read from a file. The refresh of a document that asks for one has
a period, whether the rest of the document is right or not. -/
theorem runnable_of_checked :
    (∀ config : Config, config.fault? = none → config.Runnable)
      ∧ (∀ (file? : Option Bytes) (config : Config), load file? = .ok config → config.Runnable)
      ∧ ∀ document : ConfigDocument, document.config.refreshInterval? ≠ some .zero := by
  refine ⟨fun config checked => ?_, fun file? config loaded => ?_, fun document => ?_⟩
  · exact (fault?_eq_none_iff.mp checked).runnable
  · exact (fault?_eq_none_iff.mp (fault?_of_load loaded).1).runnable
  · exact document.refreshInterval?_ne_zero

/-- A configuration that was put together, with the longest password, and one that was read. -/
theorem runnable_of_longest_password_and_of_document :
    (∃ config : Config, config.password = String.ofList (List.replicate 32 'k')
      ∧ config.fault? = none ∧ config.Runnable)
    ∧ ∃ config : Config,
      load (some (utf8 "[\x22gateway\x22, null, \x22secret\x22, 300]")) = .ok config
        ∧ config.Runnable := by
  constructor
  · let config : Config :=
      { hostname := "gateway"
        password := String.ofList (List.replicate 32 'k')
        refreshInterval? := some (.ofSeconds 300) }
    have checked : config.fault? = none := by decide +kernel
    exact ⟨config, rfl, checked, runnable_of_checked.1 config checked⟩
  · have read :
        (load (some (utf8 "[\x22gateway\x22, null, \x22secret\x22, 300]"))).isOk = true := by
      decide +kernel
    cases loaded : load (some (utf8 "[\x22gateway\x22, null, \x22secret\x22, 300]")) with
    | error _ =>
      rw [loaded] at read
      cases read
    | ok config => exact ⟨config, rfl, runnable_of_checked.2.1 _ config loaded⟩

end Config

end ShutterGateway
