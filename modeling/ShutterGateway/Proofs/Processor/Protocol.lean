import Mathlib.Data.List.DropRight
import ShutterGateway.Proofs.Link.Login
import ShutterGateway.Proofs.Processor.Fitness

/-!
The protocol of a connection. It is a relation on phases, with one rule for everything that can be
noted: the password comes first and once, nothing follows it before the gateway has confirmed it,
and then the requests of the refresh come in their order, before any job of the queue.
-/

namespace ShutterGateway

/-- A frame carries a request, under whatever session. -/
def Request.Asks (request : Request) (frame : Frame) : Prop :=
  ∃ command : Command, command.request = request ∧ command.frame? = .ok frame

theorem CommandKind.eq_login {kind : CommandKind}
    (h : kind.descriptor.request? = some .passwordEnterReq) : kind = .login := by
  cases kind <;> first | rfl | cases h

/-- Only a login is written as one. -/
theorem Request.Asks.code_ne {request : Request} {frame : Frame} (h : request.Asks frame)
    (kind : request.kind ≠ .login) : frame.code ≠ 0x3000 := by
  obtain ⟨command, rfl, hframe⟩ := h
  unfold Command.frame? at hframe
  split at hframe
  · cases hframe
  · rename_i opcode hopcode
    split at hframe
    · cases hframe
    · cases hframe
      intro hcode
      have hopen : opcode = .passwordEnterReq := by
        have hsame : Opcode.ofCode? opcode.code = Opcode.ofCode? 0x3000 := congrArg _ hcode
        rw [Opcode.ofCode?_code] at hsame
        exact Option.some.inj hsame
      exact kind (CommandKind.eq_login (hopen ▸ hopcode))

namespace Processor

/-- What is noted about the connections of a processor. -/
inductive Entry where
  /-- A connection is asked for. -/
  | connect
  /-- A frame is taken before the login is decided, at some time of the day. -/
  | heard (frame : Frame) (time : UnixTime)
  /-- An attempt at a command ends. -/
  | ended (command : Command)
  /-- A job comes from the queue to be carried out. -/
  | took (job : Job)
  /-- A frame is handed to the connection. -/
  | wrote (frame : Frame)
  | hungUp
  /-- An attempt to connect has failed. -/
  | failed (error : LinkError)
  | published (state : ConnectionState)

/-- How far things have come on a connection. The requests are those of the refresh that are still
to come. -/
inductive Phase where
  | closed
  | opened
  /-- The password has been written. -/
  | asked
  /-- The password was not accepted, and the connection is to be given up. -/
  | denied
  /-- The connection was given up for that, and the attempt is to be counted as failed. -/
  | rejected
  /-- The password was accepted, and that is to be published. -/
  | granted (refresh : List Request)
  /-- No request is out. -/
  | ready (refresh : List Request)
  /-- The request is out and may be repeated so many times. -/
  | awaiting (request : Request) (retries : Nat) (refresh : List Request)
  /-- The request is to be repeated. -/
  | repeating (request : Request) (retries : Nat) (refresh : List Request)
  /-- A request has got no answer, and the connection may be checked. -/
  | suspect (refresh : List Request)
  | checking (refresh : List Request)
  /-- The refresh is over, and jobs of the queue are carried out. -/
  | serving

namespace Phase

/-- A refusal has still to be dealt with. -/
def isDenied : Phase → Bool
  | denied | rejected => true
  | _ => false

/-- The rules of the protocol. -/
inductive Leads (config : Config) : Phase → Entry → Phase → Prop where
  | connect : Leads config closed .connect opened
  /-- The first frame on a connection is the password. -/
  | ask {command : Command} {frame : Frame}
    (start : Login.start config.password = .ok (command, frame)) :
    Leads config opened (.wrote frame) asked
  /-- Other frames are passed over. -/
  | pass {frame : Frame} {time : UnixTime} (undecided : ¬ frame.Grants ∧ ¬ frame.Refuses) :
    Leads config asked (.heard frame time) asked
  | grant {frame : Frame} {time : UnixTime} (grants : frame.Grants) :
    Leads config asked (.heard frame time) (granted (config.greeting time))
  | refuse {frame : Frame} {time : UnixTime} (refuses : frame.Refuses) :
    Leads config asked (.heard frame time) denied
  | publish {refresh : List Request} :
    Leads config (granted refresh) (.published .connected) (ready refresh)
  /-- The requests of the refresh are written one after another. -/
  | request {request : Request} {refresh : List Request} {frame : Frame}
    (asks : request.Asks frame) :
    Leads config (ready (request :: refresh)) (.wrote frame)
      (awaiting request config.transientRetries refresh)
  /-- A refusal that clears up on its own makes the processor repeat the request. -/
  | again {request : Request} {retries : Nat} {refresh : List Request} {command : Command}
    (transient : command.error?.any (·.isTransient)) (left : 0 < retries) :
    Leads config (awaiting request retries refresh) (.ended command)
      (repeating request (retries - 1) refresh)
  | resend {request : Request} {retries : Nat} {refresh : List Request} {frame : Frame}
    (asks : request.Asks frame) :
    Leads config (repeating request retries refresh) (.wrote frame)
      (awaiting request retries refresh)
  | settle {request : Request} {retries : Nat} {refresh : List Request} {command : Command}
    (settled : ¬ (command.error?.any (·.isTransient) ∧ 0 < retries)) :
    Leads config (awaiting request retries refresh) (.ended command) (ready refresh)
  /-- A request without an answer makes the connection suspect. -/
  | late {request : Request} {retries : Nat} {refresh : List Request} {command : Command}
    (late : command.error? = some .timeout) :
    Leads config (awaiting request retries refresh) (.ended command) (suspect refresh)
  | check {refresh : List Request} {frame : Frame} (asks : Request.ping.Asks frame) :
    Leads config (suspect refresh) (.wrote frame) (checking refresh)
  | checked {refresh : List Request} {command : Command} :
    Leads config (checking refresh) (.ended command) (ready refresh)
  /-- The queue has its turn when all requests of the refresh are over. -/
  | serve {job : Job} : Leads config (ready []) (.took job) serving
  | take {job : Job} : Leads config serving (.took job) serving
  /-- Neither a login nor the request to terminate is ever written for a job. -/
  | write {request : Request} {frame : Frame} (sendable : Sendable request.kind)
    (asks : request.Asks frame) : Leads config serving (.wrote frame) serving
  | finish {command : Command} : Leads config serving (.ended command) serving
  /-- A connection can be given up at any time, but a refusal makes the attempt fail. -/
  | hangUp {phase : Phase} (undenied : ¬ phase.isDenied) : Leads config phase .hungUp closed
  | reject : Leads config denied .hungUp rejected
  | fail {error : CommandError} : Leads config rejected (.failed (.authRejected error)) closed
  /-- Without a connection none is published. -/
  | note {error : LinkError} : Leads config closed (.failed error) closed
  | announce {state : ConnectionState} (unconnected : state ≠ .connected) :
    Leads config closed (.published state) closed

/-- Several entries, one after another. -/
inductive Follows (config : Config) : Phase → List Entry → Phase → Prop where
  | refl {phase : Phase} : Follows config phase [] phase
  | step {first second third : Phase} {entry : Entry} {rest : List Entry}
    (leads : Leads config first entry second) (follows : Follows config second rest third) :
    Follows config first (entry :: rest) third

theorem Follows.trans {config : Config} {first second third : Phase} {log more : List Entry}
    (h : Follows config first log second) (h' : Follows config second more third) :
    Follows config first (log ++ more) third := by
  induction h with
  | refl => exact h'
  | step leads _ ih => exact .step leads (ih h')

end Phase

/-! ## What the rules say about one connection -/

namespace Entry

def frame? : Entry → Option Frame
  | wrote frame => some frame
  | _ => none

def published? : Entry → Option ConnectionState
  | published state => some state
  | _ => none

def isConnect : Entry → Bool
  | connect => true
  | _ => false

end Entry

/-- What has been noted since a connection was last asked for. -/
def current (log : List Entry) : List Entry :=
  log.rtakeWhile fun entry => ! entry.isConnect

/-- The frames that have been written. -/
def written (log : List Entry) : List Frame :=
  log.filterMap Entry.frame?

/-- The state that was published last. -/
def publishedLast? (log : List Entry) : Option ConnectionState :=
  (log.filterMap Entry.published?).getLast?

/-- The gateway has accepted the password. -/
def Granted (log : List Entry) : Prop :=
  ∃ frame time, .heard frame time ∈ log ∧ frame.Grants

/-- The gateway has accepted the password on the last connection, and that was published last. -/
structure Authenticated (log : List Entry) : Prop where
  granted : Granted (current log)
  connected : publishedLast? log = some .connected

section

variable {config : Config} {log : List Entry} {entry : Entry}

@[simp] theorem current_connect (log : List Entry) : current (log ++ [.connect]) = [] :=
  List.rtakeWhile_concat_neg _ _ _ Bool.false_ne_true

theorem current_concat (h : ! entry.isConnect) :
    current (log ++ [entry]) = current log ++ [entry] :=
  List.rtakeWhile_concat_pos _ _ _ h

theorem Granted.concat (h : Granted log) : Granted (log ++ [entry]) := by
  obtain ⟨frame, time, member, grants⟩ := h
  exact ⟨frame, time, List.mem_append_left _ member, grants⟩

theorem Authenticated.concat (h : Authenticated log) (same : ! entry.isConnect)
    (silent : entry.published? = none) : Authenticated (log ++ [entry]) := by
  refine ⟨?_, ?_⟩
  · rw [current_concat same]
    exact h.granted.concat
  · rw [publishedLast?, List.filterMap_append, List.filterMap_cons_none silent]
    exact (congrArg List.getLast? (List.append_nil _)).trans h.connected

namespace Phase

/-- What must have been noted by the time a phase is reached. -/
def Witnessed (log : List Entry) : Phase → Prop
  | opened => written (current log) = []
  | granted refresh => Granted (current log) ∧ ∀ request ∈ refresh, Sendable request.kind
  | ready refresh | suspect refresh | checking refresh =>
    Authenticated log ∧ ∀ request ∈ refresh, Sendable request.kind
  | awaiting request _ refresh | repeating request _ refresh =>
    Authenticated log ∧ ∀ other ∈ request :: refresh, Sendable other.kind
  | serving => Authenticated log
  | closed | asked | denied | rejected => True

variable {first second last : Phase}

/-- Every rule keeps what the phases stand for. -/
theorem Leads.witnessed (h : Leads config first entry second) (before : first.Witnessed log) :
    second.Witnessed (log ++ [entry]) := by
  cases h with
  | connect =>
    show written (current _) = []
    rw [current_connect]
    rfl
  | @grant frame time grants =>
    refine ⟨⟨frame, time, ?_, grants⟩, sendable_greeting config time⟩
    rw [current_concat rfl]
    exact List.mem_append_right _ List.mem_cons_self
  | publish =>
    obtain ⟨granted, sendable⟩ := before
    refine ⟨⟨?_, ?_⟩, sendable⟩
    · rw [current_concat rfl]
      exact granted.concat
    · rw [publishedLast?, List.filterMap_append]
      exact List.getLast?_concat
  | request | again | resend | check | checked =>
    exact ⟨before.1.concat rfl rfl, before.2⟩
  | settle | late => exact ⟨before.1.concat rfl rfl, (List.forall_mem_cons.mp before.2).2⟩
  | serve => exact before.1.concat rfl rfl
  | take | write | finish => exact before.concat rfl rfl
  | ask | pass | refuse | hangUp | reject | fail | note | announce => trivial

theorem Follows.witnessed {more : List Entry} (h : Follows config first more last)
    (before : first.Witnessed log) : last.Witnessed (log ++ more) := by
  induction h generalizing log with
  | refl => rwa [List.append_nil]
  | @step _ _ _ entry rest leads _ ih =>
    have hlast := ih (leads.witnessed before)
    rwa [List.append_assoc] at hlast

/-- Entries that follow one another can be cut anywhere. -/
theorem Follows.split {more : List Entry} (h : Follows config first (log ++ more) last) :
    ∃ second, Follows config first log second ∧ Follows config second more last := by
  induction log generalizing first with
  | nil => exact ⟨first, .refl, h⟩
  | cons entry rest ih =>
    cases h with
    | step leads follows =>
      obtain ⟨second, hfirst, hsecond⟩ := ih follows
      exact ⟨second, .step leads hfirst, hsecond⟩

/-- A frame is written as the password, before any other on its connection, or for a request that is
no login, after the gateway has accepted the password on this connection and that was published. -/
theorem Follows.wrote {earlier rest : List Entry} {frame : Frame}
    (h : Follows config closed (earlier ++ .wrote frame :: rest) last) :
    (written (current earlier) = [] ∧ ∃ command, Login.start config.password = .ok (command, frame))
      ∨ Authenticated earlier ∧ frame.code ≠ 0x3000
        ∧ ∃ request : Request, Sendable request.kind ∧ request.Asks frame := by
  obtain ⟨phase, before, after⟩ := h.split
  -- What the phase before the frame stands for has been noted by then.
  have witnessed : phase.Witnessed ([] ++ earlier) := before.witnessed trivial
  have sent {request : Request} (authenticated : Authenticated earlier)
      (sendable : Sendable request.kind) (asks : request.Asks frame) :
      Authenticated earlier ∧ frame.code ≠ 0x3000
        ∧ ∃ request : Request, Sendable request.kind ∧ request.Asks frame :=
    ⟨authenticated, asks.code_ne sendable.ne_login, request, sendable, asks⟩
  cases after with
  | step leads =>
    cases leads with
    | ask start => exact .inl ⟨witnessed, _, start⟩
    | request asks | resend asks =>
      exact .inr (sent witnessed.1 (witnessed.2 _ List.mem_cons_self) asks)
    | check asks => exact .inr (sent witnessed.1 sendable_ping asks)
    | write sendable asks => exact .inr (sent witnessed sendable asks)

end Phase

end

end Processor

end ShutterGateway
