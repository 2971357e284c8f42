import ShutterGateway.Proofs.Command.Verdict
import ShutterGateway.Proofs.Processor.Deliveries
import ShutterGateway.Proofs.Processor.Fitness

/-!
The nodes that the processor's own requests for all nodes find. An attempt at such a request begins
with none. From then on every notification that it takes adds the node that it describes behind
those that were found before, and nothing else does.
-/

namespace ShutterGateway

/-- The node that a notification adds to those that a request for all nodes has found. -/
def Frame.listed? (frame : Frame) : Option Node :=
  if frame.opcode? = some .getAllNodesInformationNtf then Node.parse? frame.payload else none

/-- Of the answers to a request for all nodes only the notifications bring nodes. -/
theorem Request.nodes_readAnswer {opcode : Opcode} (h : opcode ≠ .getAllNodesInformationNtf)
    (payload : Bytes) (findings : Findings) :
    (Id.run (getAllNodes.readAnswer opcode payload findings)).1.nodes = findings.nodes := by
  cases opcode with
  | getAllNodesInformationNtf => exact absurd rfl h
  | getAllNodesInformationCfm =>
    show (Id.run (findings.requiring _ _ _ _)).1.nodes = _
    rw [Findings.run_requiring]
    split <;> rfl
  | _ => rfl

namespace Command

variable {command : Command} {frame : Frame}

theorem opcode?_of_listed {node : Node} (h : frame.listed? = some node) :
    frame.opcode? = some .getAllNodesInformationNtf := by
  unfold Frame.listed? at h
  split at h
  · assumption
  · cases h

/-- No notification of a node is lost: all of them belong to the request. -/
theorem accepts_of_listed {node : Node} (request : command.request = .getAllNodes)
    (h : frame.listed? = some node) : command.accepts frame := by
  have hexpects : command.descriptor.expects .getAllNodesInformationNtf := by
    rw [descriptor, kind, request]
    rfl
  have hsession : Opcode.sessionOf? .getAllNodesInformationNtf frame.payload = none := rfl
  have htarget : command.request.target? = none := by
    rw [request]
    rfl
  simp [accepts_eq, opcode?_of_listed h, hexpects, hsession, htarget]

/-- What a notification of a node does to a request for all nodes. -/
theorem respond_of_opcode (request : command.request = .getAllNodes)
    (pending : command.status = .pending)
    (opcode : frame.opcode? = some .getAllNodesInformationNtf) :
    command.respond frame =
      match Node.parse? frame.payload with
      | some node =>
        { command with findings := { command.findings with
            nodes := command.findings.nodes ++ [node] } }
      | none => command.conclude command.findings
          (.failed (.protocol (.shortNode frame.payload.length))) := by
  have hopen : ¬ command.isTerminal := by simp [isTerminal_iff, pending]
  have hexpects : command.descriptor.expects .getAllNodesInformationNtf := by
    rw [descriptor, kind, request]
    rfl
  rw [respond_eq, if_neg hopen, opcode, Option.filter_some, if_pos hexpects]
  have hanswered := answered_of_request request .getAllNodesInformationNtf frame.payload
  rw [Request.readAnswer_getAllNodes] at hanswered
  simp only [hanswered, Node.parse?]
  cases Id.run (Node.read frame.payload) <;> rfl

/-- Each answer adds the node that it describes, if it describes one. -/
theorem nodes_respond (request : command.request = .getAllNodes)
    (pending : command.status = .pending) :
    (command.respond frame).findings.nodes
      = command.findings.nodes ++ frame.listed?.toList := by
  by_cases hopcode : frame.opcode? = some .getAllNodesInformationNtf
  · rw [respond_of_opcode request pending hopcode, Frame.listed?, if_pos hopcode]
    cases Node.parse? frame.payload with
    | none => exact (List.append_nil _).symm
    | some node => rfl
  · have hopen : ¬ command.isTerminal := by simp [isTerminal_iff, pending]
    rw [Frame.listed?, if_neg hopcode, Option.toList_none, List.append_nil, respond_eq,
      if_neg hopen]
    split
    · rw [findings_fail]
    · rw [findings_fail]
    · rename_i opcode _ hfilter
      obtain ⟨hframe, -⟩ := Option.filter_eq_some_iff.mp hfilter
      rw [findings_conclude, answered_of_request request]
      refine Request.nodes_readAnswer ?_ _ _
      rintro rfl
      exact hopcode hframe

/-- The answer that completes the request adds no node. -/
theorem listed?_of_complete (request : command.request = .getAllNodes)
    (pending : command.status = .pending) (complete : (command.respond frame).status = .complete) :
    frame.listed? = none := by
  cases hlisted : frame.listed? with
  | none => rfl
  | some node =>
    have hopcode := opcode?_of_listed hlisted
    rw [respond_of_opcode request pending hopcode] at complete
    rw [Frame.listed?, if_pos hopcode] at hlisted
    rw [hlisted] at complete
    cases pending.symm.trans complete

end Command

namespace Processor

/-- The nodes that have been found by the attempt that is out, if it is one at a request for all
nodes for which no caller waits. -/
def State.collected? (state : State) : Option (List Node) :=
  match state.mode.activity? with
  | some (.running job _ attempt) =>
    if job.origin = .internal ∧ attempt.command.request = .getAllNodes then
      some attempt.command.findings.nodes
    else none
  | _ => none

/-- A reaction after which an attempt is out only if its request has just been handed over. -/
def StartsAnew (reaction : Reaction) : Prop :=
  ∀ nodes, reaction.1.collected? = some nodes → sent reaction.2 ≠ [] ∧ nodes = []

section

variable {config : Config} {link : Link} {refresh : List Request} {state : State}
  {reaction : Reaction}

/-! ## Where an attempt begins -/

theorem findings_assigned (command : Command) (state : State) :
    (state.assignSession command).1.findings = command.findings := by
  unfold State.assignSession
  split
  · exact Command.findings_assignSession ..
  · rfl

theorem startsAnew_of_none (h : reaction.1.collected? = none) : StartsAnew reaction := by
  intro nodes collected
  cases h.symm.trans collected

theorem StartsAnew.andThen {next : State → Reaction} (h : StartsAnew (next reaction.1)) :
    StartsAnew (reaction.andThen next) := by
  intro nodes collected
  obtain ⟨hsent, hnodes⟩ := h nodes collected
  refine ⟨?_, hnodes⟩
  rw [Reaction.andThen, sent_append]
  exact List.append_ne_nil_of_right_ne_nil _ hsent

theorem collected?_of_offline {outage : Outage} {stage : Stage}
    (mode : state.mode = .offline outage stage) : state.collected? = none := by
  rw [State.collected?, mode]
  rfl

theorem startsAnew_of_withdraws (h : Withdraws state reaction) : StartsAnew reaction := by
  obtain ⟨outage, stage, mode⟩ := h.offline
  exact startsAnew_of_none (collected?_of_offline mode)

theorem startsAnew_loseLink (state : State) : StartsAnew (state.loseLink config) :=
  startsAnew_of_withdraws (withdraws_loseLink config state)

theorem collected?_stop (state : State) : state.stop.1.collected? = none := by
  have hmode : state.stop.1.mode = .stopped := mode_drain state.queue _
  rw [State.collected?, hmode]
  rfl

theorem startsAnew_stop (state : State) : StartsAnew state.stop :=
  startsAnew_of_none (collected?_stop state)

theorem startsAnew_launchesAs {job : Job} {retries : Nat} (fit : job.Fit)
    (h : LaunchesAs config link refresh state job retries reaction) : StartsAnew reaction := by
  cases h with
  | sent taking frame? =>
    -- A job of the processor's own is fresh, so that nothing has been found by it.
    intro nodes collected
    refine ⟨List.cons_ne_nil _ _, ?_⟩
    change (if _ then _ else _ : Option (List Node)) = _ at collected
    split at collected
    · rename_i h
      cases collected
      rw [findings_assigned, fit.fresh h.1]
      rfl
    · cases collected
  | refused refusing => exact (startsAnew_loseLink _).andThen

theorem startsAnew_proceed (sendable : ∀ request ∈ refresh, Sendable request.kind)
    (state : State) : StartsAnew (State.proceed config link refresh state) := by
  have proceeds := proceedsAs_proceed config link refresh state sendable
  generalize State.proceed config link refresh state = reaction at proceeds
  cases proceeds with
  | idle => exact startsAnew_of_none rfl
  | launch launches =>
    rw [List.forall_mem_cons] at sendable
    exact startsAnew_launchesAs (fit_internal sendable.1) launches

theorem startsAnew_check (state : State) : StartsAnew (state.check config link refresh) := by
  have checks := checksAs_check config link refresh state
  generalize state.check config link refresh = reaction at checks
  cases checks with
  | sent taking request status => exact startsAnew_of_none rfl
  | refused refusing => exact startsAnew_loseLink _

theorem startsAnew_concludeCheck {outcome : Outcome}
    (sendable : ∀ request ∈ refresh, Sendable request.kind) :
    StartsAnew (state.concludeCheck config link refresh outcome) := by
  cases outcome with
  | done => exact startsAnew_proceed sendable _
  | terminated => exact startsAnew_stop _
  | linkLost => exact startsAnew_loseLink _
  | timedOut => exact startsAnew_loseLink _

theorem startsAnew_conclude {job : Job} {retries : Nat} {command : Command} {outcome : Outcome}
    {reaction : Reaction} (sendable : ∀ request ∈ refresh, Sendable request.kind)
    (h : Concludes config link refresh job retries command state outcome reaction) :
    StartsAnew reaction := by
  cases h with
  | again => exact startsAnew_of_none rfl
  | settle => exact (startsAnew_concludeCheck sendable).andThen
  | check => exact (startsAnew_check _).andThen

/-! ## Turns -/

/-- What a step makes of the nodes that have been found: a request is handed over and none are found
yet, or the frame that is taken adds its node. -/
def Collects (before : State) (handed taken : List Frame) (nodes : List Node) : Prop :=
  handed ≠ [] ∧ nodes = []
    ∨ handed = [] ∧ ∃ earlier, before.collected? = some earlier
      ∧ nodes = earlier ++ taken.filterMap Frame.listed?

theorem collected?_of_running {job : Job} {retries : Nat} {attempt : Attempt}
    (mode : state.mode = .online link refresh (.running job retries attempt)) :
    state.collected? =
      if job.origin = .internal ∧ attempt.command.request = .getAllNodes then
        some attempt.command.findings.nodes
      else none := by
  rw [State.collected?, mode]
  rfl

theorem attempt?_of_collected {nodes : List Node} (h : state.collected? = some nodes) :
    ∃ attempt, state.attempt? = some attempt := by
  rw [State.collected?] at h
  split at h
  · rename_i job retries attempt hactivity
    exact ⟨attempt, by rw [State.attempt?, hactivity]; rfl⟩
  · cases h

theorem collects_ongoing {left : Link} {job : Job} {retries : Nat} {attempt later : Attempt}
    {nodes : List Node} (fit : state.Fit)
    (mode : state.mode = .online link refresh (.running job retries attempt))
    (comes : attempt.Comes config state link (.ongoing later, left))
    (collected : State.collected?
      { state with mode := .online left refresh (.running job retries later) } = some nodes) :
    Collects state [] state.taken?.toList nodes := by
  rw [collected?_of_running rfl] at collected
  split at collected
  · rename_i h
    cases collected
    have hrequest : attempt.command.request = .getAllNodes := comes.of_ongoing.1.symm.trans h.2
    refine .inr ⟨rfl, _, (collected?_of_running mode).trans (if_pos ⟨h.1, hrequest⟩), ?_⟩
    cases comes with
    | ongoing running arrived =>
      rw [Attempt.command_extend, Command.nodes_respond hrequest (fit.pending mode h.1),
        taken?_of_arrived running mode rfl arrived]
      rfl
  · cases collected

theorem collects_unclaimed {left : Link} {job : Job} {retries : Nat} {attempt : Attempt}
    {frame : Frame} {nodes : List Node}
    (mode : state.mode = .online link refresh (.running job retries attempt))
    (comes : attempt.Comes config state link (.unclaimed frame, left))
    (collected : State.collected?
      { state with mode := .online left refresh (.running job retries attempt) } = some nodes) :
    Collects state [] state.taken?.toList nodes := by
  rw [collected?_of_running rfl] at collected
  refine .inr ⟨rfl, nodes, (collected?_of_running mode).trans collected, ?_⟩
  split at collected
  · rename_i h
    cases comes with
    | unclaimed running arrived accepts =>
      have hlisted : frame.listed? = none := by
        cases hlisted : frame.listed? with
        | none => rfl
        | some node => exact absurd (Command.accepts_of_listed h.2 hlisted) accepts
      rw [taken?_of_arrived running mode rfl arrived]
      simp [hlisted]
  · cases collected

/-- On a connection, what a reaction sends are requests. -/
theorem StartsAnew.collects {activity : Activity} {taken : List Frame} {nodes : List Node}
    (h : StartsAnew reaction) (mode : state.mode = .online link refresh activity)
    (collected : reaction.1.collected? = some nodes) :
    Collects state (requests state reaction.2) taken nodes := by
  rw [requests_of_online mode]
  exact .inl (h nodes collected)

theorem collects_turn {nodes : List Node} (fit : state.Fit) (h : Turns config state reaction)
    (collected : reaction.1.collected? = some nodes) :
    Collects state (requests state reaction.2) state.taken?.toList nodes := by
  cases h with
  | stop => cases (collected?_stop state).symm.trans collected
  | connect => cases collected
  | @reject outage job rest running suspended =>
    obtain ⟨stage, mode⟩ := suspended.offline
    have hmode : (State.learn (job.command.fail (.connectivity .gatewayUnavailable))
        { state with queue := rest }).mode = .offline outage stage := (mode_learn ..).trans mode
    cases (collected?_of_offline hmode).symm.trans collected
  | logIn => cases collected
  | failAttempt =>
    obtain ⟨outage, stage, mode⟩ := (withdraws_failAttempt config _ _ state).offline
    cases (collected?_of_offline mode).symm.trans collected
  | keepLoggingIn => cases collected
  | goOnline running mode =>
    refine .inl ?_
    rw [requests, mode]
    exact (startsAnew_proceed (sendable_refreshRequests config _) _).andThen nodes collected
  | unsolicited running mode =>
    rw [state_unsolicited] at collected
    cases collected
  | loseLink running mode => exact (startsAnew_loseLink state).collects mode collected
  | @launch link refresh job rest running mode silent alive queue =>
    have hjob := (fit.front queue).1
    have launches := launchesAs_launch config link refresh { state with queue := rest }
      config.transientRetries (State.proceed config link refresh) hjob.sendable
    exact (startsAnew_launchesAs hjob launches).collects mode collected
  | ongoing mode comes =>
    -- The frame is an answer, and adds its node.
    rw [requests_of_online mode]
    exact collects_ongoing fit mode comes collected
  | unclaimed mode comes =>
    rw [requests_of_online mode, sent_unsolicited]
    rw [state_unsolicited] at collected
    exact collects_unclaimed mode comes collected
  | @conclude _ left refresh job retries _ command outcome mode comes =>
    have concludes := concludes_conclude config left refresh job retries command outcome state
    exact (startsAnew_conclude (fit.online mode).2.1 concludes).collects mode collected
  | stopPause mode terminating => exact (startsAnew_stop _).andThen.collects mode collected
  | @resume link refresh job retries resume running mode due =>
    obtain ⟨-, -, hjob⟩ := fit.online mode
    have launches := launchesAs_launch config link refresh state retries
      (State.proceed config link refresh) hjob.sendable
    exact (startsAnew_launchesAs hjob launches).collects mode collected
  | keepChecking => cases collected
  | unclaimedByCheck =>
    rw [state_unsolicited] at collected
    cases collected
  | concludeCheck mode comes =>
    exact (startsAnew_concludeCheck (fit.online mode).2.1).collects mode collected

/-! ## Moments -/

variable (config)

theorem collects_moment {step : Step} {nodes : List Node} (fit : state.Fit)
    (collected : (Moment.of config state step).after.collected? = some nodes) :
    Collects state (Moment.of config state step).requests (Moment.of config state step).taken
      nodes := by
  cases step with
  | event event =>
    obtain ⟨hactivity, -, hsent⟩ := occur_keeps event state
    refine .inr ⟨(requests_of_sent hsent).trans hsent, nodes, ?_, (List.append_nil _).symm⟩
    have hcollected : (state.occur event).1.collected? = some nodes := collected
    rwa [State.collected?, hactivity] at hcollected
  | turn =>
    cases h : state.turn? config with
    | none =>
      rw [moment_of_no_turn h] at collected ⊢
      refine .inr ⟨requests_of_sent rfl, nodes, collected, ?_⟩
      show nodes = nodes ++ state.taken?.toList.filterMap Frame.listed?
      rw [taken?_of_no_turn h]
      exact (List.append_nil _).symm
    | some reaction =>
      rw [moment_of_turn h] at collected ⊢
      exact collects_turn fit (turns_of_turn h) collected

/-- Over a history: the nodes that have been found are those that the frames describe which have
been taken since the request was handed over, in their order. -/
def Collected (past : List Moment) (state : State) : Prop :=
  ∀ nodes before handing since, state.collected? = some nodes →
    past = before ++ handing :: since → handing.requests ≠ [] →
    (∀ moment ∈ since, moment.requests = []) →
    nodes = (since.flatMap Moment.taken).filterMap Frame.listed?

theorem collected_moment {past : List Moment} (step : Step) (fit : state.Fit)
    (h : Collected past state) :
    Collected (past ++ [.of config state step]) (Moment.of config state step).after := by
  intro nodes before handing since collected hpast request last
  have hcollects := collects_moment config fit collected
  rcases List.eq_nil_or_concat since with rfl | ⟨since, moment, rfl⟩
  · -- The request is handed over in this step.
    obtain ⟨-, hlast⟩ := List.append_inj' hpast rfl
    obtain rfl := List.singleton_inj.mp hlast
    rcases hcollects with ⟨-, rfl⟩ | ⟨hrequests, -⟩
    · rfl
    · exact absurd hrequests request
  · rw [List.concat_eq_append] at hpast last ⊢
    rw [← List.cons_append, ← List.append_assoc] at hpast
    obtain ⟨rfl, hlast⟩ := List.append_inj' hpast rfl
    obtain rfl := List.singleton_inj.mp hlast
    rw [List.forall_mem_append, List.forall_mem_singleton] at last
    rcases hcollects with ⟨hrequests, -⟩ | ⟨-, earlier, hearlier, rfl⟩
    · exact absurd last.2 hrequests
    · rw [h earlier before handing since hearlier rfl request last.1, List.flatMap_append,
        List.flatMap_singleton, List.filterMap_append]

theorem collected_reached (epoch : UnixTime) (steps : List Step) :
    Collected (history config epoch steps) (reached config epoch steps) := by
  suffices h : (reached config epoch steps).Fit
      ∧ Collected (history config epoch steps) (reached config epoch steps) from h.2
  refine @history_induction (fun past state => state.Fit ∧ Collected past state)
    config epoch steps ?_ ?_
  · refine ⟨fit_start config epoch, ?_⟩
    intro nodes before handing since collected hpast
    cases before <;> cases hpast
  · rintro past state step ⟨fit, collected⟩
    exact ⟨fit_moment config state step fit, collected_moment config step fit collected⟩

/-- The request of the attempt that has found some nodes was handed over at some moment, and they
are those that the frames describe which have been taken since. -/
theorem collected_since (epoch : UnixTime) (steps : List Step) {nodes : List Node}
    (collected : (reached config epoch steps).collected? = some nodes) :
    ∃ attempt handing since, (reached config epoch steps).attempt? = some attempt
      ∧ HandedOver (history config epoch steps) attempt handing since
      ∧ nodes = (since.flatMap Moment.taken).filterMap Frame.listed? := by
  obtain ⟨attempt, out⟩ := attempt?_of_collected collected
  obtain ⟨handing, since, handed, -⟩ := exists_handedOver config epoch steps out
  refine ⟨attempt, handing, since, out, handed, ?_⟩
  obtain ⟨before, hpast⟩ := handed.history
  obtain ⟨frame, -, hrequests⟩ := handed.request
  have request : handing.requests ≠ [] := by
    rw [hrequests]
    exact List.cons_ne_nil _ _
  exact collected_reached config epoch steps nodes before handing since collected hpast request
    handed.last

end

end Processor

end ShutterGateway
