import ShutterGateway.Completion
import ShutterGateway.Proofs.Processor.Order

/-!
Every submitted command comes back exactly once. Over every run, and wherever it is broken off, what
callers get can be matched one to one with what they have submitted. What comes back asks for what
was submitted and is over, except that asking for the end comes back as it is.
-/

namespace ShutterGateway.Processor

/-! ## Accounts in any order -/

/-- Some of what is owed is settled by what is paid, one by one, and the others are left. -/
def Clears {α β : Type} (Settles : α → β → Prop) (owed : List α) (paid : List β)
    (left : List α) : Prop :=
  ∃ settled, owed.Perm (settled ++ left) ∧ List.Forall₂ Settles settled paid

namespace Clears

variable {α β : Type} {Settles : α → β → Prop} {owed left left' more : List α}
  {paid paid' : List β}

theorem trans (first : Clears Settles owed paid left)
    (second : Clears Settles (left ++ more) paid' left') :
    Clears Settles (owed ++ more) (paid ++ paid') left' := by
  obtain ⟨settled, howed, hsettled⟩ := first
  obtain ⟨settled', hleft, hsettled'⟩ := second
  refine ⟨settled ++ settled', ?_, List.rel_append hsettled hsettled'⟩
  have hmore := howed.append_right more
  rw [List.append_assoc] at hmore ⊢
  exact hmore.trans (hleft.append_left settled)

theorem refl (owed : List α) : Clears Settles owed [] owed :=
  ⟨[], .refl _, .nil⟩

/-- What comes last can be settled at once. -/
theorem at_once {item : α} {payment : β} (settles : Settles item payment) (owed : List α) :
    Clears Settles (owed ++ [item]) [payment] owed :=
  ⟨[item], List.perm_append_comm, .cons settles .nil⟩

end Clears

/-! ## Completions -/

/-- The handle of a caller who gets an answer. -/
def Answer.deliver (answer : Answer) (completion : Completion) : Completion :=
  match answer.command? with
  | some command => completion.answer command
  | none => completion.abandon

/-- A submitted command comes back by an answer. Whether the caller waits for it or takes it, it
comes back once. It asks for what was submitted, and it is over, unless it asks for the end: then it
is the submitted command itself. -/
structure Call.ComesBack (call : Call) (answer : Answer) : Prop where
  ticket : answer.ticket = call.ticket
  command : ∃ command,
    (answer.deliver { submitted := call.command }).wait = .returned command
      ∧ (answer.deliver { submitted := call.command }).tryTake.1 = some command
      ∧ (answer.deliver { submitted := call.command }).tryTake.2.tryTake.1 = none
      ∧ command.request = call.command.request
      ∧ if call.command.kind = .terminate then command = call.command
        else command.status = .complete ∨ ∃ error, command.status = .failed error

namespace Call

theorem over_of_isTerminal {command : Command} (h : command.isTerminal) :
    command.status = .complete ∨ ∃ error, command.status = .failed error := by
  cases hstatus : command.status with
  | pending => exact absurd hstatus (Command.isTerminal_iff.mp h)
  | complete => exact .inl rfl
  | failed error => exact .inr ⟨error, rfl⟩

theorem Returns.comesBack {call : Call} {answer : Answer} (kind : call.command.kind ≠ .terminate)
    (h : call.Returns answer) : call.ComesBack answer := by
  obtain ⟨ticket, command?⟩ := answer
  obtain ⟨hticket, command, rfl, hrequest, hterminal⟩ := h
  refine ⟨hticket, command, rfl, rfl, rfl, hrequest, ?_⟩
  rw [if_neg kind]
  exact over_of_isTerminal hterminal

/-- A command whose processor goes away comes back as failed by the shutdown. -/
theorem comesBack_abandoned {call : Call} (kind : call.command.kind ≠ .terminate) :
    call.ComesBack ⟨call.ticket, none⟩ := by
  refine ⟨rfl, call.command.fail .shutdown, rfl, rfl, rfl, Command.request_fail .., ?_⟩
  rw [if_neg kind]
  exact over_of_isTerminal (Command.isTerminal_fail ..)

/-- Asking for the end is answered with the command that asks for it. -/
theorem comesBack_terminate {call : Call} (kind : call.command.kind = .terminate) :
    call.ComesBack ⟨call.ticket, some call.command⟩ := by
  refine ⟨rfl, call.command, rfl, rfl, rfl, rfl, ?_⟩
  rw [if_pos kind]

end Call

/-! ## Steps -/

/-- The command that a caller submits, if one does. -/
def Moment.submitted (moment : Moment) : List Call :=
  match moment.step with
  | .event (.submit ticket command) => [⟨ticket, command⟩]
  | _ => []

/-- What the processor tells the callers who still wait when it goes away. -/
def State.abandonAll (state : State) : List Effect :=
  state.owed.map fun call => .abandon call.ticket

/-- A sound processor that owes no caller the end. -/
def State.Answers (state : State) : Prop :=
  state.Sound ∧ ∀ call ∈ state.owed, call.command.kind ≠ .terminate

section

variable (config : Config) {state : State}

theorem kind_of_job? {event : Event} {job : Job} {call : Call} (h : event.job? state = some job)
    (hcall : job.call? = some call) : call.command.kind ≠ .terminate := by
  cases event with
  | submit ticket command =>
    rw [Event.job?] at h
    split at h
    · cases h
    · rename_i hkind
      cases h
      cases hcall
      exact fun hterminate => hkind (.inl hterminate)
  | recur periodic =>
    rw [Event.job?] at h
    split at h
    · cases h
      cases periodic <;> cases hcall
    · cases h
  | _ => cases h

theorem answers_keeps (state : State) (step : Step) (h : state.Answers) :
    (Moment.of config state step).after.Answers := by
  obtain ⟨sound, owed⟩ := h
  refine ⟨sound_moment config state step sound, ?_⟩
  intro call member
  obtain ⟨settled, heq, -⟩ := owed_moment config state step sound
  have member := heq ▸ List.mem_append_right settled member
  rcases List.mem_append.mp member with member | member
  · exact owed call member
  · obtain ⟨job, hjob, hcall⟩ := List.mem_filterMap.mp member
    cases step with
    | turn => cases hjob
    | event event => exact kind_of_job? (Option.mem_toList.mp hjob) hcall

/-- What can be said of the answers that a processor gives without a turn. -/
structure SettlesAtOnce (Settles : Call → Answer → Prop) : Prop where
  terminate : ∀ call, call.command.kind = .terminate →
    Settles call ⟨call.ticket, some call.command⟩
  login : ∀ call, call.command.kind = .login →
    Settles call ⟨call.ticket, some (call.command.fail (.invalidParameter .loginReserved))⟩
  abandoned : ∀ call, call.command.kind ≠ .terminate → call.command.kind ≠ .login →
    Settles call ⟨call.ticket, none⟩

theorem comesBack_at_once : SettlesAtOnce Call.ComesBack := by
  refine ⟨fun call => Call.comesBack_terminate, ?_, fun call terminate _ =>
    Call.comesBack_abandoned terminate⟩
  intro call login
  have hterminate : call.command.kind ≠ .terminate := by rw [login]; exact nofun
  exact Call.Returns.comesBack hterminate
    ⟨rfl, _, rfl, Command.request_fail .., Command.isTerminal_fail ..⟩

/-- A submitted command is answered at once, or it is owed from then on. -/
theorem clears_submit {Settles : Call → Answer → Prop} (atOnce : SettlesAtOnce Settles)
    (ticket : Nat) (command : Command) :
    Clears Settles (state.owed ++ [⟨ticket, command⟩])
      (answers (state.submit ticket command).2) (state.submit ticket command).1.owed := by
  unfold State.submit
  split
  · rename_i hkind
    exact .at_once (atOnce.terminate ⟨ticket, command⟩ hkind) state.owed
  · rename_i hkind
    exact .at_once (atOnce.login ⟨ticket, command⟩ hkind) state.owed
  · rename_i hterminate hlogin
    split
    · exact .at_once (atOnce.abandoned ⟨ticket, command⟩ hterminate hlogin) state.owed
    · have howed : State.owed { state with queue := state.queue ++ [⟨command, .caller ticket⟩] }
          = state.owed ++ [⟨ticket, command⟩] := by
        rw [State.owed, State.waiting, List.filterMap_append, ← List.append_assoc]
        rfl
      show Clears Settles _ [] (State.owed { state with queue := _ })
      rw [howed]
      exact .refl _

/-- What happens around a processor, but for a submission, answers nobody. -/
theorem answers_occur (state : State) {event : Event}
    (h : ∀ ticket command, event ≠ .submit ticket command) :
    answers (state.occur event).2 = [] ∧ (state.occur event).1.owed = state.owed := by
  obtain ⟨hactivity, hqueue, -⟩ := occur_keeps event state
  have hcall : (event.job? state).toList.filterMap Job.call? = [] := by
    cases event with
    | submit ticket command => exact absurd rfl (h ticket command)
    | recur periodic =>
      rw [Event.job?]
      split
      · cases periodic <;> rfl
      · rfl
    | _ => rfl
  have howed : (state.occur event).1.owed = state.owed := by
    rw [State.owed, hactivity, State.waiting, hqueue, List.filterMap_append, hcall,
      List.append_nil]
    rfl
  refine ⟨?_, howed⟩
  cases event with
  | submit ticket command => exact absurd rfl (h ticket command)
  | recur periodic => rw [State.occur]; split <;> rfl
  | connected success => rw [State.occur]; split <;> rfl
  | _ => rfl

/-- The account of all answers, over something that happens. -/
theorem clears_occur {Settles : Call → Answer → Prop} (atOnce : SettlesAtOnce Settles)
    (state : State) (event : Event) :
    Clears Settles (state.owed ++ (Moment.of config state (.event event)).submitted)
      (answers (Moment.of config state (.event event)).effects)
      (Moment.of config state (.event event)).after.owed := by
  have others (h : ∀ ticket command, event ≠ .submit ticket command)
      (hsubmitted : (Moment.of config state (.event event)).submitted = []) :
      Clears Settles (state.owed ++ (Moment.of config state (.event event)).submitted)
        (answers (state.occur event).2) (state.occur event).1.owed := by
    obtain ⟨hanswers, howed⟩ := answers_occur state h
    rw [hanswers, howed, hsubmitted, List.append_nil]
    exact .refl _
  cases event with
  | submit ticket command => exact clears_submit atOnce ticket command
  | _ => exact others (fun ticket command => nofun) rfl

/-- The account of all answers, over one step. -/
theorem clears_moment (state : State) (step : Step) (h : state.Answers) :
    Clears Call.ComesBack (state.owed ++ (Moment.of config state step).submitted)
      (answers (Moment.of config state step).effects)
      (Moment.of config state step).after.owed := by
  cases step with
  | turn =>
    -- A turn answers those who are owed in their order, and none of them has asked for the end.
    obtain ⟨settled, heq, hsettled⟩ := owed_moment config state .turn h.1
    have heq : state.owed = settled ++ (Moment.of config state .turn).after.owed :=
      (List.append_nil _).symm.trans heq
    refine ⟨settled, ?_, ?_⟩
    · show (state.owed ++ []).Perm _
      rw [List.append_nil]
      exact .of_eq heq
    · have kinds : ∀ call ∈ settled, call.command.kind ≠ .terminate := by
        intro call member
        exact h.2 call (heq ▸ List.mem_append_left _ member)
      have both := (List.forall₂_and_left settled _).mpr ⟨kinds, hsettled⟩
      exact both.imp fun call answer ⟨kind, returns⟩ => returns.comesBack kind
  | event event => exact clears_occur config comesBack_at_once state event

theorem answers_run_append (first second : List Step) (state : State) :
    answers (run config (first ++ second) state).2
      = answers (run config first state).2
        ++ answers (run config second (run config first state).1).2 := by
  rw [effects_run, moments_append, List.flatMap_append, answers_append, ← effects_run,
    ← effects_run]

/-- An account of all answers that every step keeps is kept by a run. -/
theorem run_clears {Keeps : State → Prop} {Settles : Call → Answer → Prop}
    (keeps : ∀ state step, Keeps state → Keeps (Moment.of config state step).after)
    (account : ∀ state step, Keeps state →
      Clears Settles (state.owed ++ (Moment.of config state step).submitted)
        (answers (Moment.of config state step).effects)
        (Moment.of config state step).after.owed)
    (steps : List Step) {state : State} (start : Keeps state) :
    Clears Settles (state.owed ++ (moments config steps state).flatMap Moment.submitted)
        (answers (run config steps state).2) (run config steps state).1.owed
      ∧ Keeps (run config steps state).1 := by
  induction steps generalizing state with
  | nil =>
    refine ⟨?_, start⟩
    show Clears Settles (state.owed ++ []) [] state.owed
    rw [List.append_nil]
    exact .refl _
  | cons step rest ih =>
    obtain ⟨others, last⟩ := ih (keeps state step start)
    refine ⟨?_, last⟩
    have both := (account state step start).trans others
    rw [List.append_assoc] at both
    rw [effects_run_cons, answers_append, moments, List.flatMap_cons]
    exact both

/-- The account of all answers, from the start of a processor on. -/
theorem history_clears (epoch : UnixTime) (steps : List Step) :
    Clears Call.ComesBack ((history config epoch steps).flatMap Moment.submitted)
        (answers (run config steps (State.start config epoch).1).2)
        (reached config epoch steps).owed
      ∧ (reached config epoch steps).Answers := by
  obtain ⟨outage, stage, mode⟩ := (withdraws_start config epoch).offline
  have hstart : (State.start config epoch).1.owed = [] := by
    rw [(owed_of_offline config mode).2.2, State.waiting, (withdraws_start config epoch).queue]
    rfl
  have start : (State.start config epoch).1.Answers := by
    refine ⟨(withdraws_start config epoch).resumes.sound, ?_⟩
    intro call member
    rw [hstart] at member
    cases member
  have account := run_clears config (answers_keeps config) (clears_moment config) steps start
  rw [hstart, List.nil_append] at account
  unfold history reached
  exact account

theorem owed_of_stopped {state : State} (sound : state.Sound) (mode : state.mode = .stopped) :
    state.owed = [] := by
  rw [State.owed, State.waiting, sound.stopped mode, mode]
  rfl

theorem answers_abandonAll (state : State) :
    answers state.abandonAll = state.owed.map fun call => ⟨call.ticket, none⟩ := by
  rw [answers, State.abandonAll, List.filterMap_map]
  exact List.filterMap_eq_map ▸ rfl

end

/-- **Every command comes back exactly once.** Whatever happens to a processor, and if it goes away
at any moment after it, the commands that were submitted can be arranged so that each of them comes
back by one answer and each answer brings one of them back. After the end nobody is left who still
waits. -/
theorem every_command_comes_back_once (config : Config) (epoch : UnixTime) (steps : List Step) :
    ∃ calls : List Call,
      calls.Perm ((history config epoch steps).flatMap Moment.submitted)
        ∧ List.Forall₂ Call.ComesBack calls
          (answers ((run config steps (State.start config epoch).1).2
            ++ (reached config epoch steps).abandonAll))
        ∧ ((reached config epoch steps).mode = .stopped →
          (reached config epoch steps).abandonAll = []) := by
  obtain ⟨⟨settled, perm, hsettled⟩, sound, kinds⟩ := history_clears config epoch steps
  refine ⟨settled ++ (reached config epoch steps).owed, perm.symm, ?_, ?_⟩
  · rw [answers_append, answers_abandonAll]
    refine List.rel_append hsettled ?_
    rw [List.forall₂_map_right_iff, List.forall₂_same]
    intro call member
    exact Call.comesBack_abandoned (kinds call member)
  · intro stopped
    rw [State.abandonAll, owed_of_stopped sound stopped]
    rfl

end ShutterGateway.Processor
