import ShutterGateway.Proofs.Processor.Buffer

/-!
Frames that answer no command. Two runs of a processor stand side by side, and in the second frames
arrive in addition that no command expects. The processor takes each of them in a turn of its own,
in which it does nothing but tell the listeners about a position. In all other moments the two runs
do the same at the same time, and are the same apart from what waits on the connection.
-/

namespace ShutterGateway

/-! ## Frames that answer nothing -/

/-- A frame whose opcode no command expects. -/
def Frame.Unrelated (frame : Frame) : Prop :=
  ∀ opcode, frame.opcode? = some opcode → ∀ kind : CommandKind, ¬ kind.descriptor.expects opcode

theorem CommandKind.mem_all (kind : CommandKind) : kind ∈ all := by
  cases kind <;> decide

/-- The opcodes that no command expects are those of the requests and two notifications. -/
theorem Opcode.unexpected_iff (opcode : Opcode) :
    (∀ kind : CommandKind, ¬ kind.descriptor.expects opcode)
      ↔ (∃ kind : CommandKind, kind.descriptor.request? = some opcode)
        ∨ opcode = nodeInformationChangedNtf ∨ opcode = nodeStatePositionChangedNtf := by
  have htable : ∀ opcode ∈ all,
      (∀ kind ∈ CommandKind.all, ¬ kind.descriptor.expects opcode)
        ↔ (∃ kind ∈ CommandKind.all, kind.descriptor.request? = some opcode)
          ∨ opcode = nodeInformationChangedNtf ∨ opcode = nodeStatePositionChangedNtf := by
    decide
  simpa only [CommandKind.mem_all, true_and, forall_const] using htable opcode opcode.mem_all

namespace Frame

variable {frame : Frame}

/-- A frame answers no command if its opcode is unknown, or belongs to a request, or is one of two
notifications. -/
theorem unrelated_iff :
    frame.Unrelated
      ↔ frame.opcode? = none ∨ (∃ kind : CommandKind, kind.descriptor.request? = frame.opcode?)
        ∨ frame.code = 0x020c ∨ frame.code = 0x0211 := by
  have hchanged : frame.opcode? = some .nodeInformationChangedNtf ↔ frame.code = 0x020c :=
    opcode?_eq_some_iff
  have hposition : frame.opcode? = some .nodeStatePositionChangedNtf ↔ frame.code = 0x0211 :=
    opcode?_eq_some_iff
  rw [← hchanged, ← hposition, Unrelated]
  cases hopcode : frame.opcode? with
  | none => simp
  | some opcode => simpa using opcode.unexpected_iff

/-- Of a frame that answers no command listeners are told only if it is the notification of a
position and long enough to carry one. -/
theorem Unrelated.event?_isSome_iff (unrelated : frame.Unrelated) :
    frame.event?.isSome ↔ frame.code = 0x0211 ∧ 4 ≤ frame.payload.length := by
  by_cases hcode : frame.code = 0x0211
  · have hopcode : frame.opcode? = some .nodeStatePositionChangedNtf :=
      opcode?_eq_some_iff.mpr hcode
    rw [event?, hopcode]
    show (Id.run (Opcode.readEventAt frame.payload 4 0 2)).isSome = true ↔ _
    by_cases hlength : frame.payload.length < 4
    · rw [Opcode.readEventAt, if_pos hlength]
      simp [hcode, hlength]
    · rw [Opcode.readEventAt, if_neg hlength]
      simp [hcode, Nat.le_of_not_lt hlength]
  · have hnone : frame.event? = none := by
      rw [event?]
      rcases unrelated_iff.mp unrelated with hopcode | ⟨kind, hkind⟩ | hchanged | hposition
      · rw [hopcode]
        rfl
      · rw [← hkind]
        cases kind <;> rfl
      · have hopcode : frame.opcode? = some .nodeInformationChangedNtf :=
          opcode?_eq_some_iff.mpr hchanged
        rw [hopcode]
        rfl
      · exact absurd hposition hcode
    simp [hnone, hcode]

/-- A frame that answers no command is accepted by none. -/
theorem Unrelated.not_accepts (unrelated : frame.Unrelated) (command : Command) :
    ¬ command.accepts frame := by
  rw [Command.accepts_eq]
  cases hopcode : frame.opcode? with
  | none => exact Bool.false_ne_true
  | some opcode =>
    have hexpects := unrelated opcode hopcode command.kind
    simp [Command.descriptor, hexpects]

end Frame

namespace Processor

/-! ## Two runs side by side -/

/-- Some frames, with others in between that answer no command. -/
inductive Padded : List Frame → List Frame → Prop where
  | nil : Padded [] []
  | same (frame : Frame) {a b : List Frame} (h : Padded a b) : Padded (frame :: a) (frame :: b)
  | extra {frame : Frame} (unrelated : frame.Unrelated) {a b : List Frame} (h : Padded a b) :
    Padded a (frame :: b)

/-- A state apart from what waits on its connection. -/
def State.still (state : State) : State := state.holding []

/-- A moment apart from what waits on the connection. -/
def Moment.still (moment : Moment) : Moment :=
  { moment with before := moment.before.still, after := moment.after.still }

/-- A step in two runs, of which the second gets more frames. -/
inductive Joint where
  /-- A step of both runs. -/
  | both (step : Step)
  /-- A frame arrives in the second run only. -/
  | extra (frame : Frame)
  /-- A turn of the second run only, in which such a frame is taken. -/
  | pass

namespace Joint

def first? : Joint → Option Step
  | both step => some step
  | extra _ => none
  | pass => none

def second : Joint → Step
  | both step => step
  | extra frame => .event (.arrive frame)
  | pass => .turn

def isPass : Joint → Bool
  | pass => true
  | _ => false

/-- What can be laid down for the second run beforehand: when a frame is taken is not among it. -/
def Planned : Joint → Prop
  | both _ => True
  | extra frame => frame.Unrelated
  | pass => False

/-- A step fits two runs that are in these states. In a turn of both runs the same frame is taken,
or none; in a turn of the second run only, a frame that has not arrived in the first. -/
def Fits (first second : State) : Joint → Prop
  | both .turn => second.next? = first.next?
  | both (.event _) => True
  | extra frame => frame.Unrelated
  | pass => ∃ frame, second.next? = some frame ∧ frame.Unrelated
    ∧ Padded first.buffered second.buffered.tail

/-- A moment of the second run, if it belongs to the first as well. -/
def shared? (moment : Moment) : Joint → Option Moment
  | both _ => some moment.still
  | _ => none

/-- What a moment of the second run brings that does not belong to the first. Nothing is done when
a frame arrives. When it is taken, listeners are told about it, unless the login still goes on. -/
def Adds : Joint → Moment → Prop
  | both _, _ => True
  | extra _, moment => moment.effects = [] ∧ moment.after.still = moment.before.still
  | pass, moment => ∃ frame, moment.before.next? = some frame ∧ frame.Unrelated
    ∧ (frame.event?.isSome ↔ frame.code = 0x0211 ∧ 4 ≤ frame.payload.length)
    ∧ moment.effects
      = (if moment.before.mode.activity?.isSome then frame.event?.toList else []).map
        Effect.notify
    ∧ moment.after.still = moment.before.still

end Joint

/-- Joint steps that fit two runs from two states on. -/
def Joined (config : Config) : List Joint → State → State → Prop
  | [], _, _ => True
  | joint :: rest, first, second =>
    joint.Fits first second
      ∧ Joined config rest (run config joint.first?.toList first).1
        (Moment.of config second joint.second).after

/-- The second run does what the first does, and apart from that only what added frames bring. -/
structure Undisturbed (config : Config) (joints : List Joint) (first second : State) : Prop where
  shared : List.filterMap (fun entry => entry.1.shared? entry.2)
      (joints.zip (moments config (joints.map Joint.second) second))
    = (moments config (joints.filterMap Joint.first?) first).map Moment.still
  adds : ∀ entry ∈ joints.zip (moments config (joints.map Joint.second) second),
    entry.1.Adds entry.2
  last : (run config (joints.map Joint.second) second).1.still
    = (run config (joints.filterMap Joint.first?) first).1.still

namespace Padded

variable {a b c d : List Frame} {frame : Frame}

theorem refl (frames : List Frame) : Padded frames frames := by
  induction frames with
  | nil => exact .nil
  | cons frame rest ih => exact .same frame ih

theorem append (first : Padded a b) (second : Padded c d) : Padded (a ++ c) (b ++ d) := by
  induction first with
  | nil => exact second
  | same frame _ ih => exact .same frame ih
  | extra unrelated _ ih => exact .extra unrelated ih

/-- A frame that answers no command can count as one of those in between. -/
theorem of_unrelated (unrelated : frame.Unrelated) (h : Padded (frame :: a) b) : Padded a b := by
  generalize hframes : frame :: a = frames at h
  induction h with
  | nil => cases hframes
  | same _ h =>
    cases hframes
    exact .extra unrelated h
  | extra other _ ih => exact .extra other (ih hframes)

theorem of_cons (h : Padded (frame :: a) (frame :: b)) : Padded a b := by
  cases h with
  | same _ h => exact h
  | extra unrelated h => exact h.of_unrelated unrelated

end Padded

/-! ## States side by side -/

/-- Two states that differ in what waits on the connection only, and there in frames that answer no
command. -/
structure Matches (first second : State) : Prop where
  padded : Padded first.buffered second.buffered
  same : second.still = first.still

section

variable (config : Config) {first second state : State}

theorem matches_refl (state : State) : Matches state state :=
  ⟨.refl _, rfl⟩

theorem Matches.eq_holding (h : Matches first second) : second = first.holding second.buffered := by
  have hstill : second.holding [] = first.holding [] := h.same
  have hsecond := congrArg (State.holding second.buffered) hstill
  rwa [holding_holding, holding_holding, holding_buffered] at hsecond

theorem Matches.eq_of_no_link (h : Matches first second) (link : first.mode.link? = none) :
    second = first := by
  rw [h.eq_holding, holding_of_no_link link]

theorem matches_holding {own all : List Frame} (padded : Padded own all) (state : State) :
    Matches (state.holding own) (state.holding all) := by
  refine ⟨?_, ?_⟩
  · cases hlink : state.mode.link? with
    | none =>
      rw [holding_of_no_link hlink, holding_of_no_link hlink]
      exact .refl _
    | some link =>
      rw [buffered_holding (by rw [hlink]; rfl), buffered_holding (by rw [hlink]; rfl)]
      exact padded
  · rw [State.still, State.still, holding_holding, holding_holding]

/-- The moments of a step from two such states, if it leads to such states by the same effects. -/
theorem Matches.moment_still {step : Step} (h : Matches first second)
    (effects : (Moment.of config second step).effects = (Moment.of config first step).effects)
    (after : Matches (Moment.of config first step).after (Moment.of config second step).after) :
    (Moment.of config second step).still = (Moment.of config first step).still := by
  unfold Moment.still
  rw [effects, after.same]
  show Moment.mk second.still _ _ _ = Moment.mk first.still _ _ _
  rw [h.same]
  rfl

/-! ## Events -/

/-- What happens does not depend on what waits, and adds to it at the end. -/
theorem occur_holding (link : state.mode.link?.isSome) (event : Event) (frames : List Frame) :
    (state.holding frames).occur event
      = ((state.occur event).1.holding (frames ++ event.delivered state),
          (state.occur event).2) := by
  rcases exists_mode_of_link link with ⟨outage, link, login, mode⟩ | ⟨link, refresh, activity, mode⟩
  all_goals
    cases event with
    | submit ticket command =>
      simp only [State.occur, State.submit, State.holding, Mode.mapLink, mode]
      split <;> simp [State.silently, Event.delivered, mode]
    | arrive frame | dry error =>
      -- After the end of the connection nothing arrives, and it ends once.
      cases hended : link.ended? <;>
        simp [State.occur, State.silently, State.holding, Mode.mapLink, Event.delivered,
          Link.holding, Mode.link?, mode, hended]
    | _ =>
      simp [State.occur, State.silently, State.holding, Mode.mapLink, Event.delivered,
        Link.holding, mode]

/-- The same happens in two runs. -/
theorem matches_event (h : Matches first second) (event : Event) :
    Matches (first.occur event).1 (second.occur event).1
      ∧ (second.occur event).2 = (first.occur event).2 := by
  by_cases link : first.mode.link?.isSome
  · have hfirst := occur_holding link event first.buffered
    have hsecond := occur_holding link event second.buffered
    rw [holding_buffered] at hfirst
    rw [← h.eq_holding] at hsecond
    rw [hfirst, hsecond]
    exact ⟨matches_holding (h.padded.append (.refl _)) _, rfl⟩
  · rw [h.eq_of_no_link (Option.not_isSome_iff_eq_none.mp link)]
    exact ⟨matches_refl _, rfl⟩

/-- A frame that answers no command arrives in the second run. -/
theorem matches_extra (h : Matches first second) {frame : Frame} (unrelated : frame.Unrelated) :
    Matches first (second.occur (.arrive frame)).1
      ∧ (second.occur (.arrive frame)).1.still = second.still := by
  have hstill : (second.occur (.arrive frame)).1.still = second.still := by
    by_cases link : second.mode.link?.isSome
    · rcases exists_mode_of_link link with
        ⟨outage, link, login, mode⟩ | ⟨link, refresh, activity, mode⟩
      all_goals
        cases hended : link.ended? <;>
          simp [State.occur, State.silently, State.still, State.holding, Mode.mapLink,
            Link.holding, mode, hended]
    · have hnone := Option.not_isSome_iff_eq_none.mp link
      simp only [State.occur, State.silently, mapLink_of_no_link hnone]
  refine ⟨⟨?_, hstill.trans h.same⟩, hstill⟩
  have hdelivered : Padded [] (Event.delivered second (.arrive frame)) := by
    simp only [Event.delivered]
    split
    · split
      · exact .nil
      · exact .extra unrelated .nil
    · exact .nil
  have hpadded := h.padded.append hdelivered
  rwa [List.append_nil, ← buffered_occur] at hpadded

/-! ## Turns -/

/-- A frame that answers no command is taken, and listeners are told about it after the login. -/
theorem turn_unrelated {frame : Frame} (unrelated : frame.Unrelated)
    (listens : state.mode.listens) (running : ¬ state.terminating) (frames : List Frame) :
    (state.holding (frame :: frames)).turn? config
      = some (state.holding frames,
          (if state.mode.activity?.isSome then frame.event?.toList else []).map
            Effect.notify) := by
  have hnotes (later : State) :
      later.unsolicited frame = (later, frame.event?.toList.map Effect.notify) := by
    unfold State.unsolicited
    cases frame.event? <;> rfl
  cases mode : state.mode with
  | stopped =>
    rw [mode] at listens
    cases listens
  | offline outage stage =>
    rw [mode] at listens
    cases stage with
    | loggingIn link login =>
      -- A frame that the login does not accept leaves it as it is.
      have hpending : Login.receive login.command frame = .pending login.command := by
        rw [Login.receive, if_neg (unrelated.not_accepts _)]
      simp only [holding_of_loggingIn mode, State.turn?, State.turnOffline?, if_neg running,
        Link.holding, hpending]
      rfl
    | _ => cases listens
  | online link refresh activity =>
    rw [mode] at listens
    cases activity with
    | pausing job retries resume => cases listens
    | idle =>
      simp only [holding_of_online mode, State.turn?, State.turnOnline?, State.turnIdle?,
        if_neg running, Link.holding]
      exact congrArg some (hnotes _)
    | running job retries attempt =>
      simp only [holding_of_online mode, State.turn?, State.turnOnline?, Attempt.progress,
        Attempt.take, if_neg running, if_neg (unrelated.not_accepts attempt.command), Link.holding]
      exact congrArg some (hnotes _)
    | checking attempt =>
      simp only [holding_of_online mode, State.turn?, State.turnOnline?, Attempt.progress,
        Attempt.take, if_neg running, if_neg (unrelated.not_accepts attempt.command), Link.holding]
      exact congrArg some (hnotes _)

theorem listens_holding (frames : List Frame) (state : State) :
    (state.holding frames).mode.listens = state.mode.listens := by
  cases mode : state.mode with
  | offline outage stage => cases stage <;> simp [State.holding, Mode.mapLink, Mode.listens, mode]
  | online link refresh activity =>
    cases activity <;> simp [State.holding, Mode.mapLink, Mode.listens, mode]
  | stopped => simp [State.holding, Mode.mapLink, mode]

theorem Matches.next?_eq (h : Matches first second) :
    second.next?
      = if first.mode.listens ∧ ¬ first.terminating then second.buffered.head? else none := by
  have hlistens : second.mode.listens = first.mode.listens := by
    rw [h.eq_holding, listens_holding]
  have hterminating : second.terminating = first.terminating := by
    rw [h.eq_holding]
    rfl
  rw [State.next?, hlistens, hterminating]

/-- A turn of both runs, in which the same frame is taken, or none. -/
theorem matches_turn (h : Matches first second) (fits : second.next? = first.next?) :
    Matches (Moment.of config first .turn).after (Moment.of config second .turn).after
      ∧ (Moment.of config second .turn).effects = (Moment.of config first .turn).effects := by
  have hsame (heq : second = first) :
      Matches (Moment.of config first .turn).after (Moment.of config second .turn).after
        ∧ (Moment.of config second .turn).effects = (Moment.of config first .turn).effects := by
    rw [heq]
    exact ⟨matches_refl _, rfl⟩
  by_cases link : first.mode.link?.isSome
  case neg => exact hsame (h.eq_of_no_link (Option.not_isSome_iff_eq_none.mp link))
  by_cases looks : first.mode.listens ∧ ¬ first.terminating
  · rw [h.next?_eq, State.next?, if_pos looks, if_pos looks] at fits
    have hpadded := h.padded
    cases hown : first.buffered with
    | nil =>
      -- Nothing waits in either run, so that they are in the same state.
      rw [hown] at fits
      have hall : second.buffered = [] := List.head?_eq_none_iff.mp fits
      apply hsame
      rw [h.eq_holding, hall, ← hown, holding_buffered]
    | cons frame own =>
      rw [hown] at fits hpadded
      obtain ⟨all, hall⟩ := List.head?_eq_some_iff.mp fits
      rw [hall] at hpadded
      obtain ⟨reaction, hreaction⟩ := takes_of_listens config looks.1 looks.2 frame
      have hfirst : first.turn? config = some (reaction.holding own) := by
        rw [← hreaction, ← hown, holding_buffered]
      have hsecond : second.turn? config = some (reaction.holding all) := by
        rw [← hreaction, ← hall, ← h.eq_holding]
      rw [moment_of_turn hfirst, moment_of_turn hsecond]
      exact ⟨matches_holding hpadded.of_cons _, rfl⟩
  · obtain ⟨reaction, hreaction⟩ := ignores_of_not_listens config link looks
    have hfirst : Step.turn.take config first = reaction.holding first.buffered := by
      rw [← hreaction, holding_buffered]
    have hsecond : Step.turn.take config second = reaction.holding second.buffered := by
      rw [← hreaction, ← h.eq_holding]
    simp only [Moment.of, hfirst, hsecond]
    exact ⟨matches_holding h.padded _, rfl⟩

/-- A turn of the second run only, in which a frame is taken that has not arrived in the first. -/
theorem matches_pass (h : Matches first second) (fits : Joint.pass.Fits first second) :
    Matches first (Moment.of config second .turn).after
      ∧ Joint.pass.Adds (Moment.of config second .turn)
      ∧ (Moment.of config second .turn).after.buffered = second.buffered.tail := by
  obtain ⟨frame, hnext, unrelated, hpadded⟩ := fits
  have htaken := hnext
  rw [State.next?] at htaken
  split at htaken
  case isFalse => cases htaken
  rename_i looks
  obtain ⟨rest, hbuffered⟩ := List.head?_eq_some_iff.mp htaken
  rw [hbuffered] at hpadded
  have hturn := turn_unrelated config unrelated looks.1 looks.2 rest
  rw [← hbuffered, holding_buffered] at hturn
  have hstill : (second.holding rest).still = second.still := holding_holding ..
  have hrest : (second.holding rest).buffered = rest :=
    buffered_holding (link_of_listens looks.1)
  rw [moment_of_turn hturn, hbuffered]
  refine ⟨⟨?_, hstill.trans h.same⟩,
    ⟨frame, hnext, unrelated, unrelated.event?_isSome_iff, rfl, hstill⟩, hrest⟩
  show Padded first.buffered (second.holding rest).buffered
  rw [hrest]
  exact hpadded

/-- Where the runs do not take the same, the second takes a frame that the first does not have. -/
theorem fits_pass (h : Matches first second) (differ : second.next? ≠ first.next?) :
    Joint.pass.Fits first second ∧ second.buffered ≠ [] := by
  have hpadded := h.padded
  rw [h.next?_eq, State.next?] at differ
  split at differ
  case isFalse => exact absurd rfl differ
  rename_i looks
  generalize hown : first.buffered = own at hpadded differ
  generalize hall : second.buffered = all at hpadded differ
  cases hpadded with
  | nil => exact absurd rfl differ
  | same frame _ => exact absurd rfl differ
  | @extra frame unrelated _ rest padded =>
    refine ⟨⟨frame, ?_, unrelated, ?_⟩, List.cons_ne_nil frame rest⟩
    · rw [h.next?_eq, if_pos looks, hall]
      rfl
    · rw [hown, hall]
      exact padded

/-! ## Runs -/

/-- Two runs by joint steps that fit them, from two such states on. -/
theorem undisturbed_of_joined {joints : List Joint} (h : Matches first second)
    (joined : Joined config joints first second) : Undisturbed config joints first second := by
  induction joints generalizing first second with
  | nil => exact ⟨rfl, List.forall_mem_nil _, h.same⟩
  | cons joint rest ih =>
    obtain ⟨fits, joined⟩ := joined
    cases joint with
    | both step =>
      have both : Matches (Moment.of config first step).after (Moment.of config second step).after
          ∧ (Moment.of config second step).effects = (Moment.of config first step).effects := by
        cases step with
        | event event => exact matches_event h event
        | turn => exact matches_turn config h fits
      obtain ⟨shared, adds, last⟩ := ih both.1 joined
      refine ⟨?_, List.forall_mem_cons.mpr ⟨trivial, adds⟩, last⟩
      exact congrArg₂ List.cons (h.moment_still config both.2 both.1) shared
    | extra frame =>
      obtain ⟨later, still⟩ := matches_extra h fits
      obtain ⟨shared, adds, last⟩ := ih later joined
      exact ⟨shared, List.forall_mem_cons.mpr ⟨⟨rfl, still⟩, adds⟩, last⟩
    | pass =>
      obtain ⟨later, added, -⟩ := matches_pass config h fits
      obtain ⟨shared, adds, last⟩ := ih later joined
      exact ⟨shared, List.forall_mem_cons.mpr ⟨added, adds⟩, last⟩

/-- The frames that come first and have not arrived in the first run can be taken one by one, until
both runs take the same. -/
theorem exists_passes (h : Matches first second) :
    ∃ passes later, (∀ joint ∈ passes, joint.isPass) ∧ Matches first later
      ∧ later.next? = first.next?
      ∧ ∀ rest, Joined config rest first later → Joined config (passes ++ rest) first second := by
  -- By induction on how many frames wait in the second run: a pass takes one of them.
  induction hlength : second.buffered.length using Nat.strongRecOn generalizing second with
  | ind n ih =>
    by_cases same : second.next? = first.next?
    · exact ⟨[], second, List.forall_mem_nil _, h, same, fun rest joined => joined⟩
    · obtain ⟨fits, waits⟩ := fits_pass h same
      obtain ⟨hafter, -, htail⟩ := matches_pass config h fits
      have shorter : (Moment.of config second .turn).after.buffered.length < n := by
        have hpos := List.length_pos_iff.mpr waits
        rw [htail, List.length_tail]
        omega
      obtain ⟨passes, later, hpasses, hlater, hnext, hjoined⟩ := ih _ shorter hafter rfl
      refine ⟨.pass :: passes, later, List.forall_mem_cons.mpr ⟨rfl, hpasses⟩, hlater, hnext, ?_⟩
      intro rest joined
      exact ⟨fits, hjoined rest joined⟩

/-- Whatever is planned, there is a second run. -/
theorem exists_joined {plan : List Joint} (planned : ∀ joint ∈ plan, joint.Planned)
    (h : Matches first second) :
    ∃ joints, joints.filter (!·.isPass) = plan ∧ Joined config joints first second := by
  induction plan generalizing first second with
  | nil => exact ⟨[], rfl, trivial⟩
  | cons joint rest ih =>
    rw [List.forall_mem_cons] at planned
    obtain ⟨hjoint, hrest⟩ := planned
    cases joint with
    | pass => exact hjoint.elim
    | extra frame =>
      obtain ⟨joints, hjoints, joined⟩ := ih hrest (matches_extra h hjoint).1
      exact ⟨.extra frame :: joints, congrArg (Joint.extra frame :: ·) hjoints, hjoint, joined⟩
    | both step =>
      cases step with
      | event event =>
        obtain ⟨joints, hjoints, joined⟩ := ih hrest (matches_event h event).1
        exact ⟨.both (.event event) :: joints, congrArg (Joint.both (.event event) :: ·) hjoints,
          trivial, joined⟩
      | turn =>
        -- First the second run has to come to the frame that the first takes.
        obtain ⟨passes, later, hpasses, hlater, hnext, hjoined⟩ := exists_passes config h
        obtain ⟨joints, hjoints, joined⟩ := ih hrest (matches_turn config hlater hnext).1
        refine ⟨passes ++ .both .turn :: joints, ?_, hjoined _ ⟨hnext, joined⟩⟩
        have hnone : passes.filter (!·.isPass) = [] := by
          refine List.filter_eq_nil_iff.mpr ?_
          intro joint member
          simp [hpasses joint member]
        rw [List.filter_append, hnone, List.nil_append]
        exact congrArg (Joint.both .turn :: ·) hjoints

end

/-- **Frames that answer no command disturb nothing.** Take any run of a processor from any state
on, and let frames that answer no command arrive in addition, at any moments. Then there is a run in
which they do, and in every such run:

* The moments that belong to the first run are the same in both, apart from what waits on the
  connection. So the same is done at the same times: the same frames are handed over, the same
  commands come back, the same connection states are published, and the same is known.
* In the other moments nothing is done but to tell the listeners, after the login, about the added
  frames that are taken, are notifications of a position, and have four bytes at least.
* In the end both runs have come to the same state, apart from what waits on the connection. -/
theorem unrelated_frames_disturb_nothing (config : Config) (state : State) (plan : List Joint)
    (planned : ∀ joint ∈ plan, joint.Planned) :
    (∃ joints, joints.filter (!·.isPass) = plan ∧ Joined config joints state state)
      ∧ ∀ joints, joints.filter (!·.isPass) = plan → Joined config joints state state →
        Undisturbed config joints state state := by
  refine ⟨exists_joined config planned (matches_refl state), ?_⟩
  intro joints _ joined
  exact undisturbed_of_joined config (matches_refl state) joined

/-- After the login two frames are added, while the gateway is asked for its version: a position and
a frame with an unknown opcode. -/
theorem unrelated_frames_disturb_nothing_during_refresh :
    let config : Config := { hostname := "gateway", password := "secret" }
    let state := reached config 0 loginSteps
    let position : Frame := ⟨0x0211, [3, 5, 100, 0]⟩
    let unknown : Frame := ⟨0x1234, []⟩
    let plan : List Joint :=
      [.extra position, .both (.event (.arrive versionAnswer)), .extra unknown, .both .turn]
    let joints : List Joint :=
      [.extra position, .pass, .both (.event (.arrive versionAnswer)), .extra unknown,
        .both .turn]
    (∀ joint ∈ plan, joint.Planned) ∧ joints.filter (!·.isPass) = plan
      ∧ Joined config joints state state ∧ Undisturbed config joints state state
      ∧ (moments config (joints.map Joint.second) state).map Moment.effects
        = [[], [.notify ⟨3, ⟨25600⟩⟩], [], [], [.send ⟨0x000a, []⟩]] := by
  intro config state position unknown plan joints
  have hposition : position.Unrelated := Frame.unrelated_iff.mpr (.inr (.inr (.inr rfl)))
  have hunknown : unknown.Unrelated := Frame.unrelated_iff.mpr (.inl rfl)
  have planned : ∀ joint ∈ plan, joint.Planned := by
    simp [plan, Joint.Planned, hposition, hunknown]
  have hpadded : Padded state.buffered (state.occur (.arrive position)).1.buffered.tail := by
    have hfirst : state.buffered = [] := by decide
    have hsecond : (state.occur (.arrive position)).1.buffered.tail = [] := by decide
    rw [hfirst, hsecond]
    exact .nil
  have joined : Joined config joints state state :=
    ⟨hposition, ⟨position, by decide, hposition, hpadded⟩, trivial, hunknown,
      show State.next? _ = State.next? _ by decide, trivial⟩
  have disturbs := unrelated_frames_disturb_nothing config state plan planned
  exact ⟨planned, rfl, joined, disturbs.2 joints rfl joined, by decide⟩

end Processor

end ShutterGateway
