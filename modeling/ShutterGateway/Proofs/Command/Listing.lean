import ShutterGateway.Proofs.Command.Answering
import ShutterGateway.Proofs.Command.ScenePage

/-!
Listings, the commands for all scenes and for all nodes. Their answers arrive in parts, each with
some entries of the list. A part adds all of its entries or none: one that cannot be read fails the
command and leaves what was listed before. So the list is what the parts up to the end of the
exchange bring, one behind the other, and a list that is sent in parts arrives as it was sent.
-/

namespace ShutterGateway

/-! ## What each answer brings -/

namespace Opcode

/-- How an answer ends the exchange of a command for all scenes, unless the exchange goes on. -/
def sceneEndOf? : Opcode → Bytes → Option Status
  -- the number of scenes
  | getSceneListCfm, count :: _ => if count = 0 then some .complete else none
  | getSceneListCfm, cut => some (getSceneListCfm.cutStatus cut 1)
  | getSceneListNtf, payload =>
    match Scene.page? payload with
    | some (_, remaining) => if remaining = 0 then some .complete else none
    | none => some (getSceneListNtf.cutStatus payload (Scene.pageSize payload))
  | errorNtf, payload => some (Rejection.gateway (.ofCode (payload.head?.getD 0))).status
  | _, _ => none

/-- How an answer ends the exchange of a command for all nodes, unless the exchange goes on. -/
def nodeEndOf? : Opcode → Bytes → Option Status
  -- a status and the number of nodes
  | getAllNodesInformationCfm, status :: announced :: _ =>
    if status ≠ 0 ∨ announced = 0 then some .complete else none
  | getAllNodesInformationCfm, cut => some (getAllNodesInformationCfm.cutStatus cut 2)
  | getAllNodesInformationNtf, payload =>
    match Node.parse? payload with
    | some _ => none
    | none => some (.failed (.protocol (.shortNode payload.length)))
  | getAllNodesInformationFinishedNtf, _ => some .complete
  | errorNtf, payload => some (Rejection.gateway (.ofCode (payload.head?.getD 0))).status
  | _, _ => none

theorem sceneEndOf?_ne_pending {opcode : Opcode} {payload : Bytes} {status : Status}
    (h : opcode.sceneEndOf? payload = some status) : status ≠ .pending := by
  rintro rfl
  revert h
  fun_cases sceneEndOf? opcode payload <;> simp [Rejection.status, cutStatus]

theorem nodeEndOf?_ne_pending {opcode : Opcode} {payload : Bytes} {status : Status}
    (h : opcode.nodeEndOf? payload = some status) : status ≠ .pending := by
  rintro rfl
  revert h
  fun_cases nodeEndOf? opcode payload <;> simp [Rejection.status, cutStatus]

/-- How many nodes a confirmation announces. -/
def announcedOf? : Opcode → Bytes → Option UInt8
  | getAllNodesInformationCfm, _ :: announced :: _ => some announced
  | _, _ => none

end Opcode

/-- A command for a list, and how its answers are to be read. -/
structure Listing (α : Type) where
  request : Request
  /-- The opcode of the notifications that bring the parts of the list. -/
  notification : Opcode
  /-- The entries in a notification, unless it is malformed. -/
  entries? : Bytes → Option (List α)
  /-- How an answer ends the exchange, unless the exchange goes on. -/
  endOf? : Opcode → Bytes → Option Status
  /-- The list as far as it has been found. -/
  found : Findings → List α

namespace Listing

/-- The listing of all scenes. -/
def scenes : Listing Scene where
  request := .getAllScenes
  notification := .getSceneListNtf
  entries? payload := (Scene.page? payload).map (·.1)
  endOf? := Opcode.sceneEndOf?
  found := Findings.scenes

/-- The listing of all nodes. -/
def nodes : Listing Node where
  request := .getAllNodes
  notification := .getAllNodesInformationNtf
  entries? payload := (Node.parse? payload).map ([·])
  endOf? := Opcode.nodeEndOf?
  found := Findings.nodes

variable {α : Type}

/-- The entries that an answer brings. -/
def entries (listing : Listing α) (frame : Frame) : List α :=
  if frame.opcode? = some listing.notification then (listing.entries? frame.payload).getD [] else []

/-- How an answer ends the exchange, unless the exchange goes on. -/
def end? (listing : Listing α) (frame : Frame) : Option Status :=
  frame.opcode?.bind (listing.endOf? · frame.payload)

/-- A notification that cannot be read. -/
def Malformed (listing : Listing α) (frame : Frame) : Prop :=
  frame.opcode? = some listing.notification ∧ listing.entries? frame.payload = none

/-- The command for the list. -/
def command (listing : Listing α) : Command where
  request := listing.request

/-- What a command for a list has come to after some answers. Either the exchange still goes on, or
one of the answers is the first that ends it. The list is what the answers bring, up to and with
that one. A notification that is malformed can only be the one that ends the exchange. -/
inductive Collected (listing : Listing α) (frames : List Frame) (outcome : Command) : Prop where
  | pending (going : ∀ frame ∈ frames, listing.end? frame = none ∧ ¬ listing.Malformed frame)
      (status : outcome.status = .pending)
      (list : listing.found outcome.findings = frames.flatMap listing.entries)
  | ended {before : List Frame} {last : Frame} {later : List Frame}
      (split : frames = before ++ last :: later)
      (going : ∀ frame ∈ before, listing.end? frame = none ∧ ¬ listing.Malformed frame)
      (status : listing.end? last = some outcome.status)
      (list : listing.found outcome.findings = (before ++ [last]).flatMap listing.entries)
      (malformed : listing.Malformed last →
        listing.found outcome.findings = before.flatMap listing.entries
          ∧ ∃ fault, outcome.status = .failed (.protocol fault))

theorem entries_of_malformed {listing : Listing α} {frame : Frame}
    (h : listing.Malformed frame) : listing.entries frame = [] := by
  rw [entries, if_pos h.1, h.2, Option.getD_none]

theorem entries_of_opcode {listing : Listing α} {frame : Frame}
    (h : frame.opcode? = some listing.notification) :
    listing.entries frame = (listing.entries? frame.payload).getD [] :=
  if_pos h

theorem entries_of_ne {listing : Listing α} {frame : Frame} {opcode : Opcode}
    (hopcode : frame.opcode? = some opcode) (h : opcode ≠ listing.notification) :
    listing.entries frame = [] := by
  rw [entries, hopcode, if_neg fun heq => h (Option.some.inj heq)]

theorem end?_of_opcode {listing : Listing α} {frame : Frame} {opcode : Opcode}
    (hopcode : frame.opcode? = some opcode) :
    listing.end? frame = listing.endOf? opcode frame.payload := by
  rw [end?, hopcode, Option.bind_some]

theorem malformed_scenes_iff {frame : Frame} :
    scenes.Malformed frame ↔ frame.opcode? = some .getSceneListNtf
      ∧ frame.payload.length < Scene.pageSize frame.payload := by
  refine and_congr_right fun _ => ?_
  simp only [scenes, Option.map_eq_none_iff]
  exact Scene.page?_eq_none_iff

theorem malformed_nodes_iff {frame : Frame} :
    nodes.Malformed frame ↔ frame.opcode? = some .getAllNodesInformationNtf
      ∧ frame.payload.length < Node.payloadSize := by
  refine and_congr_right fun _ => ?_
  simp only [nodes, Option.map_eq_none_iff]
  exact Node.parse?_eq_none_iff

end Listing

/-! ## The accounts of the two listings -/

/-- An account says of every answer what it brings to a listing. -/
structure Account.Lists {α : Type} (account : Account) (listing : Listing α) : Prop where
  describes : account.Describes listing.request
  add : ∀ frame findings,
    listing.found (account.add frame findings) = listing.found findings ++ listing.entries frame
  decision : ∀ frame, account.decision? frame = listing.end? frame
  empty : listing.found {} = []
  malformed : ∀ ⦃frame⦄, listing.Malformed frame →
    ∃ fault, listing.end? frame = some (.failed (.protocol fault))

namespace Account

/-- The account of a command for all scenes. -/
def sceneListing : Account where
  add frame findings := { findings with scenes := findings.scenes ++ Listing.scenes.entries frame }
  decision? := Listing.scenes.end?
  decision_ne_pending := by
    intro frame status h
    obtain ⟨opcode, -, hend⟩ := Option.bind_eq_some_iff.mp h
    exact Opcode.sceneEndOf?_ne_pending hend

/-- The account of a command for all nodes. -/
def nodeListing : Account where
  add frame findings := { findings with
    announced := (frame.opcode?.bind (·.announcedOf? frame.payload)).getD findings.announced
    nodes := findings.nodes ++ Listing.nodes.entries frame }
  decision? := Listing.nodes.end?
  decision_ne_pending := by
    intro frame status h
    obtain ⟨opcode, -, hend⟩ := Option.bind_eq_some_iff.mp h
    exact Opcode.nodeEndOf?_ne_pending hend

section

variable {frame : Frame} {opcode : Opcode} {findings : Findings} {read : Findings × Verdict}

theorem sceneListing_add_of_ne (hopcode : frame.opcode? = some opcode)
    (other : opcode ≠ .getSceneListNtf) : sceneListing.add frame findings = findings := by
  have hnone : Listing.scenes.entries frame = [] := Listing.entries_of_ne hopcode other
  simp only [sceneListing, hnone, List.append_nil]

theorem sceneListing_reads (hopcode : frame.opcode? = some opcode)
    (found : read.1 = sceneListing.add frame findings)
    (status : read.2.status = (opcode.sceneEndOf? frame.payload).getD .pending) :
    sceneListing.Reads frame findings read where
  found := found
  status := by
    rw [status]
    simp only [sceneListing, Listing.end?_of_opcode hopcode]
    rfl

end

theorem sceneListing_describes : sceneListing.Describes .getAllScenes := by
  refine .of_readAnswer ?_ ?_
  · intro frame hopcode
    exact ⟨fun _ => sceneListing_add_of_ne hopcode (by decide), Listing.end?_of_opcode hopcode⟩
  · intro frame opcode hopcode member findings
    simp only [Request.kind, CommandKind.descriptor, List.mem_singleton] at member
    rcases member with rfl | rfl
    · refine sceneListing_reads hopcode ?_ ?_
      · rw [sceneListing_add_of_ne hopcode (by decide)]
        cases frame.payload <;> rfl
      · cases frame.payload with
        | nil => rfl
        | cons count rest =>
          show (if count = 0 then Verdict.done else .more).status
            = Option.getD (if _ then _ else _) _
          split <;> rfl
    · have hread : Id.run (Request.getAllScenes.readAnswer .getSceneListNtf frame.payload findings)
          = Id.run (findings.readSceneList .getSceneListNtf frame.payload) := rfl
      rw [hread, Scene.run_readSceneList]
      refine sceneListing_reads hopcode ?_ ?_
      · simp only [sceneListing, Listing.entries, hopcode, if_pos, Listing.scenes]
        cases Scene.page? frame.payload <;> simp
      · simp only [Opcode.sceneEndOf?]
        cases Scene.page? frame.payload with
        | none => rfl
        | some page =>
          show (if page.2 = 0 then Verdict.done else .more).status
            = Option.getD (if _ then _ else _) _
          split <;> rfl

theorem sceneListing_lists : sceneListing.Lists Listing.scenes where
  describes := sceneListing_describes
  add _ _ := rfl
  decision _ := rfl
  empty := rfl
  malformed := by
    intro frame ⟨hopcode, hnone⟩
    have hpage : Scene.page? frame.payload = none := Option.map_eq_none_iff.mp hnone
    rw [Listing.end?_of_opcode hopcode]
    simp only [Listing.scenes, Opcode.sceneEndOf?, hpage]
    exact ⟨_, rfl⟩

/-! ### Nodes -/

section

variable {frame : Frame} {opcode : Opcode} {findings : Findings} {read : Findings × Verdict}

theorem nodeListing_add (hopcode : frame.opcode? = some opcode)
    (other : opcode ≠ .getAllNodesInformationNtf) :
    nodeListing.add frame findings = { findings with
      announced := (opcode.announcedOf? frame.payload).getD findings.announced } := by
  have hnone : Listing.nodes.entries frame = [] := Listing.entries_of_ne hopcode other
  simp only [nodeListing, hnone, List.append_nil, hopcode, Option.bind_some]

theorem nodeListing_reads (hopcode : frame.opcode? = some opcode)
    (found : read.1 = nodeListing.add frame findings)
    (status : read.2.status = (opcode.nodeEndOf? frame.payload).getD .pending) :
    nodeListing.Reads frame findings read where
  found := found
  status := by
    rw [status]
    simp only [nodeListing, Listing.end?_of_opcode hopcode]
    rfl

end

theorem nodeListing_describes : nodeListing.Describes .getAllNodes := by
  refine .of_readAnswer ?_ ?_
  · intro frame hopcode
    refine ⟨fun findings => ?_, Listing.end?_of_opcode hopcode⟩
    rw [nodeListing_add hopcode (by decide)]
    rfl
  · intro frame opcode hopcode member findings
    simp only [Request.kind, CommandKind.descriptor, List.mem_cons, List.not_mem_nil, or_false]
      at member
    rcases member with rfl | rfl | rfl
    · refine nodeListing_reads hopcode ?_ ?_
      · rw [nodeListing_add hopcode (by decide)]
        rcases frame.payload with _ | ⟨status, _ | ⟨announced, rest⟩⟩ <;> rfl
      · rcases frame.payload with _ | ⟨status, _ | ⟨announced, rest⟩⟩
        · rfl
        · rfl
        · show (if status ≠ 0 ∨ announced = 0 then Verdict.done else .more).status
            = Option.getD (if _ then _ else _) _
          split <;> rfl
    · rw [Request.readAnswer_getAllNodes]
      refine nodeListing_reads hopcode ?_ ?_
      · simp only [nodeListing, Listing.entries, hopcode, Listing.nodes, if_pos, Node.parse?]
        cases Id.run (Node.read frame.payload) with
        | none => simp [Opcode.announcedOf?]
        | some node => rfl
      · simp only [Opcode.nodeEndOf?, Node.parse?]
        cases Id.run (Node.read frame.payload) <;> rfl
    · refine nodeListing_reads hopcode ?_ rfl
      rw [nodeListing_add hopcode (by decide)]
      rfl

theorem nodeListing_lists : nodeListing.Lists Listing.nodes where
  describes := nodeListing_describes
  add _ _ := rfl
  decision _ := rfl
  empty := rfl
  malformed := by
    intro frame ⟨hopcode, hnone⟩
    have hparse : Node.parse? frame.payload = none := Option.map_eq_none_iff.mp hnone
    rw [Listing.end?_of_opcode hopcode]
    simp only [Listing.nodes, Opcode.nodeEndOf?, hparse]
    exact ⟨_, rfl⟩

/-! ## Any number of answers -/

variable {α : Type} {account : Account} {listing : Listing α}

theorem Lists.found_addAll (lists : account.Lists listing) (frames : List Frame)
    (findings : Findings) : listing.found (account.addAll frames findings)
      = listing.found findings ++ frames.flatMap listing.entries := by
  induction frames generalizing findings with
  | nil => simp [addAll]
  | cons frame rest ih =>
    rw [addAll, List.foldl_cons, ← addAll, ih, lists.add, List.flatMap_cons, List.append_assoc]

/-- The first answer that ends the exchange decides the command, and nothing of what came before it
or with it is lost. -/
theorem Lists.respondAll_of_end (lists : account.Lists listing) {before later : List Frame}
    {last : Frame} {status : Status}
    (expected : ∀ frame ∈ before ++ [last], listing.command.Expects frame)
    (going : ∀ frame ∈ before, listing.end? frame = none)
    (ends : listing.end? last = some status) :
    (listing.command.respondAll (before ++ last :: later)).status = status
      ∧ listing.found (listing.command.respondAll (before ++ last :: later)).findings
        = (before ++ [last]).flatMap listing.entries := by
  have hafter : listing.command.respondAll (before ++ last :: later) = { listing.command with
      findings := account.add last (account.addAll before {})
      status := status } :=
    lists.describes.respondAll_of_some rfl rfl expected
      (fun frame hframe => (lists.decision frame).trans (going frame hframe))
      ((lists.decision last).trans ends)
  rw [hafter]
  refine ⟨rfl, ?_⟩
  rw [lists.add, lists.found_addAll, List.flatMap_append, List.flatMap_singleton]
  exact congrArg (· ++ _ ++ _) lists.empty

/-- A listing with an account comes to what the account says. -/
theorem Lists.collected (lists : account.Lists listing) {frames : List Frame}
    (expected : ∀ frame ∈ frames, listing.command.Expects frame) :
    listing.Collected frames (listing.command.respondAll frames) := by
  have hgoing : ∀ {answers : List Frame}, (∀ frame ∈ answers, listing.end? frame = none) →
      ∀ frame ∈ answers, listing.end? frame = none ∧ ¬ listing.Malformed frame := by
    intro answers going frame hframe
    refine ⟨going frame hframe, fun hmalformed => ?_⟩
    obtain ⟨fault, hfailed⟩ := lists.malformed hmalformed
    cases (going frame hframe).symm.trans hfailed
  cases hfirst : frames.findSome? listing.end? with
  | none =>
    have going := List.findSome?_eq_none_iff.mp hfirst
    have hafter := lists.describes.respondAll_of_none rfl rfl expected
      fun frame hframe => (lists.decision frame).trans (going frame hframe)
    refine .pending (hgoing going) (by rw [hafter]; rfl) ?_
    rw [hafter, lists.found_addAll]
    exact (congrArg (· ++ _) lists.empty).trans (List.nil_append _)
  | some status =>
    obtain ⟨before, last, later, rfl, ends, going⟩ := List.findSome?_eq_some_iff.mp hfirst
    have hexpected : ∀ frame ∈ before ++ [last], listing.command.Expects frame := by
      simp only [List.forall_mem_append, List.forall_mem_cons] at expected ⊢
      exact ⟨expected.1, expected.2.1, nofun⟩
    obtain ⟨hstatus, hlist⟩ :
        (listing.command.respondAll (before ++ last :: later)).status = status ∧ _ :=
      lists.respondAll_of_end hexpected going ends
    refine .ended rfl (hgoing going) (ends.trans (congrArg some hstatus.symm)) hlist ?_
    intro hmalformed
    obtain ⟨fault, hfailed⟩ := lists.malformed hmalformed
    refine ⟨?_, fault, hstatus.trans (Option.some.inj (ends.symm.trans hfailed))⟩
    rw [hlist, List.flatMap_append, List.flatMap_singleton,
      Listing.entries_of_malformed hmalformed, List.append_nil]

end Account

namespace Listing

/-- The notification of a part of the list of scenes. -/
def part (scenes : List Scene) (remaining : UInt8) : Frame :=
  ⟨Opcode.getSceneListNtf.code, Scene.page scenes remaining⟩

theorem opcode?_part (list : List Scene) (remaining : UInt8) :
    (part list remaining).opcode? = some .getSceneListNtf :=
  Frame.opcode?_eq_some_iff.mpr rfl

/-- A part of the list that can be sent brings its scenes, and ends the exchange exactly if no more
are to come. -/
theorem entries_part {list : List Scene} (few : list.length ≤ 255)
    (keeps : ∀ scene ∈ list, NameField.Keeps scene.name) (remaining : UInt8) :
    scenes.entries (part list remaining) = list
      ∧ scenes.end? (part list remaining) = if remaining = 0 then some .complete else none := by
  have hpage : Scene.page? (part list remaining).payload = some (list, remaining) := by
    have hread := Scene.page?_page few keeps remaining []
    rwa [List.append_nil] at hread
  constructor
  · rw [entries_of_opcode (opcode?_part list remaining)]
    simp only [scenes, hpage, Option.map_some, Option.getD_some]
  · rw [end?_of_opcode (opcode?_part list remaining)]
    simp only [scenes, Opcode.sceneEndOf?, hpage]

/-- The answers that send a list of scenes: a confirmation, parts after which more scenes are to
come, and a last part. -/
def answers (confirmation : Bytes) (parts : List (List Scene × UInt8)) (last : List Scene) :
    List Frame :=
  ⟨Opcode.getSceneListCfm.code, confirmation⟩
    :: parts.map (fun entry => part entry.1 entry.2) ++ [part last 0]

/-- A list of scenes is sent in parts that a notification has room for. -/
structure Sent (list : List Scene) (parts : List (List Scene × UInt8)) (last : List Scene) :
    Prop where
  whole : parts.flatMap (·.1) ++ last = list
  keeps : ∀ scene ∈ list, NameField.Keeps scene.name
  few : ∀ entry ∈ parts, entry.1.length ≤ 255 ∧ entry.2 ≠ 0
  fewLast : last.length ≤ 255

variable {list last : List Scene} {confirmation : Bytes} {parts : List (List Scene × UInt8)}

theorem expects_answers :
    ∀ frame ∈ answers confirmation parts last, scenes.command.Expects frame := by
  have hpart : ∀ list remaining, scenes.command.Expects (part list remaining) :=
    fun list remaining => ⟨_, opcode?_part list remaining, rfl⟩
  have hconfirmation : scenes.command.Expects ⟨Opcode.getSceneListCfm.code, confirmation⟩ :=
    ⟨_, Frame.opcode?_eq_some_iff.mpr rfl, rfl⟩
  simp only [answers, List.cons_append, List.forall_mem_cons, List.forall_mem_append,
    List.forall_mem_map, List.not_mem_nil, false_implies, implies_true, and_true]
  exact ⟨hconfirmation, fun _ _ => hpart _ _, hpart _ _⟩

theorem Sent.keepsPart (sent : Sent list parts last) {entry : List Scene × UInt8}
    (member : entry ∈ parts) : ∀ scene ∈ entry.1, NameField.Keeps scene.name := by
  intro scene hscene
  refine sent.keeps scene ?_
  rw [← sent.whole]
  exact List.mem_append_left _ (List.mem_flatMap.mpr ⟨entry, member, hscene⟩)

theorem Sent.keepsLast (sent : Sent list parts last) :
    ∀ scene ∈ last, NameField.Keeps scene.name := by
  intro scene hscene
  refine sent.keeps scene ?_
  rw [← sent.whole]
  exact List.mem_append_right _ hscene

/-- The answers that send a list bring the list. -/
theorem Sent.entries_answers (sent : Sent list parts last) :
    (answers confirmation parts last).flatMap scenes.entries = list := by
  have hconfirmation : scenes.entries ⟨Opcode.getSceneListCfm.code, confirmation⟩ = [] :=
    entries_of_ne (Frame.opcode?_eq_some_iff.mpr rfl) (by decide)
  have hparts : (parts.map fun entry => part entry.1 entry.2).flatMap scenes.entries
      = parts.flatMap (·.1) := by
    rw [List.flatMap_map, List.flatMap_def, List.flatMap_def]
    refine congrArg List.flatten (List.map_congr_left fun entry member => ?_)
    exact (entries_part (sent.few entry member).1 (sent.keepsPart member) _).1
  rw [answers, List.flatMap_append, List.flatMap_cons, List.flatMap_singleton, hconfirmation,
    hparts, (entries_part sent.fewLast sent.keepsLast 0).1, List.nil_append, sent.whole]

/-- A list of scenes that is sent in parts arrives as it was sent. -/
theorem Sent.arrives (sent : Sent list parts last) {count : UInt8} (announced : count ≠ 0)
    (rest : Bytes) :
    (scenes.command.respondAll (answers (count :: rest) parts last)).status = .complete
      ∧ (scenes.command.respondAll (answers (count :: rest) parts last)).findings.scenes
        = list := by
  have hconfirmation : scenes.end? ⟨Opcode.getSceneListCfm.code, count :: rest⟩ = none := by
    rw [end?_of_opcode (Frame.opcode?_eq_some_iff.mpr rfl)]
    exact if_neg announced
  have hparts : ∀ frame ∈ parts.map (fun entry => part entry.1 entry.2),
      scenes.end? frame = none := by
    intro frame hframe
    obtain ⟨entry, member, rfl⟩ := List.mem_map.mp hframe
    rw [(entries_part (sent.few entry member).1 (sent.keepsPart member) _).2,
      if_neg (sent.few entry member).2]
  obtain ⟨hstatus, hfound⟩ := Account.sceneListing_lists.respondAll_of_end
    (expects_answers) (List.forall_mem_cons.mpr ⟨hconfirmation, hparts⟩)
    (entries_part sent.fewLast sent.keepsLast 0).2
  exact ⟨hstatus, hfound.trans sent.entries_answers⟩

/-- **Listings lose nothing and duplicate nothing.** A command for all scenes or for all nodes is
given any answers that the table of exchanges has for it. What it has listed then are the entries of
the notifications up to the answer that ends the exchange and with it, one behind the other in the
order in which they came. A notification is malformed exactly if it is shorter than its layout; it
adds nothing, and the command fails with what was listed before.

A list of scenes with names that their fields keep is sent as a confirmation of some scenes and any
number of notifications of at most 255 scenes each, the last of which says that no more are to come
and the others that there are. Then the command is complete and has listed exactly these scenes. -/
theorem listings_lose_nothing :
    (∀ frames : List Frame, (∀ frame ∈ frames, scenes.command.Expects frame) →
      scenes.Collected frames (scenes.command.respondAll frames))
    ∧ (∀ frames : List Frame, (∀ frame ∈ frames, nodes.command.Expects frame) →
      nodes.Collected frames (nodes.command.respondAll frames))
    ∧ (∀ frame : Frame, (scenes.Malformed frame ↔ frame.opcode? = some .getSceneListNtf
        ∧ frame.payload.length < Scene.pageSize frame.payload)
      ∧ (nodes.Malformed frame ↔ frame.opcode? = some .getAllNodesInformationNtf
        ∧ frame.payload.length < Node.payloadSize))
    ∧ ∀ (list last : List Scene) (parts : List (List Scene × UInt8)) (count : UInt8)
      (rest : Bytes), Sent list parts last → count ≠ 0 →
      let frames := answers (count :: rest) parts last
      (∀ frame ∈ frames, scenes.command.Expects frame)
        ∧ (scenes.command.respondAll frames).status = .complete
        ∧ (scenes.command.respondAll frames).findings.scenes = list := by
  refine ⟨?_, ?_, ?_, ?_⟩
  · exact fun _ expected => Account.sceneListing_lists.collected expected
  · exact fun _ expected => Account.nodeListing_lists.collected expected
  · exact fun frame => ⟨malformed_scenes_iff, malformed_nodes_iff⟩
  · intro list last parts count rest sent announced frames
    exact ⟨expects_answers, sent.arrives announced rest⟩

/-- Two scenes are sent one by one, of which one has letters that take two bytes, and arrive. -/
theorem listings_lose_nothing_of_two :
    let first : Scene := ⟨0, "Morning"⟩
    let second : Scene := ⟨7, "Été"⟩
    let frames := answers [2] [([first], 1)] [second]
    Sent [first, second] [([first], 1)] [second]
      ∧ frames.map (·.payload.length) = [1, 67, 67]
      ∧ (scenes.command.respondAll frames).status = .complete
      ∧ (scenes.command.respondAll frames).findings.scenes = [first, second] := by
  intro first second frames
  have sent : Sent [first, second] [([first], 1)] [second] := by
    refine ⟨rfl, ?_, by decide, by decide⟩
    simp only [List.forall_mem_cons, List.not_mem_nil, false_implies, implies_true, and_true]
    exact ⟨⟨by decide, by decide⟩, ⟨by decide, by decide⟩⟩
  exact ⟨sent, by decide, (listings_lose_nothing.2.2.2 _ _ _ 2 [] sent (by decide)).2⟩

end Listing

end ShutterGateway
