import ShutterGateway.Proofs.Command.Progress
import ShutterGateway.Proofs.Processor.Notices

/-!
Two ways of reading the same bytes. Where a frame belongs is read from it without reading it as a
whole, with offsets and least sizes of its own: the node that it is about, the position that it
reports, the seconds that a session still takes. Wherever the frame is read as a whole, as the
description of a node, the report of a session or the announcement of its end, both say the same.
-/

namespace ShutterGateway

/-- What a description says that is also looked at without reading it as a whole. -/
theorem Node.head_of_parse? {payload : Bytes} {node : Node} (h : parse? payload = some node) :
    124 ≤ payload.length ∧ node.id = Id.run (byteAt payload 0)
      ∧ node.position = ⟨Id.run (wordAt payload 85)⟩ := by
  have long : payloadSize ≤ payload.length := length_of_read h
  unfold parse? read at h
  rw [if_neg (Nat.not_lt.mpr long)] at h
  obtain rfl := Option.some.inj h
  exact ⟨long, rfl, rfl⟩

namespace Frame

variable {frame : Frame}

theorem event?_of_opcode {opcode : Opcode} (h : frame.opcode? = some opcode) :
    frame.event? = opcode.eventOf? frame.payload := by
  rw [event?, h, Option.bind_some]

theorem node?_of_opcode {opcode : Opcode} (h : frame.opcode? = some opcode) :
    frame.node? = opcode.nodeOf? frame.payload := by
  rw [node?, h, Option.bind_some]

theorem remaining?_of_opcode {opcode : Opcode} (h : frame.opcode? = some opcode) :
    frame.remaining? = opcode.remainingOf? frame.payload := by
  rw [remaining?, h, Option.bind_some]

/-- The opcodes of the frames that describe a node. -/
def Introduces (frame : Frame) : Prop :=
  frame.opcode? = some .getNodeInformationNtf ∨ frame.opcode? = some .getAllNodesInformationNtf

/-! ## Descriptions -/

theorem event?_of_introduces {node : Node} (introduces : frame.Introduces)
    (described : Node.parse? frame.payload = some node) :
    frame.event? = some ⟨node.id, node.position⟩ := by
  obtain ⟨long, hid, hposition⟩ := Node.head_of_parse? described
  have hevent : frame.event? = Id.run (Opcode.readEventAt frame.payload 87 0 85) := by
    rcases introduces with h | h <;> exact event?_of_opcode h
  rw [hevent, Opcode.readEventAt, if_neg (by omega), hid, hposition]
  rfl

theorem node?_of_introduces {node : Node} (introduces : frame.Introduces)
    (described : Node.parse? frame.payload = some node) : frame.node? = some node.id := by
  obtain ⟨long, hid, -⟩ := Node.head_of_parse? described
  rw [hid]
  rcases introduces with h | h
  all_goals
    rw [node?_of_opcode h]
    show Id.run (if frame.payload.length < 1 then _ else _) = _
    rw [if_neg (by omega)]
    rfl

/-- A frame that adds a node to those that have been found reports the position of the node. -/
theorem event?_of_listed {node : Node} (h : frame.listed? = some node) :
    frame.event? = some ⟨node.id, node.position⟩ := by
  have hopcode := Command.opcode?_of_listed h
  rw [listed?, if_pos hopcode] at h
  exact event?_of_introduces (.inr hopcode) h

/-- What frames say of the nodes that they list, read as a whole and without that. -/
theorem events_of_listed (frames : List Frame) :
    (frames.filterMap listed?).map (fun node => (⟨node.id, node.position⟩ : NodeEvent))
      = (frames.filter (·.listed?.isSome)).filterMap event? := by
  induction frames with
  | nil => rfl
  | cons frame frames ih =>
    cases h : frame.listed? with
    | none =>
      rw [List.filterMap_cons_none h, ih, List.filter_cons_of_neg (by simp [h])]
    | some node =>
      rw [List.filterMap_cons_some h, List.map_cons, ih, List.filter_cons_of_pos (by simp [h]),
        List.filterMap_cons_some (event?_of_listed h)]

/-! ## Reports -/

theorem routing_of_reportOf {report : RunReport} (h : frame.opcode? = some .commandRunStatusNtf)
    (reported : Opcode.reportOf? .commandRunStatusNtf frame.payload = some report) :
    frame.node? = some report.node
      ∧ frame.event?
        = if report.parameter = 0 then some ⟨report.node, report.value⟩ else none := by
  rw [node?_of_opcode h, event?_of_opcode h]
  match frame.payload, reported with
  | _ :: _ :: _ :: _ :: parameter :: _ :: _ :: _ :: _ :: _, reported =>
    obtain rfl := Option.some.inj reported
    refine ⟨rfl, ?_⟩
    show Id.run (if parameter = 0 then _ else _) = _
    split <;> rfl

/-- The seconds that the announcement of the end of a session records are those that are read
without recording them. -/
theorem remaining?_of_accepted (findings : Findings)
    (h : frame.opcode? = some .commandRemainingTimeNtf) :
    let read := Id.run (findings.readProgress .commandRemainingTimeNtf frame.payload)
    (read.2 = .more → frame.remaining?.isSome
        ∧ read.1 = { findings with remainingTime? := frame.remaining? })
      ∧ (read.2 ≠ .more → frame.remaining? = none ∧ read.1 = findings) := by
  rw [remaining?_of_opcode h]
  match frame.payload with
  | [] | [_] | [_, _] | [_, _, _] | [_, _, _, _] | [_, _, _, _, _] =>
    exact ⟨nofun, fun _ => ⟨rfl, rfl⟩⟩
  | _ :: _ :: _ :: _ :: _ :: _ :: _ => exact ⟨fun _ => ⟨rfl, rfl⟩, fun h => absurd rfl h⟩

end Frame

namespace Processor

/-- **What is read of a frame to see where it belongs agrees with what is read of it as a whole.**

* Wherever the notification of a node, for the one node that was asked for or among all nodes, is a
  description, the node that the frame is about and the position that it reports are those of the
  description. A processor that takes the frame for no command's posts this position.
* Wherever the notification of a run status adds a report, the frame is about the node of the
  report. It reports the value of the report as a position of this node if the report is about the
  main parameter, and no position otherwise.
* The notification of the remaining time tells the seconds that it records if it is accepted, and
  none if it is rejected. Then nothing is recorded either.
* So it does not matter whether a node becomes known by a frame that belongs to no command or by a
  request of the processor's own: at any point of any run, the events that such a request posts
  for the nodes it has found are those of the frames that list them, taken since it was handed
  over. -/
theorem routing_agrees_with_reading :
    (∀ (frame : Frame) node, frame.Introduces → Node.parse? frame.payload = some node →
      frame.node? = some node.id ∧ frame.event? = some ⟨node.id, node.position⟩
        ∧ ∀ state, State.unsolicited frame state = state.post ⟨node.id, node.position⟩)
    ∧ (∀ (frame : Frame) findings report, frame.opcode? = some .commandRunStatusNtf →
        (Id.run (Findings.readProgress findings .commandRunStatusNtf frame.payload)).1.reports
          = findings.reports ++ [report] →
        frame.node? = some report.node
          ∧ frame.event?
            = if report.parameter = 0 then some ⟨report.node, report.value⟩ else none)
    ∧ (∀ (frame : Frame) findings, frame.opcode? = some .commandRemainingTimeNtf →
        let read := Id.run (Findings.readProgress findings .commandRemainingTimeNtf frame.payload)
        (read.2 = .more → frame.remaining?.isSome
            ∧ read.1 = { findings with remainingTime? := frame.remaining? })
          ∧ (read.2 ≠ .more → frame.remaining? = none ∧ read.1 = findings))
    ∧ ∀ config epoch steps,
        let past := history config epoch steps
        let state := reached config epoch steps
        state.found config = [] ∨
          ∃ attempt handing since, state.attempt? = some attempt
            ∧ HandedOver past attempt handing since
            ∧ ((state.found config).map fun node => ⟨node.id, node.position⟩)
              = ((since.flatMap Moment.taken).filter (·.listed?.isSome)).filterMap
                  Frame.event? := by
  refine ⟨?_, ?_, ?_, ?_⟩
  · intro frame node introduces described
    have hevent := Frame.event?_of_introduces introduces described
    exact ⟨Frame.node?_of_introduces introduces described, hevent,
      fun state => by rw [State.unsolicited, hevent]⟩
  · intro frame findings report hopcode added
    rw [(findings.readProgress_runStatus frame.payload).1] at added
    refine Frame.routing_of_reportOf hopcode ?_
    exact Option.toList_eq_singleton_iff.mp (List.append_cancel_left added)
  · exact fun frame findings hopcode => Frame.remaining?_of_accepted findings hopcode
  · intro config epoch steps past state
    rcases collected?_of_found config (fit_reached config epoch steps) with none | some
    · exact .inl none
    · obtain ⟨attempt, handing, since, out, handed, hfound⟩ :=
        collected_since config epoch steps some
      refine .inr ⟨attempt, handing, since, out, handed, ?_⟩
      rw [hfound, Frame.events_of_listed]

/-- The description of a node, a report on the main parameter of a node and an announcement of the
end of a session. -/
theorem routing_agrees_with_reading_of_three :
    let description : Frame := ⟨0x0204, 9 :: List.replicate 84 0 ++ [0x64] ++ List.replicate 38 0⟩
    let report : Frame := ⟨0x0302, [0, 7, 1, 9, 0, 0xc8, 0, 2, 1]⟩
    let announcement : Frame := ⟨0x0303, [0, 7, 9, 0, 1, 44]⟩
    (∃ node, Node.parse? description.payload = some node
      ∧ description.node? = some node.id ∧ description.event? = some ⟨node.id, node.position⟩)
      ∧ (report.node? = some 9 ∧ report.event? = some ⟨9, ⟨0xc800⟩⟩)
      ∧ announcement.remaining?.isSome := by
  intro description report announcement
  obtain ⟨described, reported, announced, -⟩ := routing_agrees_with_reading
  obtain ⟨node, hnode⟩ : ∃ node, Node.parse? description.payload = some node :=
    Option.isSome_iff_exists.mp (by decide +kernel)
  obtain ⟨hid, hevent, -⟩ := described description node (.inr (by decide +kernel)) hnode
  exact ⟨⟨node, hnode, hid, hevent⟩,
    reported report {} ⟨9, 0, ⟨0xc800⟩, .ofCode 2, .ofCode 1⟩ (by decide +kernel)
      (by decide +kernel),
    ((announced announcement {} (by decide +kernel)).1 (by rfl)).1⟩

end Processor

end ShutterGateway
