import ShutterGateway.Proofs.Frame.Codec
import ShutterGateway.Proofs.Frame.Scan

/-!
Frames that are written into a stream come out of it again. The written forms of some frames, one
after the other, are scanned as these frames and nothing else, so that both policies give them back
however the stream is cut into chunks. No written form begins another one: a stream that breaks off
inside a frame gives the frames before it, and leaves bytes that the end of the stream reports.
-/

namespace ShutterGateway

namespace Frame

/-- Writes frames one after the other behind the bytes of an output buffer, and gives the errors
that were met. -/
def appendAll (buffer : Bytes) : List Frame → Bytes × List FrameError
  | [] => (buffer, [])
  | frame :: rest =>
    let first := append buffer frame
    let later := appendAll first.1 rest
    (later.1, first.2.toList ++ later.2)

theorem append_of_encode {frame : Frame} {wire : Bytes} (h : frame.encode = .ok wire)
    (buffer : Bytes) : append buffer frame = (buffer ++ wire, none) := by
  unfold append
  rw [h]

/-- A frame that is too large is refused, and the buffer stays as it is. -/
theorem append_of_large {frame : Frame} (large : maxPayload < frame.payload.length)
    (buffer : Bytes) :
    append buffer frame = (buffer, some (.payloadTooLarge frame.payload.length maxPayload)) := by
  unfold append encode
  rw [if_neg (by omega)]

/-- A written form that is broken off does not tell yet whether a frame starts with it. -/
theorem incomplete_of_cut {frame : Frame} {wire received missing : Bytes}
    (encoded : frame.encode = .ok wire) (cut : wire = received ++ missing)
    (broken : missing ≠ []) : Incomplete received := by
  obtain ⟨fits, hwire⟩ := encode_eq_ok_iff.mp encoded
  have hlength := length_encode encoded
  have hmissing := List.length_pos_iff.mpr broken
  rw [cut, List.length_append, wireLength, overhead] at hlength
  cases received with
  | nil => exact .empty
  | cons length rest =>
    -- The length byte is the first one of the body.
    rw [cut, body, List.cons_append, List.cons_append, List.cons_append] at hwire
    obtain ⟨rfl, -⟩ := List.cons.inj hwire
    rw [List.length_cons] at hlength
    refine .cut (isLength_ofNat fits) ?_
    rw [toNat_length fits]
    omega

/-- Frames that are written one after the other are scanned as these frames, up to what follows. -/
theorem exists_appendAll {frames : List Frame}
    (fits : ∀ frame ∈ frames, frame.payload.length ≤ maxPayload) :
    ∃ stream, (∀ buffer, appendAll buffer frames = (buffer ++ stream, []))
      ∧ ∀ left, Incomplete left → Scans (stream ++ left) (frames.map .frame) left := by
  induction frames with
  | nil =>
    refine ⟨[], ?_, fun left incomplete => .stop incomplete⟩
    intro buffer
    rw [List.append_nil]
    rfl
  | cons frame rest ih =>
    obtain ⟨wire, encoded⟩ := exists_encode_iff.mpr (fits frame (by simp))
    obtain ⟨stream, written, scans⟩ := ih fun other member => fits other (by simp [member])
    refine ⟨wire ++ stream, ?_, ?_⟩
    · intro buffer
      simp only [appendAll, append_of_encode encoded, written, List.append_assoc,
        Option.toList_none, List.nil_append]
    · intro left incomplete
      rw [List.append_assoc]
      exact .take encoded (scans left incomplete)

theorem appendAll_append (buffer : Bytes) (before after : List Frame) :
    appendAll buffer (before ++ after) =
      ((appendAll (appendAll buffer before).1 after).1,
        (appendAll buffer before).2 ++ (appendAll (appendAll buffer before).1 after).2) := by
  induction before generalizing buffer with
  | nil => rfl
  | cons frame rest ih => simp only [List.cons_append, appendAll, ih, List.append_assoc]

end Frame

namespace ResyncPolicy

/-- Where the scan skips nothing both policies give its frames, however the stream is cut. -/
theorem feedAll_of_frames (policy : ResyncPolicy) {chunks : List Bytes} {frames : List Frame}
    {left : Bytes} (h : Scans chunks.flatten (frames.map .frame) left) :
    policy.feedAll [] chunks = ⟨frames, none, left⟩ := by
  have hframes : (frames.map Piece.frame).filterMap Piece.frame? = frames := by
    rw [List.filterMap_map]
    exact List.filterMap_some
  cases policy with
  | dropByte =>
    rw [feedAll_dropByte .empty h, hframes]
  | reconnect =>
    have gives := feedAll_reconnect .empty h
    generalize feedAll .reconnect [] chunks = framing at gives
    cases gives with
    | never all =>
      have hsame := congrArg (List.filterMap Piece.frame?) all
      rw [hframes, List.filterMap_map] at hsame
      rw [hsame]
      exact congrArg (Framing.mk · none left) List.filterMap_some.symm
    | @at_first others byte after rest error first =>
      -- A byte that is skipped would be among the frames.
      have member : Piece.skipped byte ∈ frames.map Piece.frame := by
        rw [first]
        simp
      simp at member

/-- The end of a stream reports bytes that wait for more. -/
theorem finish_of_incomplete (policy : ResyncPolicy) {buffer : Bytes}
    (h : Frame.Incomplete buffer) (waits : buffer ≠ []) :
    policy.finish buffer = ⟨[], some .bytesRemaining, buffer⟩ := by
  have hfeed : policy.feed buffer [] = ⟨[], none, buffer⟩ := by
    unfold feed
    rw [List.append_nil]
    exact drain_of_incomplete policy h _
  unfold finish
  simp only [hfeed, if_neg waits]

end ResyncPolicy

/-- **What is written into a stream comes out of it.** Frames with payloads of at most 250 bytes are
written one after the other behind what is in the buffer. However the stream of their bytes is cut
into chunks, and under either policy, a decoder gives exactly these frames in this order, with no
error and nothing left at the end. If the stream breaks off inside the last frame the decoder gives
the frames before it, and the end of the stream is an error. A frame with a larger payload is
refused and leaves the buffer as it was. -/
theorem stream_round_trip (policy : ResyncPolicy) (front : Bytes) (frames : List Frame)
    (fits : ∀ frame ∈ frames, frame.payload.length ≤ 250) :
    ∃ stream, Frame.appendAll front frames = (front ++ stream, [])
      ∧ (∀ chunks : List Bytes, chunks.flatten = stream →
        policy.feedAll [] chunks = ⟨frames, none, []⟩
          ∧ policy.finish (policy.feedAll [] chunks).left = ⟨[], none, []⟩)
      ∧ (∀ before last, frames = before ++ [last] →
        ∀ (chunks : List Bytes) (missing : Bytes), chunks.flatten ++ missing = stream →
          missing ≠ [] → missing.length < last.wireLength →
          ∃ left, policy.feedAll [] chunks = ⟨before, none, left⟩
            ∧ policy.finish left = ⟨[], some .bytesRemaining, left⟩)
      ∧ ∀ (buffer : Bytes) (frame : Frame), 250 < frame.payload.length →
        Frame.append buffer frame
          = (buffer, some (.payloadTooLarge frame.payload.length 250)) := by
  obtain ⟨stream, written, scans⟩ := Frame.exists_appendAll fits
  refine ⟨stream, written front, ?_, ?_, fun buffer frame large => Frame.append_of_large large _⟩
  · rintro chunks rfl
    have hscans := scans [] .empty
    rw [List.append_nil] at hscans
    rw [policy.feedAll_of_frames hscans]
    exact ⟨rfl, rfl⟩
  · rintro before last rfl chunks missing hstream broken inside
    obtain ⟨earlier, writtenEarlier, scansEarlier⟩ :=
      Frame.exists_appendAll fun frame member => fits frame (List.mem_append_left _ member)
    obtain ⟨wire, encoded⟩ := Frame.exists_encode_iff.mpr (fits last (by simp))
    -- The stream is that of the frames before, and then the last one.
    have hlast : stream = earlier ++ wire := by
      have hwritten := written []
      rw [Frame.appendAll_append, writtenEarlier] at hwritten
      simpa [Frame.appendAll, Frame.append_of_encode encoded] using hwritten.symm
    rw [← Frame.length_encode encoded] at inside
    obtain ⟨received, hchunks, hwire⟩ :
        ∃ received, chunks.flatten = earlier ++ received ∧ wire = received ++ missing := by
      rcases List.append_eq_append_iff.mp (hstream.trans hlast) with
        ⟨more, -, hmissing⟩ | ⟨received, hchunks, hwire⟩
      · -- Otherwise all of the last frame would be missing.
        rw [hmissing, List.length_append] at inside
        omega
      · exact ⟨received, hchunks, hwire⟩
    have incomplete := Frame.incomplete_of_cut encoded hwire broken
    have hscans := scansEarlier received incomplete
    rw [← hchunks] at hscans
    refine ⟨received, policy.feedAll_of_frames hscans, policy.finish_of_incomplete incomplete ?_⟩
    rintro rfl
    rw [hwire, List.nil_append] at inside
    omega

/-- Two frames in four chunks, one of which is empty. -/
theorem stream_round_trip_of_two :
    let frames : List Frame := [⟨0x0211, [1, 5]⟩, ⟨0x000c, []⟩]
    let chunks : List Bytes := [[5, 2], [], [0x11, 1, 5, 0x12, 3, 0], [0x0c, 0x0f]]
    (∀ frame ∈ frames, frame.payload.length ≤ 250)
      ∧ Frame.appendAll [] frames = (chunks.flatten, [])
      ∧ ResyncPolicy.feedAll .reconnect [] chunks = ⟨frames, none, []⟩ := by
  intro frames chunks
  have fits : ∀ frame ∈ frames, frame.payload.length ≤ 250 := by decide
  have hwritten : Frame.appendAll [] frames = (chunks.flatten, []) := by decide
  obtain ⟨stream, written, whole, -, -⟩ := stream_round_trip .reconnect [] frames fits
  rw [hwritten, Prod.mk.injEq] at written
  exact ⟨fits, hwritten, (whole chunks written.1).1⟩

end ShutterGateway
