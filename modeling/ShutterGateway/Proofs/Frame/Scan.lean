import ShutterGateway.Proofs.Frame.Leading

/-!
Decoding a stream is a scan from the left. At the current place the scan takes a frame if one stands
there, skips a byte if none does, and stops if the bytes do not tell yet. However the stream is cut
into feeds, dropping bytes gives the frames and the rest of the scan of the whole stream, and giving
the connection up gives the frames before the first byte that the scan skips.
-/

namespace ShutterGateway

/-- What a scan meets: a frame that it takes, or a byte that it skips. -/
inductive Piece where
  | frame (frame : Frame)
  | skipped (byte : UInt8)

namespace Piece

/-- The bytes of the stream that belong to a piece. -/
def bytes : Piece → Bytes
  | .frame whole => whole.body ++ [xorSum whole.body]
  | .skipped byte => [byte]

/-- The frame that a piece is, if it is one. -/
def frame? : Piece → Option Frame
  | .frame whole => some whole
  | .skipped _ => none

end Piece

/-- The scan of some bytes, with its pieces in order and the bytes that are left. -/
inductive Scans : Bytes → List Piece → Bytes → Prop where
  /-- The bytes do not tell yet. -/
  | stop {bytes : Bytes} (incomplete : Frame.Incomplete bytes) : Scans bytes [] bytes
  | take {frame : Frame} {wire rest left : Bytes} {pieces : List Piece}
    (encoded : frame.encode = .ok wire) (later : Scans rest pieces left) :
    Scans (wire ++ rest) (.frame frame :: pieces) left
  | skip {byte : UInt8} {rest left : Bytes} {pieces : List Piece}
    (bad : Frame.Bad (byte :: rest)) (later : Scans rest pieces left) :
    Scans (byte :: rest) (.skipped byte :: pieces) left

/-- Feeds a decoder with some chunks, one after the other. The error is the first one that is
met. -/
def ResyncPolicy.feedAll (policy : ResyncPolicy) (buffer : Bytes) : List Bytes → Framing
  | [] => ⟨[], none, buffer⟩
  | chunk :: rest =>
    let first := policy.feed buffer chunk
    let later := policy.feedAll first.left rest
    ⟨first.frames ++ later.frames, first.error?.or later.error?, later.left⟩

namespace Scans

/-! ## The scan -/

theorem length_encode_pos {frame : Frame} {wire : Bytes} (h : frame.encode = .ok wire) :
    0 < wire.length := by
  obtain ⟨-, rfl⟩ := Frame.encode_eq_ok_iff.mp h
  simp

/-- Everything can be scanned. -/
theorem total (bytes : Bytes) : ∃ pieces left, Scans bytes pieces left := by
  -- A frame takes more than one byte off, so the induction is on how many there are.
  induction hlength : bytes.length using Nat.strongRecOn generalizing bytes with
  | ind n ih =>
    rcases Frame.cases_of_bytes bytes with incomplete | ⟨frame, wire, rest, encoded, rfl⟩ | bad
    · exact ⟨[], bytes, .stop incomplete⟩
    · have hpos := length_encode_pos encoded
      rw [List.length_append] at hlength
      obtain ⟨pieces, left, later⟩ := ih rest.length (by omega) rest rfl
      exact ⟨_, left, .take encoded later⟩
    · cases bytes with
      | nil => cases bad
      | cons byte rest =>
        rw [List.length_cons] at hlength
        obtain ⟨pieces, left, later⟩ := ih rest.length (by omega) rest rfl
        exact ⟨_, left, .skip bad later⟩

/-- The scan of the bytes that have arrived goes on with what is left and what arrives. -/
theorem append {bytes left left' : Bytes} {pieces pieces' : List Piece}
    (h : Scans bytes pieces left) {more : Bytes} (later : Scans (left ++ more) pieces' left') :
    Scans (bytes ++ more) (pieces ++ pieces') left' := by
  induction h with
  | stop _ => exact later
  | take encoded _ ih =>
    rw [List.append_assoc]
    exact .take encoded (ih later)
  | skip bad _ ih => exact .skip (bad.append more) (ih later)

theorem bytes_of_encode {frame : Frame} {wire : Bytes} (h : frame.encode = .ok wire) :
    (Piece.frame frame).bytes = wire :=
  (Frame.encode_eq_ok_iff.mp h).2.symm

/-- Every byte is in one piece, or it is left. -/
theorem bytes_eq {bytes left : Bytes} {pieces : List Piece} (h : Scans bytes pieces left) :
    bytes = pieces.flatMap Piece.bytes ++ left := by
  induction h with
  | stop _ => rfl
  | take encoded _ ih =>
    rw [List.flatMap_cons, bytes_of_encode encoded, List.append_assoc, ← ih]
  | skip _ _ ih =>
    rw [List.flatMap_cons, List.append_assoc, ← ih]
    rfl

theorem incomplete_left {bytes left : Bytes} {pieces : List Piece} (h : Scans bytes pieces left) :
    Frame.Incomplete left := by
  induction h with
  | stop incomplete => exact incomplete
  | take _ _ ih => exact ih
  | skip _ _ ih => exact ih

/-- No frame starts at a byte that is skipped. -/
theorem bad_of_skipped {bytes left : Bytes} {before after : List Piece} {byte : UInt8}
    (h : Scans bytes (before ++ .skipped byte :: after) left) :
    Frame.Bad (bytes.drop (before.flatMap Piece.bytes).length) := by
  induction before generalizing bytes with
  | nil =>
    cases h with
    | skip bad _ => exact bad
  | cons piece before ih =>
    cases h with
    | take encoded later =>
      rw [List.flatMap_cons, bytes_of_encode encoded, List.length_append, ← List.drop_drop,
        List.drop_left]
      exact ih later
    | skip _ later =>
      rw [List.flatMap_cons, List.length_append, ← List.drop_drop]
      exact ih later

/-! ## What is read decides how the scan goes on -/

theorem of_none {bytes left : Bytes} {pieces : List Piece} (h : Scans bytes pieces left)
    (read : Frame.decodeLeading bytes = .ok none) : pieces = [] ∧ left = bytes := by
  cases h with
  | stop _ => exact ⟨rfl, rfl⟩
  | take encoded _ =>
    rw [Frame.decodeLeading_encode encoded] at read
    cases read
  | skip bad _ =>
    obtain ⟨error, hread⟩ := Frame.exists_error_of_bad bad
    rw [read] at hread
    cases hread

theorem of_some {bytes left : Bytes} {pieces : List Piece} {frame : Frame} {used : Nat}
    (h : Scans bytes pieces left) (read : Frame.decodeLeading bytes = .ok (some (frame, used))) :
    ∃ later, pieces = .frame frame :: later ∧ Scans (bytes.drop used) later left := by
  cases h with
  | stop incomplete =>
    rw [Frame.decodeLeading_of_incomplete incomplete] at read
    cases read
  | take encoded later =>
    rw [Frame.decodeLeading_encode encoded] at read
    cases read
    rw [List.drop_left]
    exact ⟨_, rfl, later⟩
  | skip bad _ =>
    obtain ⟨error, hread⟩ := Frame.exists_error_of_bad bad
    rw [read] at hread
    cases hread

theorem of_error {byte : UInt8} {rest left : Bytes} {pieces : List Piece} {error : FrameError}
    (h : Scans (byte :: rest) pieces left)
    (read : Frame.decodeLeading (byte :: rest) = .error error) :
    ∃ later, pieces = .skipped byte :: later ∧ Scans rest later left := by
  generalize hbytes : byte :: rest = bytes at h read
  cases h with
  | stop incomplete =>
    rw [Frame.decodeLeading_of_incomplete incomplete] at read
    cases read
  | take encoded _ =>
    rw [Frame.decodeLeading_encode encoded] at read
    cases read
  | skip _ later =>
    cases hbytes
    exact ⟨_, rfl, later⟩

/-- There is one scan only. -/
theorem unique {bytes left left' : Bytes} {pieces pieces' : List Piece}
    (h : Scans bytes pieces left) (h' : Scans bytes pieces' left') :
    pieces' = pieces ∧ left' = left := by
  induction h generalizing pieces' with
  | stop incomplete => exact h'.of_none (Frame.decodeLeading_of_incomplete incomplete)
  -- What is read at the start decides the first piece of both scans.
  | take encoded _ ih =>
    obtain ⟨later', rfl, hlater⟩ := h'.of_some (Frame.decodeLeading_encode encoded _)
    rw [List.drop_left] at hlater
    obtain ⟨rfl, hleft⟩ := ih hlater
    exact ⟨rfl, hleft⟩
  | skip bad _ ih =>
    obtain ⟨error, hread⟩ := Frame.exists_error_of_bad bad
    obtain ⟨later', rfl, hlater⟩ := h'.of_error hread
    obtain ⟨rfl, hleft⟩ := ih hlater
    exact ⟨rfl, hleft⟩

/-- The scan of chunks is the scan of the first, and then of what it leaves and the others. -/
theorem split_chunk {buffer chunk left : Bytes} {rest : List Bytes} {pieces : List Piece}
    (h : Scans (buffer ++ (chunk :: rest).flatten) pieces left) :
    ∃ first between others, Scans (buffer ++ chunk) first between
      ∧ Scans (between ++ rest.flatten) others left ∧ pieces = first ++ others := by
  obtain ⟨first, between, hfirst⟩ := total (buffer ++ chunk)
  obtain ⟨others, left', hothers⟩ := total (between ++ rest.flatten)
  have hboth := hfirst.append hothers
  rw [List.append_assoc, ← List.flatten_cons] at hboth
  obtain ⟨rfl, rfl⟩ := hboth.unique h
  exact ⟨first, between, others, hfirst, hothers, rfl⟩

end Scans

/-! ## Taking one frame -/

namespace ResyncPolicy

theorem next_of_incomplete (policy : ResyncPolicy) {buffer : Bytes}
    (h : Frame.Incomplete buffer) : policy.next buffer = .ok (none, buffer) := by
  unfold next
  rw [Frame.decodeLeading_of_incomplete h]

theorem next_encode (policy : ResyncPolicy) {frame : Frame} {wire : Bytes}
    (h : frame.encode = .ok wire) (rest : Bytes) :
    policy.next (wire ++ rest) = .ok (some frame, rest) := by
  unfold next
  rw [Frame.decodeLeading_encode h]
  show Except.ok (some frame, (wire ++ rest).drop wire.length) = _
  rw [List.drop_left]

theorem next_dropByte_of_bad {byte : UInt8} {rest : Bytes} (h : Frame.Bad (byte :: rest)) :
    next .dropByte (byte :: rest) = next .dropByte rest := by
  obtain ⟨error, hread⟩ := Frame.exists_error_of_bad h
  conv => lhs; unfold next
  rw [hread]

theorem next_reconnect_of_error {buffer : Bytes} {error : FrameError}
    (h : Frame.decodeLeading buffer = .error error) :
    next .reconnect buffer = .error error := by
  unfold next
  rw [h]

/-- Dropping bytes never fails. -/
theorem next_dropByte_isOk (buffer : Bytes) : ∃ result, next .dropByte buffer = .ok result := by
  obtain ⟨pieces, left, scans⟩ := Scans.total buffer
  induction scans with
  | stop incomplete => exact ⟨_, next_of_incomplete .dropByte incomplete⟩
  | take encoded _ _ => exact ⟨_, next_encode .dropByte encoded _⟩
  | skip bad _ ih =>
    rw [next_dropByte_of_bad bad]
    exact ih

/-! ## Dropping bytes -/

theorem drain_of_incomplete (policy : ResyncPolicy) {buffer : Bytes}
    (h : Frame.Incomplete buffer) (fuel : Nat) :
    policy.drain fuel buffer = ⟨[], none, buffer⟩ := by
  cases fuel with
  | zero => rfl
  | succ fuel => rw [drain, next_of_incomplete policy h]

theorem drain_encode (policy : ResyncPolicy) {frame : Frame} {wire : Bytes}
    (h : frame.encode = .ok wire) (rest : Bytes) (fuel : Nat) :
    policy.drain (fuel + 1) (wire ++ rest) = (policy.drain fuel rest).cons frame := by
  rw [drain, next_encode policy h]

theorem drain_dropByte_of_bad {byte : UInt8} {rest : Bytes} (h : Frame.Bad (byte :: rest))
    (fuel : Nat) :
    drain .dropByte (fuel + 1) (byte :: rest) = drain .dropByte (fuel + 1) rest := by
  -- Only an error would tell the two buffers apart.
  obtain ⟨⟨frame?, left⟩, hresult⟩ := next_dropByte_isOk rest
  cases frame? <;> simp only [drain, next_dropByte_of_bad h, hresult]

/-- Taking all frames off a buffer is scanning it. The number of its bytes is enough fuel. -/
theorem drain_dropByte {buffer left : Bytes} {pieces : List Piece} (h : Scans buffer pieces left)
    {fuel : Nat} (enough : buffer.length ≤ fuel) :
    drain .dropByte fuel buffer = ⟨pieces.filterMap Piece.frame?, none, left⟩ := by
  induction h generalizing fuel with
  | stop incomplete => exact drain_of_incomplete .dropByte incomplete fuel
  | @take frame wire rest left pieces encoded _ ih =>
    have hpos := Scans.length_encode_pos encoded
    rw [List.length_append] at enough
    obtain ⟨fuel, rfl⟩ : ∃ less, fuel = less + 1 := ⟨fuel - 1, by omega⟩
    have henough : rest.length ≤ fuel := by omega
    rw [drain_encode .dropByte encoded, ih henough]
    rfl
  | @skip byte rest left pieces bad _ ih =>
    rw [List.length_cons] at enough
    obtain ⟨fuel, rfl⟩ : ∃ less, fuel = less + 1 := ⟨fuel - 1, by omega⟩
    have henough : rest.length ≤ fuel + 1 := by omega
    rw [drain_dropByte_of_bad bad, ih henough]
    rfl

theorem feed_dropByte {buffer arrived left : Bytes} {pieces : List Piece}
    (h : Scans (buffer ++ arrived) pieces left) :
    feed .dropByte buffer arrived = ⟨pieces.filterMap Piece.frame?, none, left⟩ :=
  drain_dropByte h (Nat.le_refl _)

/-- However a stream is cut into chunks, dropping bytes gives what the scan of the stream gives. -/
theorem feedAll_dropByte {buffer : Bytes} (waits : Frame.Incomplete buffer) {chunks : List Bytes}
    {left : Bytes} {pieces : List Piece} (h : Scans (buffer ++ chunks.flatten) pieces left) :
    feedAll .dropByte buffer chunks = ⟨pieces.filterMap Piece.frame?, none, left⟩ := by
  induction chunks generalizing buffer pieces with
  | nil =>
    rw [List.flatten_nil, List.append_nil] at h
    obtain ⟨rfl, rfl⟩ := h.of_none (Frame.decodeLeading_of_incomplete waits)
    rfl
  | cons chunk rest ih =>
    -- What the first chunk leaves waits for more bytes, and it goes on with the other chunks.
    obtain ⟨first, between, others, hfirst, hothers, rfl⟩ := h.split_chunk
    rw [feedAll, feed_dropByte hfirst]
    simp only [ih hfirst.incomplete_left hothers, List.filterMap_append, Option.none_or]

end ResyncPolicy

/-! ## Giving the connection up -/

/-- What a decoder gives that meets the first byte that the scan of a stream skips as an error: the
frames before it, and the stream from it on. -/
inductive GivesUp (stream : Bytes) (pieces : List Piece) (left : Bytes) : Framing → Prop where
  /-- No byte is skipped. -/
  | never {frames : List Frame} (all : pieces = frames.map .frame) :
    GivesUp stream pieces left ⟨frames, none, left⟩
  | at_first {frames : List Frame} {byte : UInt8} {after : List Piece} {rest : Bytes}
    {error : FrameError} (first : pieces = frames.map .frame ++ .skipped byte :: after)
    (reached : stream = (frames.map Piece.frame).flatMap Piece.bytes ++ rest)
    (read : Frame.decodeLeading rest = .error error) :
    GivesUp stream pieces left ⟨frames, some (.frame error), rest⟩

namespace GivesUp

variable {stream left left' : Bytes} {pieces pieces' : List Piece} {framing : Framing}

theorem cons {frame : Frame} {wire : Bytes} (encoded : frame.encode = .ok wire)
    (h : GivesUp stream pieces left framing) :
    GivesUp (wire ++ stream) (.frame frame :: pieces) left (framing.cons frame) := by
  cases h with
  | @never frames all =>
    have hall : .frame frame :: pieces = (frame :: frames).map Piece.frame := by rw [all]; rfl
    exact .never hall
  | @at_first frames byte after rest error first reached read =>
    have hfirst : .frame frame :: pieces
        = (frame :: frames).map Piece.frame ++ .skipped byte :: after := by
      rw [first]
      rfl
    have hreached : wire ++ stream
        = ((frame :: frames).map Piece.frame).flatMap Piece.bytes ++ rest := by
      rw [reached, ← Scans.bytes_of_encode encoded, ← List.append_assoc]
      rfl
    exact .at_first hfirst hreached read

/-- Once a byte has been met at which no frame starts, what arrives later only waits behind it. -/
theorem append {more : Bytes} {frames : List Frame} {error : FrameError} {rest : Bytes}
    (h : GivesUp stream pieces left ⟨frames, some (.frame error), rest⟩) :
    GivesUp (stream ++ more) (pieces ++ pieces') left'
      ⟨frames, some (.frame error), rest ++ more⟩ := by
  cases h with
  | @at_first _ byte after _ _ first reached read =>
    have hfirst : pieces ++ pieces'
        = frames.map Piece.frame ++ .skipped byte :: (after ++ pieces') := by
      rw [first, List.append_assoc]
      rfl
    have hreached : stream ++ more
        = (frames.map Piece.frame).flatMap Piece.bytes ++ (rest ++ more) := by
      rw [reached, List.append_assoc]
    exact .at_first hfirst hreached (Frame.decodeLeading_append_of_error read more)

/-- As long as no byte is skipped the decoder goes on with what is left. -/
theorem prepend {bytes more : Bytes} {frames : List Frame}
    (scans : Scans bytes (frames.map .frame) left)
    (h : GivesUp (left ++ more) pieces' left' framing) :
    GivesUp (bytes ++ more) (frames.map .frame ++ pieces') left'
      ⟨frames ++ framing.frames, framing.error?, framing.left⟩ := by
  cases h with
  | @never others all =>
    have hall : frames.map Piece.frame ++ pieces' = (frames ++ others).map Piece.frame := by
      rw [all, List.map_append]
    exact .never hall
  | @at_first others byte after rest error first reached read =>
    have hfirst : frames.map Piece.frame ++ pieces'
        = (frames ++ others).map Piece.frame ++ .skipped byte :: after := by
      rw [first, List.map_append, List.append_assoc]
    have hreached : bytes ++ more
        = ((frames ++ others).map Piece.frame).flatMap Piece.bytes ++ rest := by
      rw [scans.bytes_eq, List.append_assoc, reached, List.map_append, List.flatMap_append,
        List.append_assoc]
    exact .at_first hfirst hreached read

end GivesUp

namespace ResyncPolicy

theorem drain_reconnect {buffer left : Bytes} {pieces : List Piece} (h : Scans buffer pieces left)
    {fuel : Nat} (enough : buffer.length ≤ fuel) :
    GivesUp buffer pieces left (drain .reconnect fuel buffer) := by
  induction h generalizing fuel with
  | stop incomplete =>
    rw [drain_of_incomplete .reconnect incomplete]
    exact .never rfl
  | @take frame wire rest left pieces encoded _ ih =>
    have hpos := Scans.length_encode_pos encoded
    rw [List.length_append] at enough
    obtain ⟨fuel, rfl⟩ : ∃ less, fuel = less + 1 := ⟨fuel - 1, by omega⟩
    have henough : rest.length ≤ fuel := by omega
    rw [drain_encode .reconnect encoded]
    exact (ih henough).cons encoded
  | @skip byte rest left pieces bad _ _ =>
    rw [List.length_cons] at enough
    obtain ⟨fuel, rfl⟩ : ∃ less, fuel = less + 1 := ⟨fuel - 1, by omega⟩
    obtain ⟨error, hread⟩ := Frame.exists_error_of_bad bad
    simp only [drain, next_reconnect_of_error hread]
    exact .at_first rfl rfl hread

/-- An error is met again with every further chunk. -/
theorem feedAll_reconnect_of_error {buffer : Bytes} {error : FrameError}
    (h : Frame.decodeLeading buffer = .error error) (chunks : List Bytes) :
    (feedAll .reconnect buffer chunks).frames = []
      ∧ (feedAll .reconnect buffer chunks).left = buffer ++ chunks.flatten := by
  induction chunks generalizing buffer with
  | nil => exact ⟨rfl, (List.append_nil _).symm⟩
  | cons chunk rest ih =>
    have hlater := Frame.decodeLeading_append_of_error h chunk
    have hfeed : feed .reconnect buffer chunk = ⟨[], some (.frame error), buffer ++ chunk⟩ := by
      cases hbuffer : buffer ++ chunk with
      | nil =>
        rw [hbuffer] at hlater
        cases hlater
      | cons byte tail =>
        rw [hbuffer] at hlater
        rw [feed, hbuffer, List.length_cons]
        simp only [drain, next_reconnect_of_error hlater]
    obtain ⟨hframes, hleft⟩ := ih hlater
    rw [feedAll, hfeed]
    refine ⟨hframes, ?_⟩
    show (feedAll .reconnect (buffer ++ chunk) rest).left = _
    rw [hleft, List.append_assoc, List.flatten_cons]

/-- However a stream is cut into chunks, giving the connection up gives the frames before the first
byte that the scan of the stream skips, and the error that is met there. -/
theorem feedAll_reconnect {buffer : Bytes} (waits : Frame.Incomplete buffer)
    {chunks : List Bytes} {left : Bytes} {pieces : List Piece}
    (h : Scans (buffer ++ chunks.flatten) pieces left) :
    GivesUp (buffer ++ chunks.flatten) pieces left (feedAll .reconnect buffer chunks) := by
  induction chunks generalizing buffer pieces with
  | nil =>
    rw [List.flatten_nil, List.append_nil] at h ⊢
    obtain ⟨rfl, rfl⟩ := h.of_none (Frame.decodeLeading_of_incomplete waits)
    exact .never rfl
  | cons chunk rest ih =>
    obtain ⟨first, between, others, hfirst, hothers, rfl⟩ := h.split_chunk
    have hfeed : GivesUp (buffer ++ chunk) first between (feed .reconnect buffer chunk) :=
      drain_reconnect hfirst (Nat.le_refl _)
    rw [List.flatten_cons, ← List.append_assoc, feedAll]
    generalize feed .reconnect buffer chunk = framing at hfeed
    cases hfeed with
    | @never frames all =>
      subst all
      exact (ih hfirst.incomplete_left hothers).prepend hfirst
    | @at_first frames byte after tail error atFirst reached read =>
      -- The other chunks only wait behind the error.
      obtain ⟨hframes, hleft⟩ := feedAll_reconnect_of_error read rest
      have hgives : GivesUp (buffer ++ chunk) first between ⟨frames, some (.frame error), tail⟩ :=
        .at_first atFirst reached read
      simp only [hframes, hleft, List.append_nil, Option.some_or]
      exact hgives.append

end ResyncPolicy

/-- **Decoding is a scan from the left, however the stream is cut.** A stream has one scan. Every
byte is in one of its pieces or left, no frame starts at a byte that is skipped, and what is left is
shorter than the longest frame. Whatever chunks the stream arrives in, a decoder that drops bytes
never fails and gives the frames of the scan and what it leaves; one that gives the connection up
gives the frames before the first byte that is skipped, and then meets the error there. -/
theorem decoding_is_scan (stream : Bytes) :
    ∃ pieces left, Scans stream pieces left
      ∧ (∀ pieces' left', Scans stream pieces' left' → pieces' = pieces ∧ left' = left)
      ∧ stream = pieces.flatMap Piece.bytes ++ left
      ∧ (∀ before byte after, pieces = before ++ .skipped byte :: after →
        ¬ Frame.StartsFrame (stream.drop (before.flatMap Piece.bytes).length))
      ∧ left.length ≤ 253
      ∧ (∀ buffer, ∃ result, ResyncPolicy.next .dropByte buffer = .ok result)
      ∧ ResyncPolicy.next .dropByte left = .ok (none, left)
      ∧ ∀ chunks : List Bytes, chunks.flatten = stream →
        ResyncPolicy.feedAll .dropByte [] chunks
            = ⟨pieces.filterMap Piece.frame?, none, left⟩
          ∧ GivesUp stream pieces left (ResyncPolicy.feedAll .reconnect [] chunks) := by
  obtain ⟨pieces, left, scans⟩ := Scans.total stream
  refine ⟨pieces, left, scans, fun _ _ => scans.unique, scans.bytes_eq, ?_,
    scans.incomplete_left.length_le, ResyncPolicy.next_dropByte_isOk,
    ResyncPolicy.next_of_incomplete .dropByte scans.incomplete_left, ?_⟩
  · rintro before byte after rfl
    exact Frame.not_startsFrame_of_bad scans.bad_of_skipped
  · rintro chunks rfl
    exact ⟨ResyncPolicy.feedAll_dropByte .empty scans, ResyncPolicy.feedAll_reconnect .empty scans⟩

end ShutterGateway
