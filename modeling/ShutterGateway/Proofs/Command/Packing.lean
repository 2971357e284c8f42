import ShutterGateway.Proofs.Command.Lifecycle
import ShutterGateway.Proofs.Frame.Codec

/-!
How requests are packed. The payload of a request is written field by field into a buffer of a fixed
size that is zero at first. Written here with every write checked, each layout stays inside its
buffer, because of what the constructors have checked, and gives the payload. The frame with this
payload then goes over the wire and is read back as it was.
-/

namespace ShutterGateway

/-! ## Writing into a buffer -/

/-- Writes some items into a buffer from an offset on. As in checked reading, the first place that
the buffer does not have is reported. -/
def writeAt {α : Type} (buffer : List α) (offset : Nat) (items : List α) :
    Except OutOfRange (List α) :=
  if offset + items.length ≤ buffer.length then
    .ok (buffer.take offset ++ items ++ buffer.drop (offset + items.length))
  else .error ⟨max offset buffer.length, buffer.length⟩

/-- Writes some parts into a buffer, one behind the other. -/
def writeParts (buffer : Bytes) (offset : Nat) : List Bytes → Except OutOfRange Bytes
  | [] => .ok buffer
  | part :: rest => do
    let buffer ← writeAt buffer offset part
    writeParts buffer (offset + part.length) rest

/-- A write that succeeds is followed by the rest with what is written. -/
theorem bind_of_eq_ok {α β : Type} {write : Except OutOfRange α} {written : α}
    {next : α → Except OutOfRange β} (h : write = .ok written) :
    (write >>= next) = next written := by
  rw [h]
  rfl

/-- Writing one item replaces it. -/
theorem writeAt_singleton {α : Type} {buffer : List α} {offset : Nat} (item : α)
    (h : offset < buffer.length) : writeAt buffer offset [item] = .ok (buffer.set offset item) := by
  have hroom : offset + [item].length ≤ buffer.length := h
  rw [writeAt, if_pos hroom, List.set_eq_take_append_cons_drop, if_pos h, List.append_assoc]
  rfl

section

variable {size offset : Nat} {written items : Bytes}

/-- Writing behind what is written keeps it. -/
theorem writeAt_padded (behind : offset = written.length)
    (fits : written.length + items.length ≤ size) :
    writeAt (padded size written) offset items = .ok (padded size (written ++ items)) := by
  subst behind
  have hwritten : written.take size = written := List.take_of_length_le (by omega)
  have hall : (written ++ items).take size = written ++ items :=
    List.take_of_length_le (by rw [List.length_append]; omega)
  have hroom : written.length + items.length ≤ (padded size written).length := by
    rw [length_padded]
    exact fits
  rw [writeAt, if_pos hroom]
  unfold padded
  have hpast : written.drop (written.length + items.length) = [] :=
    List.drop_eq_nil_of_le (by omega)
  have hrest : size - written.length - (written.length + items.length - written.length)
      = size - (written.length + items.length) := by omega
  rw [hwritten, hall, List.take_left, List.drop_append, List.drop_replicate, hpast, hrest,
    List.nil_append, List.length_append]

theorem writeParts_padded {parts : List Bytes} (behind : offset = written.length)
    (fits : written.length + parts.flatten.length ≤ size) :
    writeParts (padded size written) offset parts
      = .ok (padded size (written ++ parts.flatten)) := by
  induction parts generalizing written offset with
  | nil =>
    rw [List.flatten_nil, List.append_nil]
    rfl
  | cons part rest ih =>
    rw [List.flatten_cons, List.length_append] at fits
    rw [writeParts, bind_of_eq_ok (writeAt_padded behind (by omega)), ih, List.flatten_cons,
      List.append_assoc]
    · rw [List.length_append, behind]
    · rw [List.length_append]
      omega

theorem padded_nil (size : Nat) : padded size [] = List.replicate size 0 := by
  simp [padded]

/-- What is written fills a buffer up to the zeros behind it. -/
theorem padded_append {first rest : Bytes} (behind : size = first.length + offset) :
    padded size (first ++ rest) = first ++ padded offset rest := by
  subst behind
  unfold padded
  rw [List.take_append, List.take_of_length_le (Nat.le_add_right ..), Nat.add_sub_cancel_left,
    List.length_append, Nat.add_sub_add_left, List.append_assoc]

end

namespace Request

/-! ## Layouts -/

/-- Writes the start of an actuating request. -/
def writeHeader (buffer : Bytes) (session : UInt16) : Except OutOfRange Bytes := do
  let buffer ← writeAt buffer 0 (wordBytes session)
  let buffer ← writeAt buffer 2 [originatorUser]
  writeAt buffer 3 [priorityUser]

/-- Sets the value of the parameter that an instruction is for. -/
def writeValue (values : List Position) (instruction : PositionInstruction) :
    Except OutOfRange (List Position) :=
  writeAt values instruction.function.toNat [instruction.position]

/-- Sets the indicator of a parameter, if it has one. -/
def writeIndicator (indicators : Bytes) (function : UInt8) : Except OutOfRange Bytes :=
  match Indicators.place? function with
  | some (byte, mask) => writeAt indicators byte [indicators.getD byte 0 ||| mask]
  | none => .ok indicators

/-- Writes how many nodes there are and the nodes behind it, as many as there is place for. -/
def writeNodes (buffer : Bytes) (offset : Nat) (nodes : List UInt8) : Except OutOfRange Bytes := do
  let count := min nodes.length maxInstructions
  let buffer ← writeAt buffer offset [UInt8.ofNat count]
  writeAt buffer (offset + 1) (nodes.take count)

/-- Writes a text, as much of it as its field holds. -/
def writeText (buffer : Bytes) (offset size : Nat) (text : String) : Except OutOfRange Bytes :=
  writeAt buffer offset ((utf8 text).take (min (utf8 text).length size))

/-- The size of the request for positions, and of that for modes. -/
def actuatingSize : Nat := 66

/-- Packs a request for positions. -/
def packPositions (session : UInt16) (batch : PositionBatch) : Except OutOfRange Bytes := do
  let buffer ← writeHeader (List.replicate actuatingSize 0) session
  let values ← batch.instructions.foldlM writeValue
    (List.replicate (1 + functionalParameters) .ignore)
  let indicators ← (batch.instructions.map (·.function)).foldlM writeIndicator [0, 0]
  let buffer ← writeAt buffer 4 [0]
  let buffer ← writeAt buffer 5 indicators
  let buffer ← writeParts buffer 7 (values.map fun value => wordBytes value.raw)
  writeNodes buffer 41 batch.nodes

/-- Packs a request for a mode. -/
def packModes (session : UInt16) (batch : ModeBatch) : Except OutOfRange Bytes := do
  let buffer ← writeHeader (List.replicate actuatingSize 0) session
  let buffer ← writeAt buffer 4 [batch.mode.1]
  let buffer ← writeAt buffer 5 [batch.mode.2]
  writeNodes buffer 6 batch.nodes

/-- Packs a request under a session number. The payloads that are not written field by field are
taken as they are. -/
def pack (session : UInt16) : Request → Except OutOfRange Bytes
  | executeScene scene velocity => do
    let buffer ← writeHeader (List.replicate 6 0) session
    let buffer ← writeAt buffer 4 [scene]
    writeAt buffer 5 [velocity.code]
  | stopScene scene => do
    let buffer ← writeHeader (List.replicate 5 0) session
    writeAt buffer 4 [scene]
  | sendPosition batch => packPositions session batch
  | sendMode batch => packModes session batch
  | setNodeName node name => do
    let buffer ← writeAt (List.replicate (1 + NameField.size) 0) 0 [node]
    writeText buffer 1 NameField.size name.text
  | login password =>
    writeText (List.replicate passwordSize 0) 0 passwordSize password.text
  | request => .ok (request.payload session)

/-! ## What the constructors have checked -/

/-- Instructions that were checked are for parameters that have a value. -/
theorem function_le_of_consistent {earlier instructions : List PositionInstruction}
    (h : PositionInstruction.faultAfter? earlier instructions = none) :
    ∀ instruction ∈ instructions, instruction.function.toNat ≤ functionalParameters := by
  induction instructions generalizing earlier with
  | nil => exact List.forall_mem_nil _
  | cons first rest ih =>
    rw [PositionInstruction.faultAfter?] at h
    split at h
    · cases h
    · rename_i inRange
      split at h
      · cases h
      · exact List.forall_mem_cons.mpr ⟨Nat.not_lt.mp inRange, ih h⟩

theorem length_of_bounded {count : Nat} (h : batchFault? count = none) :
    0 < count ∧ count ≤ maxInstructions := by
  unfold batchFault? at h
  split at h
  · cases h
  · omega

theorem length_eraseDups_le : ∀ nodes : List UInt8, nodes.eraseDups.length ≤ nodes.length
  | [] => Nat.le_refl 0
  | node :: rest => by
    have hrest := length_eraseDups_le (rest.filter fun other => !other == node)
    have hfilter := List.length_filter_le (fun other => !other == node) rest
    rw [List.eraseDups_cons, List.length_cons, List.length_cons]
    omega
  termination_by nodes => nodes.length
  decreasing_by
    have hfilter := List.length_filter_le (fun other => !other == node) rest
    rw [List.length_cons]
    omega

theorem length_nodes_le (batch : PositionBatch) : batch.nodes.length ≤ maxInstructions := by
  have hnodes := length_eraseDups_le (batch.instructions.map (·.node))
  have hbounded := (length_of_bounded batch.bounded).2
  rw [List.length_map] at hnodes
  exact Nat.le_trans hnodes hbounded

/-! ## The values and the indicators -/

/-- The position of a parameter after some instructions: the last one counts. -/
def positionAfter (instructions : List PositionInstruction) (function : Nat) : Position :=
  match (instructions.filter (·.function.toNat = function)).getLast? with
  | some instruction => instruction.position
  | none => .ignore

theorem positionAfter_concat (earlier : List PositionInstruction) (last : PositionInstruction)
    (function : Nat) :
    positionAfter (earlier ++ [last]) function
      = if last.function.toNat = function then last.position
        else positionAfter earlier function := by
  unfold positionAfter
  rw [List.filter_append]
  by_cases hsame : last.function.toNat = function
  · rw [if_pos hsame, List.filter_cons_of_pos (by simpa using hsame), List.filter_nil,
      List.getLast?_concat]
  · rw [if_neg hsame, List.filter_cons_of_neg (by simpa using hsame), List.filter_nil,
      List.append_nil]

/-- An instruction for a parameter that has a value changes this value and no other. -/
theorem writeValue_values {earlier : List PositionInstruction} {last : PositionInstruction}
    (h : last.function.toNat ≤ functionalParameters) :
    writeValue ((List.range (1 + functionalParameters)).map (positionAfter earlier)) last
      = .ok ((List.range (1 + functionalParameters)).map (positionAfter (earlier ++ [last]))) := by
  have hroom : last.function.toNat
      < ((List.range (1 + functionalParameters)).map (positionAfter earlier)).length := by
    rw [List.length_map, List.length_range]
    omega
  rw [writeValue, writeAt_singleton _ hroom]
  refine congrArg Except.ok ?_
  refine List.ext_getElem (by simp) ?_
  intro k hk _
  simp only [List.getElem_set, List.getElem_map, List.getElem_range, positionAfter_concat]

theorem foldlM_writeValue {instructions : List PositionInstruction}
    (h : ∀ instruction ∈ instructions, instruction.function.toNat ≤ functionalParameters)
    (earlier : List PositionInstruction) :
    instructions.foldlM writeValue
        ((List.range (1 + functionalParameters)).map (positionAfter earlier))
      = .ok ((List.range (1 + functionalParameters)).map
          (positionAfter (earlier ++ instructions))) := by
  induction instructions generalizing earlier with
  | nil =>
    rw [List.append_nil]
    rfl
  | cons first rest ih =>
    obtain ⟨hfirst, hrest⟩ := List.forall_mem_cons.mp h
    rw [List.foldlM_cons, writeValue_values hfirst]
    show rest.foldlM writeValue _ = _
    rw [ih hrest, List.append_assoc]
    rfl

theorem place?_lt {function : UInt8} {byte : Nat} {mask : UInt8}
    (h : Indicators.place? function = some (byte, mask)) : byte = 0 ∨ byte = 1 := by
  unfold Indicators.place? functionalParameters at h
  split at h
  · obtain ⟨rfl, -⟩ := Prod.mk.inj (Option.some.inj h)
    omega
  · cases h

/-- Every parameter that has an indicator has it in one of the two bytes. -/
theorem writeIndicator_bytes (indicators : Indicators) (function : UInt8) :
    writeIndicator indicators.bytes function = .ok (indicators.insert function).bytes := by
  unfold writeIndicator Indicators.insert
  cases hplace : Indicators.place? function with
  | none => rfl
  | some place =>
    obtain ⟨byte, mask⟩ := place
    rcases place?_lt hplace with rfl | rfl
    · rfl
    · rfl

theorem foldlM_writeIndicator (functions : List UInt8) (indicators : Indicators) :
    functions.foldlM writeIndicator indicators.bytes
      = .ok (functions.foldl Indicators.insert indicators).bytes := by
  induction functions generalizing indicators with
  | nil => rfl
  | cons first rest ih =>
    rw [List.foldlM_cons, writeIndicator_bytes]
    exact ih _

/-! ## Packing gives the payload -/

theorem writeHeader_blank {size : Nat} (h : 4 ≤ size) (session : UInt16) :
    writeHeader (List.replicate size 0) session = .ok (padded size (sessionHeader session)) := by
  rw [writeHeader, ← padded_nil]
  refine (bind_of_eq_ok (writeAt_padded rfl ?_)).trans ?_
  · simp
    omega
  refine (bind_of_eq_ok (writeAt_padded rfl ?_)).trans ?_
  · simp
    omega
  refine writeAt_padded rfl ?_
  simp
  omega

/-- As many nodes as a request may have are all written. -/
theorem writeNodes_padded {size offset : Nat} {written nodes : Bytes}
    (behind : offset = written.length) (few : nodes.length ≤ maxInstructions)
    (fits : written.length + 1 + nodes.length ≤ size) :
    writeNodes (padded size written) offset nodes
      = .ok (padded size (written ++ [UInt8.ofNat nodes.length] ++ nodes)) := by
  have hcount : min nodes.length maxInstructions = nodes.length := Nat.min_eq_left few
  unfold writeNodes
  rw [hcount]
  refine (bind_of_eq_ok (writeAt_padded behind ?_)).trans ?_
  · rw [List.length_singleton]
    omega
  rw [List.take_length]
  refine writeAt_padded ?_ ?_
  · rw [List.length_append, List.length_singleton, behind]
  · rw [List.length_append, List.length_singleton]
    exact fits

/-- A text that its field holds is written whole. -/
theorem writeText_padded {size offset field : Nat} {written : Bytes} {text : String}
    (behind : offset = written.length) (whole : size = written.length + field)
    (fits : (utf8 text).length ≤ field) :
    writeText (padded size written) offset field text
      = .ok (written ++ padded field (utf8 text)) := by
  subst behind
  unfold writeText
  rw [Nat.min_eq_left fits, List.take_length, writeAt_padded rfl (by omega), padded_append whole]

theorem packPositions_eq (session : UInt16) (batch : PositionBatch) :
    packPositions session batch = .ok (positionPayload session batch) := by
  have hvalues : batch.instructions.foldlM writeValue
      (List.replicate (1 + functionalParameters) .ignore)
        = .ok ((List.range (1 + functionalParameters)).map batch.positionOf) :=
    foldlM_writeValue (function_le_of_consistent batch.consistent) []
  have hindicators : (batch.instructions.map (·.function)).foldlM writeIndicator [0, 0]
      = .ok batch.indicators.bytes := foldlM_writeIndicator _ Indicators.none
  have hfew : batch.nodes.length ≤ 20 := length_nodes_le batch
  have hwords : (((List.range (1 + functionalParameters)).map batch.positionOf).map
      fun value => wordBytes value.raw).flatten
        = (List.range (1 + functionalParameters)).flatMap
            fun function => wordBytes (batch.positionOf function).raw := by
    rw [List.map_map, List.flatMap_def]
    rfl
  have hsize : ((List.range (1 + functionalParameters)).flatMap
      fun function => wordBytes (batch.positionOf function).raw).length = 34 := by
    simp only [List.length_flatMap, length_wordBytes]
    rfl
  unfold packPositions
  refine (bind_of_eq_ok (writeHeader_blank (by decide) session)).trans ?_
  refine (bind_of_eq_ok hvalues).trans ?_
  refine (bind_of_eq_ok hindicators).trans ?_
  refine (bind_of_eq_ok (writeAt_padded rfl ?_)).trans ?_
  · simp [length_sessionHeader, actuatingSize]
  refine (bind_of_eq_ok (writeAt_padded rfl ?_)).trans ?_
  · simp [length_sessionHeader, actuatingSize, Indicators.bytes]
  refine (bind_of_eq_ok (writeParts_padded rfl ?_)).trans ?_
  · rw [hwords, hsize]
    simp [length_sessionHeader, actuatingSize, Indicators.bytes]
  rw [hwords]
  refine (writeNodes_padded ?_ hfew ?_).trans ?_
  · simp [length_sessionHeader, hsize, Indicators.bytes]
  · simp only [List.length_append, length_sessionHeader, hsize, Indicators.bytes, List.length_cons,
      List.length_nil, actuatingSize]
    omega
  refine congrArg Except.ok (padded_append ?_)
  simp [length_sessionHeader, hsize, Indicators.bytes, actuatingSize, maxInstructions]

theorem packModes_eq (session : UInt16) (batch : ModeBatch) :
    packModes session batch = .ok (modePayload session batch) := by
  have hfew : batch.nodes.length ≤ 20 := by
    rw [ModeBatch.nodes, List.length_map]
    exact (length_of_bounded batch.bounded).2
  unfold packModes
  refine (bind_of_eq_ok (writeHeader_blank (by decide) session)).trans ?_
  refine (bind_of_eq_ok (writeAt_padded rfl ?_)).trans ?_
  · simp [length_sessionHeader, actuatingSize]
  refine (bind_of_eq_ok (writeAt_padded rfl ?_)).trans ?_
  · simp [length_sessionHeader, actuatingSize]
  refine (writeNodes_padded rfl hfew ?_).trans ?_
  · simp only [List.length_append, length_sessionHeader, List.length_cons, List.length_nil,
      actuatingSize]
    omega
  refine congrArg Except.ok (padded_append ?_)
  rfl

/-- What is packed is the payload: no write leaves the buffer. -/
theorem pack_eq_payload (session : UInt16) (request : Request) :
    request.pack session = .ok (request.payload session) := by
  cases request with
  | executeScene scene velocity =>
    unfold pack
    refine (bind_of_eq_ok (writeHeader_blank (by decide) session)).trans ?_
    rfl
  | stopScene scene =>
    unfold pack
    refine (bind_of_eq_ok (writeHeader_blank (by decide) session)).trans ?_
    rfl
  | sendPosition batch => exact packPositions_eq session batch
  | sendMode batch => exact packModes_eq session batch
  | setNodeName node name =>
    have hnode : writeAt (padded (1 + NameField.size) []) 0 [node]
        = .ok (padded (1 + NameField.size) [node]) :=
      writeAt_padded rfl (Nat.le_add_right ..)
    rw [padded_nil] at hnode
    exact (bind_of_eq_ok hnode).trans (writeText_padded rfl rfl (of_decide_eq_true name.fits))
  | login password =>
    show writeText (List.replicate passwordSize 0) 0 passwordSize password.text = _
    rw [← padded_nil]
    exact writeText_padded rfl (Nat.zero_add _).symm password.fits
  | _ => rfl

/-- A value of a parameter that the constructor refuses would be written behind the values. -/
example : writeValue (List.replicate (1 + functionalParameters) .ignore) ⟨3, 17, .ignore⟩
    = .error ⟨17, 17⟩ := rfl

end Request

/-! ## Frames -/

namespace Command

variable {command : Command} {frame : Frame}

/-- Packs the payload that asks for the command. -/
def pack (command : Command) : Except OutOfRange Bytes :=
  command.request.pack (command.session?.getD 0)

/-- A frame asks for a command and goes over the wire as it is. -/
structure Travels (command : Command) (frame : Frame) : Prop where
  frame? : command.frame? = .ok frame
  opcode : ∃ opcode, command.descriptor.request? = some opcode ∧ frame.code = opcode.code
  packed : command.pack = .ok frame.payload
  allowed : frame.payload.length ≤ command.descriptor.maxPayload
  fits : frame.payload.length ≤ Frame.maxPayload
  readBack : ∃ wire, frame.encode = .ok wire ∧ Frame.decode wire = .ok frame

theorem pack_eq (command : Command) : command.pack = .ok command.payload :=
  Request.pack_eq_payload _ _

/-- The table of exchanges allows no payload that a frame does not hold. -/
theorem maxPayload_le (kind : CommandKind) : kind.descriptor.maxPayload ≤ Frame.maxPayload := by
  cases kind <;> decide

theorem exists_travels (h : command.kind ≠ .terminate) : ∃ frame, command.Travels frame := by
  obtain ⟨opcode, hopcode, hframe⟩ := frame?_eq_ok h
  have hallowed : command.payload.length ≤ command.descriptor.maxPayload :=
    Request.length_payload_le _ _
  have hfits := Nat.le_trans hallowed (maxPayload_le command.kind)
  obtain ⟨wire, hwire⟩ := (@Frame.exists_encode_iff ⟨opcode.code, command.payload⟩).mpr hfits
  exact ⟨_, hframe, ⟨opcode, hopcode, rfl⟩, command.pack_eq, hallowed, hfits, wire, hwire,
    Frame.decode_encode hwire⟩

theorem frame?_of_terminate (h : command.kind = .terminate) :
    command.frame? = .error (.invalidParameter (.neverSent .terminate)) := by
  rw [frame?, descriptor, h]
  rfl

theorem travels_of_frame? (h : command.frame? = .ok frame) : command.Travels frame := by
  by_cases hkind : command.kind = .terminate
  · rw [frame?_of_terminate hkind] at h
    cases h
  · obtain ⟨other, travels⟩ := exists_travels hkind
    obtain rfl := Except.ok.inj (travels.frame?.symm.trans h)
    exact travels

/-- A command that has no frame has none because nothing is ever sent for it. -/
theorem frame?_ne_size (command : Command) (fault : FrameError) :
    command.frame? ≠ .error (.frame fault) := by
  intro h
  by_cases hkind : command.kind = .terminate
  · rw [frame?_of_terminate hkind] at h
    cases h
  · obtain ⟨frame, travels⟩ := exists_travels hkind
    cases travels.frame?.symm.trans h

end Command

end ShutterGateway
