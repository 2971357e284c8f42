import ShutterGateway.Proofs.Bytes.Field
import ShutterGateway.Proofs.Command.Verdict
import ShutterGateway.Proofs.Text.Name

/-!
What a description says. Every field of a node stands at an offset of its own, so that a node which
fits its description is read back from it, and only the bytes of these fields count: neither what
follows the description, nor what follows the end of the name in its field, nor the aliases that are
not given.
-/

namespace ShutterGateway

namespace Node

/-- What a node has to be like for a description to hold it. A value with a number is the one that
is read for the number. -/
structure Fits (node : Node) : Prop where
  name : NameField.Keeps node.name
  velocity : ∃ number, node.velocity = .ofCode number
  /-- The type has ten bits of its field, the subtype six. -/
  type : ∃ number : UInt16, number.toNat < 1024 ∧ node.type = .ofCode number
  subtype : node.subtype.toNat < 64
  variation : ∃ number, node.variation = .ofCode number
  powerMode : ∃ number, node.powerMode = .ofCode number
  serialNumber : node.serialNumber.length = 8
  state : ∃ number, node.state = .ofCode number
  functionalPositions : node.functionalPositions.length = 4
  /-- The zero says that no command was given. -/
  lastCommand : node.lastCommand? ≠ some 0
  aliases : node.aliases.length ≤ maxAliases

/-- A payload that describes a node: what stands at which offset. Bytes that are in none of these
places, such as those behind the end of the name, may be any. -/
structure Describes (payload : Bytes) (node : Node) : Prop where
  long : payloadSize ≤ payload.length
  id : fieldAt payload 0 1 = [node.id]
  order : fieldAt payload 1 2 = wordBytes node.order
  placement : fieldAt payload 3 1 = [node.placement]
  name : (fieldAt payload 4 NameField.size).takeWhile (· ≠ 0) = utf8 node.name
  velocity : fieldAt payload 68 1 = [node.velocity.code]
  type : fieldAt payload 69 2 = wordBytes (NodeType.join node.type.code node.subtype)
  productGroup : fieldAt payload 71 1 = [node.productGroup]
  productType : fieldAt payload 72 1 = [node.productType]
  variation : fieldAt payload 73 1 = [node.variation.code]
  powerMode : fieldAt payload 74 1 = [node.powerMode.code]
  buildNumber : fieldAt payload 75 1 = [node.buildNumber]
  serialNumber : fieldAt payload 76 8 = node.serialNumber
  state : fieldAt payload 84 1 = [node.state.code]
  position : fieldAt payload 85 2 = wordBytes node.position.raw
  target : fieldAt payload 87 2 = wordBytes node.target.raw
  functionalPositions : fieldAt payload 89 8
    = node.functionalPositions.flatMap fun position => wordBytes position.raw
  remainingTime : fieldAt payload 97 2 = wordBytes node.remainingTime
  lastCommand : fieldAt payload 99 4 = longBytes (node.lastCommand?.getD 0)
  count : fieldAt payload 103 1 = [UInt8.ofNat node.aliases.length]
  aliases : fieldAt payload 104 (4 * node.aliases.length) = aliasBytes node.aliases

/-! ## Writing -/

theorem length_aliasBytes (aliases : List Alias) :
    (aliasBytes aliases).length = 4 * aliases.length := by
  induction aliases with
  | nil => rfl
  | cons entry aliases ih =>
    rw [aliasBytes, List.flatMap_cons, ← aliasBytes, List.length_append, ih, List.length_cons,
      Nat.mul_add_one, Nat.add_comm]
    rfl

theorem length_positionBytes (positions : List Position) :
    (positions.flatMap fun position => wordBytes position.raw).length = 2 * positions.length := by
  induction positions with
  | nil => rfl
  | cons position positions ih =>
    rw [List.flatMap_cons, List.length_append, ih, List.length_cons, Nat.mul_add_one, Nat.add_comm]
    rfl

section

variable {node : Node} (fits : Fits node)

include fits

theorem length_functionalPositions :
    (node.functionalPositions.flatMap fun position => wordBytes position.raw).length = 8 := by
  rw [length_positionBytes, fits.functionalPositions]

theorem length_payload : node.payload.length = payloadSize := by
  simp only [payload, List.length_append, List.length_cons, List.length_nil, length_wordBytes,
    length_longBytes, length_padded, NameField.length_encode, fits.serialNumber,
    length_functionalPositions fits]
  rfl

/-- The text of the name reaches up to the zeros that its field is filled up with. -/
theorem takeWhile_nameField :
    (NameField.encode node.name).takeWhile (· ≠ 0) = utf8 node.name := by
  have hsize : (utf8 node.name).length ≤ NameField.size := of_decide_eq_true fits.name.holds
  have hclean : node.name.toList.takeWhile (· ≠ '\x00') = node.name.toList := by
    simpa [NameField.upToZero] using congrArg String.toList
      (NameField.upToZero_eq_iff.mpr fits.name.clean)
  rw [NameField.encode, padded, List.take_of_length_le hsize, utf8, Utf8.takeWhile_zeros, hclean]

/-- The payload of a node describes it, whatever follows. The fields are cut off the front one
after another. -/
theorem describes_payload (more : Bytes) : Describes (node.payload ++ more) node := by
  have rest : fieldAt (node.payload ++ more) 0 124 = node.payload :=
    fieldAt_front (length_payload fits)
  have long : payloadSize ≤ (node.payload ++ more).length := by
    rw [List.length_append, length_payload fits]
    exact Nat.le_add_right _ _
  generalize node.payload ++ more = whole at rest long ⊢
  simp only [payload, List.append_assoc] at rest
  obtain ⟨id, rest⟩ := fieldAt_split 1 123 rfl rest
  obtain ⟨order, rest⟩ := fieldAt_split 2 121 rfl rest
  obtain ⟨placement, rest⟩ := fieldAt_split 1 120 rfl rest
  obtain ⟨name, rest⟩ := fieldAt_split 64 56 (NameField.length_encode _) rest
  obtain ⟨velocity, rest⟩ := fieldAt_split 1 55 rfl rest
  obtain ⟨type, rest⟩ := fieldAt_split 2 53 rfl rest
  obtain ⟨build, rest⟩ := fieldAt_split 5 48 rfl rest
  obtain ⟨productGroup, build⟩ := fieldAt_cons build
  obtain ⟨productType, build⟩ := fieldAt_cons build
  obtain ⟨variation, build⟩ := fieldAt_cons build
  obtain ⟨powerMode, buildNumber⟩ := fieldAt_cons build
  obtain ⟨serialNumber, rest⟩ := fieldAt_split 8 40 fits.serialNumber rest
  obtain ⟨state, rest⟩ := fieldAt_split 1 39 rfl rest
  obtain ⟨position, rest⟩ := fieldAt_split 2 37 rfl rest
  obtain ⟨target, rest⟩ := fieldAt_split 2 35 rfl rest
  obtain ⟨functionalPositions, rest⟩ := fieldAt_split 8 27 (length_functionalPositions fits) rest
  obtain ⟨remainingTime, rest⟩ := fieldAt_split 2 25 rfl rest
  obtain ⟨lastCommand, rest⟩ := fieldAt_split 4 21 rfl rest
  obtain ⟨count, aliases⟩ := fieldAt_cons rest
  refine ⟨long, id, order, placement, ?name, velocity, type, productGroup, productType, variation,
    powerMode, buildNumber, serialNumber, state, position, target, functionalPositions,
    remainingTime, lastCommand, count, ?aliases⟩
  case name => exact (congrArg _ name).trans (takeWhile_nameField fits)
  case aliases =>
    have hroom : 4 * node.aliases.length + (20 - 4 * node.aliases.length) = 20 := by
      have hmax : node.aliases.length ≤ 5 := fits.aliases
      omega
    have hlength := length_aliasBytes node.aliases
    rw [padded, List.take_of_length_le (by rw [hlength]; unfold maxAliases; omega)] at aliases
    exact (fieldAt_split _ _ hlength ((congrArg _ hroom).trans aliases)).1

end

/-! ## Reading -/

variable {payload : Bytes} {offset : Nat}

theorem readPositions_of_fieldAt {positions : List Position}
    (h : fieldAt payload offset (2 * positions.length)
      = positions.flatMap fun position => wordBytes position.raw) :
    (readPositions payload offset positions.length : Id (List Position)) = positions := by
  induction positions generalizing offset with
  | nil => rfl
  | cons position positions ih =>
    rw [List.length_cons, Nat.mul_add_one, Nat.add_comm] at h
    obtain ⟨first, others⟩ := fieldAt_split _ _ (length_wordBytes _) h
    rw [List.length_cons, readPositions, wordAt_of_fieldAt first, ih others]
    rfl

theorem readAliases_of_fieldAt {aliases : List Alias}
    (h : fieldAt payload offset (4 * aliases.length) = aliasBytes aliases) :
    (readAliases payload offset aliases.length : Id (List Alias)) = aliases := by
  induction aliases generalizing offset with
  | nil => rfl
  | cons entry aliases ih =>
    rw [List.length_cons, Nat.mul_add_one, Nat.add_comm] at h
    obtain ⟨first, others⟩ := fieldAt_split 4 (4 * aliases.length) rfl h
    obtain ⟨type, value⟩ := fieldAt_split 2 2 (length_wordBytes _) first
    rw [List.length_cons, readAliases, wordAt_of_fieldAt type, wordAt_of_fieldAt value, ih others]
    rfl

namespace Fits

variable {node : Node} (fits : Fits node)

include fits

theorem velocity_eq : Velocity.ofCode node.velocity.code = node.velocity := by
  obtain ⟨number, h⟩ := fits.velocity
  rw [h, Velocity.code_ofCode]

/-- The type and the subtype share a field, and each has room in it. -/
theorem split_join :
    NodeType.split (NodeType.join node.type.code node.subtype)
      = (node.type.code, node.subtype) := by
  obtain ⟨number, small, h⟩ := fits.type
  rw [NodeType.split_join, h, NodeType.code_ofCode, Nat.mod_eq_of_lt small,
    Nat.mod_eq_of_lt fits.subtype, UInt16.ofNat_toNat, UInt8.ofNat_toNat]

theorem type_eq : NodeType.ofCode node.type.code = node.type := by
  obtain ⟨number, -, h⟩ := fits.type
  rw [h, NodeType.code_ofCode]

theorem variation_eq : NodeVariation.ofCode node.variation.code = node.variation := by
  obtain ⟨number, h⟩ := fits.variation
  rw [h, NodeVariation.code_ofCode]

theorem powerMode_eq : PowerMode.ofCode node.powerMode.code = node.powerMode := by
  obtain ⟨number, h⟩ := fits.powerMode
  rw [h, PowerMode.code_ofCode]

theorem state_eq : NodeState.ofCode node.state.code = node.state := by
  obtain ⟨number, h⟩ := fits.state
  rw [h, NodeState.code_ofCode]

theorem lastCommand_eq :
    (if node.lastCommand?.getD 0 = 0 then none else some (node.lastCommand?.getD 0))
      = node.lastCommand? := by
  have hzero := fits.lastCommand
  cases hlast : node.lastCommand? with
  | none => rfl
  | some time =>
    rw [hlast] at hzero
    rw [Option.getD_some, if_neg fun h => hzero (congrArg some h)]

/-- The number of aliases that is read is the number that there are. -/
theorem count_eq :
    min (UInt8.ofNat node.aliases.length).toNat maxAliases = node.aliases.length := by
  have hmax : node.aliases.length ≤ 5 := fits.aliases
  rw [UInt8.toNat_ofNat', maxAliases]
  omega

end Fits

/-- A node that fits is read from any payload that describes it. -/
theorem Describes.parse? {node : Node} (describes : Describes payload node) (fits : Fits node) :
    Node.parse? payload = some node := by
  have hname : (sliceAt payload 4 NameField.size : Id Bytes) = fieldAt payload 4 NameField.size :=
    sliceAt_eq (Nat.le_trans (by decide) describes.long)
  have hserial : (sliceAt payload 76 8 : Id Bytes) = node.serialNumber :=
    (sliceAt_eq (Nat.le_trans (by decide) describes.long)).trans describes.serialNumber
  have hpositions : (readPositions payload 89 4 : Id (List Position))
      = node.functionalPositions := by
    rw [← fits.functionalPositions]
    refine readPositions_of_fieldAt ?_
    rw [fits.functionalPositions]
    exact describes.functionalPositions
  have hdecode : NameField.decode (fieldAt payload 4 NameField.size) = node.name := by
    rw [NameField.decode, describes.name, Utf8.decode_utf8]
  unfold Node.parse? read
  rw [if_neg (Nat.not_lt.mpr describes.long)]
  -- Plain reading has no effects: the reads stand in the record that is returned.
  show some _ = some _
  simp only [byteAt_of_fieldAt describes.id, wordAt_of_fieldAt describes.order,
    byteAt_of_fieldAt describes.placement, hname, hdecode, byteAt_of_fieldAt describes.velocity,
    fits.velocity_eq, wordAt_of_fieldAt describes.type, fits.split_join, fits.type_eq,
    byteAt_of_fieldAt describes.productGroup, byteAt_of_fieldAt describes.productType,
    byteAt_of_fieldAt describes.variation, fits.variation_eq,
    byteAt_of_fieldAt describes.powerMode, fits.powerMode_eq,
    byteAt_of_fieldAt describes.buildNumber, hserial, byteAt_of_fieldAt describes.state,
    fits.state_eq, wordAt_of_fieldAt describes.position, wordAt_of_fieldAt describes.target,
    hpositions, wordAt_of_fieldAt describes.remainingTime,
    longAt_of_fieldAt describes.lastCommand, fits.lastCommand_eq,
    byteAt_of_fieldAt describes.count, fits.count_eq, readAliases_of_fieldAt describes.aliases]

/-! ## What counts -/

/-- The byte at an offset is part of a field. -/
structure Counts (payload : Bytes) (offset : Nat) : Prop where
  inside : offset < payloadSize
  /-- A name ends at its first zero. -/
  name : 4 ≤ offset → offset < 4 + NameField.size → 0 ∉ fieldAt payload 4 (offset - 4)
  /-- As many aliases count as are given and there is room for. -/
  aliases : 104 ≤ offset → offset < 104 + 4 * min (Id.run (byteAt payload 103)).toNat maxAliases

/-- Two lists that agree up to where a condition first fails. -/
theorem takeWhile_congr {α : Type} {keep : α → Bool} {a b : List α}
    (same : ∀ i, (∀ x ∈ a.take i, keep x) → a[i]? = b[i]?) :
    a.takeWhile keep = b.takeWhile keep := by
  induction a generalizing b with
  | nil =>
    have hfirst := same 0 nofun
    rw [List.getElem?_nil, eq_comm, List.getElem?_eq_none_iff] at hfirst
    rw [List.eq_nil_of_length_eq_zero (Nat.le_zero.mp hfirst)]
  | cons x a ih =>
    have hfirst := same 0 nofun
    cases b with
    | nil => cases hfirst
    | cons y b =>
      obtain rfl : x = y := Option.some.inj hfirst
      by_cases hx : keep x
      · rw [List.takeWhile_cons_of_pos hx, List.takeWhile_cons_of_pos hx]
        congr 1
        refine ih fun i hbefore => same (i + 1) ?_
        rw [List.take_succ_cons]
        exact List.forall_mem_cons.mpr ⟨hx, hbefore⟩
      · rw [List.takeWhile_cons_of_neg hx, List.takeWhile_cons_of_neg hx]

section

variable {other : Bytes} {count : Nat}
  (same : ∀ offset, Counts payload offset → payload[offset]? = other[offset]?)

include same

theorem byteAt_of_counts (counts : Counts payload offset) :
    (byteAt payload offset : Id UInt8) = byteAt other offset := by
  show payload.getD offset 0 = other.getD offset 0
  rw [List.getD_eq_getElem?_getD, same offset counts, List.getD_eq_getElem?_getD]

/-- Beside the name and the aliases every byte counts. -/
theorem byteAt_of_same (beside : offset < 4 ∨ 68 ≤ offset ∧ offset < 104) :
    (byteAt payload offset : Id UInt8) = byteAt other offset :=
  byteAt_of_counts same
    { inside := by unfold payloadSize; omega
      name := fun low high => by unfold NameField.size at high; omega
      aliases := fun low => by omega }

theorem wordAt_of_same (beside : offset + 1 < 4 ∨ 68 ≤ offset ∧ offset + 1 < 104) :
    (wordAt payload offset : Id UInt16) = wordAt other offset := by
  unfold wordAt
  rw [byteAt_of_same same (by omega), byteAt_of_same same (by omega)]

theorem longAt_of_same (low : 68 ≤ offset) (high : offset + 3 < 104) :
    (longAt payload offset : Id UInt32) = longAt other offset := by
  unfold longAt
  simp (disch := omega) only [byteAt_of_same same]

theorem sliceAt_of_same (low : 68 ≤ offset) (high : offset + count ≤ 104) :
    (sliceAt payload offset count : Id Bytes) = sliceAt other offset count := by
  induction count generalizing offset with
  | zero => rfl
  | succ count ih =>
    unfold sliceAt
    rw [byteAt_of_same same (by omega), ih (by omega) (by omega)]

theorem readPositions_of_same (low : 68 ≤ offset) (high : offset + 2 * count ≤ 104) :
    (readPositions payload offset count : Id (List Position))
      = readPositions other offset count := by
  induction count generalizing offset with
  | zero => rfl
  | succ count ih =>
    unfold readPositions
    rw [wordAt_of_same same (by omega), ih (by omega) (by omega)]

/-- The bytes of the aliases that are given count. -/
theorem readAliases_of_same (low : 104 ≤ offset)
    (high : offset + 4 * count ≤ 104 + 4 * min (Id.run (byteAt payload 103)).toNat maxAliases) :
    (readAliases payload offset count : Id (List Alias)) = readAliases other offset count := by
  have hbyte : ∀ place, 104 ≤ place → place < offset + 4 * count →
      (byteAt payload place : Id UInt8) = byteAt other place := by
    intro place hlow hhigh
    have hroom : min (Id.run (byteAt payload 103)).toNat maxAliases ≤ 5 := Nat.min_le_right _ _
    exact byteAt_of_counts same
      { inside := by unfold payloadSize; omega
        name := fun _ h => by unfold NameField.size at h; omega
        aliases := fun _ => by omega }
  induction count generalizing offset with
  | zero => rfl
  | succ count ih =>
    unfold readAliases wordAt
    rw [hbyte _ (by omega) (by omega), hbyte _ (by omega) (by omega), hbyte _ (by omega) (by omega),
      hbyte _ (by omega) (by omega), ih (by omega) (by omega) fun place hlow hhigh =>
        hbyte place hlow (by omega)]

/-- The bytes of the name up to its end count. -/
theorem decode_of_same : NameField.decode (fieldAt payload 4 NameField.size)
    = NameField.decode (fieldAt other 4 NameField.size) := by
  unfold NameField.decode
  rw [takeWhile_congr]
  intro i hbefore
  simp only [fieldAt, List.getElem?_take, List.getElem?_drop]
  split
  · rename_i small
    refine same _ ⟨?_, fun _ _ => ?_, fun high => ?_⟩
    · unfold NameField.size at small
      unfold payloadSize
      omega
    · rw [Nat.add_sub_cancel_left]
      intro hzero
      rw [fieldAt, List.take_take, Nat.min_eq_left (Nat.le_of_lt small)] at hbefore
      exact absurd (hbefore 0 hzero) (by decide)
    · unfold NameField.size at small
      omega
  · rfl

/-- Payloads that agree in the bytes that count describe the same node. -/
theorem parse?_congr (long : payloadSize ≤ payload.length) (long' : payloadSize ≤ other.length) :
    parse? payload = parse? other := by
  have hname : (sliceAt payload 4 NameField.size : Id Bytes) = fieldAt payload 4 NameField.size :=
    sliceAt_eq (Nat.le_trans (by decide) long)
  have hname' : (sliceAt other 4 NameField.size : Id Bytes) = fieldAt other 4 NameField.size :=
    sliceAt_eq (Nat.le_trans (by decide) long')
  unfold parse? read
  rw [if_neg (Nat.not_lt.mpr long), if_neg (Nat.not_lt.mpr long')]
  show some _ = some _
  simp (disch := omega) only [hname, hname', decode_of_same same, byteAt_of_same same,
    wordAt_of_same same, longAt_of_same same, sliceAt_of_same same, readPositions_of_same same]
  rw [readAliases_of_same same (Nat.le_refl 104)]
  have hcount : (byteAt payload 103 : Id UInt8) = byteAt other 103 :=
    byteAt_of_same same (by omega)
  rw [hcount]
  exact Nat.le_refl _

end

/-- **A description says its node, and nothing else counts.**

* A payload can be read exactly if it has the 124 bytes of a description.
* The payload of a node that fits has 124 bytes and each field at its offset. With any bytes after
  them it is read as exactly this node.
* So is every payload that has the fields of such a node at their offsets, whatever stands in the
  other places.
* Two payloads that agree in the bytes that count are read alike. No byte counts beyond the
  description, none of a name after its first zero, and none of an alias beyond the number that is
  given or beyond the fifth. -/
theorem description_says_its_node :
    (∀ payload, (∃ node, parse? payload = some node) ↔ payloadSize ≤ payload.length)
    ∧ (∀ node, Fits node → node.payload.length = payloadSize
        ∧ ∀ more, Describes (node.payload ++ more) node
          ∧ parse? (node.payload ++ more) = some node)
    ∧ (∀ payload node, Fits node → Describes payload node → parse? payload = some node)
    ∧ ∀ payload other, (payloadSize ≤ payload.length ↔ payloadSize ≤ other.length) →
        (∀ offset, Counts payload offset → payload[offset]? = other[offset]?) →
        parse? payload = parse? other := by
  refine ⟨?_, ?_, ?_, ?_⟩
  · intro payload
    rw [← Option.ne_none_iff_exists', Ne, parse?_eq_none_iff, Nat.not_lt]
  · intro node fits
    refine ⟨length_payload fits, fun more => ?_⟩
    have describes := describes_payload fits more
    exact ⟨describes, describes.parse? fits⟩
  · exact fun payload node fits describes => describes.parse? fits
  · intro payload other sizes same
    by_cases long : payloadSize ≤ payload.length
    · exact parse?_congr same long (sizes.mp long)
    · rw [parse?_eq_none_iff.mpr (Nat.not_le.mp long),
        parse?_eq_none_iff.mpr (Nat.not_le.mp fun h => long (sizes.mpr h))]

/-- A window whose type has no name, with the largest numbers that fit, read from a payload with
other bytes behind the name, in the places of the missing aliases and after the end. -/
theorem description_says_its_node_among_other_bytes :
    let node : Node :=
      { id := 199, order := 65535, placement := 255, name := "Büro", velocity := .notAvailable
        type := .unknown 1023, subtype := 63, productGroup := 1, productType := 2
        variation := .unknown 9, powerMode := .lowPower, buildNumber := 7
        serialNumber := [1, 2, 3, 4, 5, 6, 7, 8], state := .done, position := ⟨0xc800⟩
        target := ⟨0xf7ff⟩, functionalPositions := [⟨1⟩, ⟨256⟩, ⟨0xf7ff⟩, ⟨0⟩]
        remainingTime := 300, lastCommand? := some 0xffffffff, aliases := [⟨0xd803, 0xba00⟩] }
    let payload := node.payload.take 20 ++ [0xff, 0x41] ++ (node.payload.drop 22).take 86
      ++ List.replicate 16 0xee ++ [1, 2, 3]
    Fits node ∧ Describes payload node ∧ payload.length = 127 ∧ payload.take 124 ≠ node.payload
      ∧ parse? payload = some node := by
  intro node payload
  have fits : Fits node :=
    { name := ⟨by decide +kernel, by decide +kernel⟩
      velocity := ⟨255, rfl⟩
      type := ⟨1023, by decide, rfl⟩
      subtype := by decide
      variation := ⟨9, rfl⟩
      powerMode := ⟨1, rfl⟩
      serialNumber := rfl
      state := ⟨5, rfl⟩
      functionalPositions := rfl
      lastCommand := by decide
      aliases := by decide }
  have describes : Describes payload node := by constructor <;> decide +kernel
  exact ⟨fits, describes, by decide +kernel, by decide +kernel,
    description_says_its_node.2.2.1 payload node fits describes⟩

end Node

end ShutterGateway
