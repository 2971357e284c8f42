import ShutterGateway.Command.Basic
import ShutterGateway.Node.Basic
import ShutterGateway.Proofs.Frame.Leading
import ShutterGateway.Proofs.Text.Name

/-!
Renaming a node. The request for a new name ends with the field that the name has in the description
of the node. In the description it changes the name and nothing else, and the name that is read is
the one that was asked for, up to the first character that ends a field.
-/

namespace ShutterGateway

namespace Node

/-- A description with another field in the place of the name. -/
def withNameField (description field : Bytes) : Bytes :=
  description.take 4 ++ field ++ description.drop (4 + NameField.size)

/-- What stands before the name. -/
theorem length_take_name {description : Bytes} (long : payloadSize ≤ description.length) :
    (description.take 4).length = 4 := by
  unfold payloadSize at long
  rw [List.length_take]
  omega

section

variable {description field : Bytes} (long : payloadSize ≤ description.length)
  (whole : field.length = NameField.size) {offset count : Nat}

include long whole

/-! ## Reading beside and inside the name -/

theorem length_withNameField :
    (withNameField description field).length = description.length := by
  unfold payloadSize at long
  unfold NameField.size at whole
  simp only [withNameField, NameField.size, List.length_append, List.length_take,
    List.length_drop, whole]
  omega

/-- Beside the name the description is the same. -/
theorem byteAt_withNameField (beside : offset < 4 ∨ 4 + NameField.size ≤ offset) :
    (byteAt (withNameField description field) offset : Id UInt8) = byteAt description offset := by
  have htake := length_take_name long
  show (withNameField description field).getD offset 0 = description.getD offset 0
  simp only [List.getD_eq_getElem?_getD, withNameField]
  congr 1
  rcases beside with before | behind
  · rw [List.append_assoc, List.getElem?_append_left (by omega), List.getElem?_take_of_lt before]
  · have hfront : (description.take 4 ++ field).length = 4 + NameField.size := by
      rw [List.length_append, htake, whole]
    rw [List.getElem?_append_right (by omega), List.getElem?_drop, hfront]
    congr 1
    omega

theorem wordAt_withNameField (beside : offset + 1 < 4 ∨ 4 + NameField.size ≤ offset) :
    (wordAt (withNameField description field) offset : Id UInt16)
      = wordAt description offset := by
  unfold wordAt
  rw [byteAt_withNameField long whole (by omega), byteAt_withNameField long whole (by omega)]

theorem longAt_withNameField (behind : 4 + NameField.size ≤ offset) :
    (longAt (withNameField description field) offset : Id UInt32)
      = longAt description offset := by
  unfold longAt
  simp (disch := omega) only [byteAt_withNameField long whole]

theorem sliceAt_withNameField (behind : 4 + NameField.size ≤ offset) :
    (sliceAt (withNameField description field) offset count : Id Bytes)
      = sliceAt description offset count := by
  induction count generalizing offset with
  | zero => rfl
  | succ count ih =>
    unfold sliceAt
    rw [byteAt_withNameField long whole (by omega), ih (by omega)]

theorem readPositions_withNameField (behind : 4 + NameField.size ≤ offset) :
    (readPositions (withNameField description field) offset count : Id (List Position))
      = readPositions description offset count := by
  induction count generalizing offset with
  | zero => rfl
  | succ count ih =>
    unfold readPositions
    rw [wordAt_withNameField long whole (by omega), ih (by omega)]

theorem readAliases_withNameField (behind : 4 + NameField.size ≤ offset) :
    (readAliases (withNameField description field) offset count : Id (List Alias))
      = readAliases description offset count := by
  induction count generalizing offset with
  | zero => rfl
  | succ count ih =>
    unfold readAliases
    rw [wordAt_withNameField long whole (by omega), wordAt_withNameField long whole (by omega),
      ih (by omega)]

/-- In the place of the name stands the field. -/
theorem sliceAt_name :
    (sliceAt (withNameField description field) 4 NameField.size : Id Bytes) = field := by
  have htake := length_take_name long
  have inside : 4 + NameField.size ≤ (withNameField description field).length := by
    rw [length_withNameField long whole]
    exact Nat.le_trans (by decide) long
  rw [sliceAt_eq inside, withNameField, List.append_assoc, List.drop_left' htake,
    List.take_left' whole]

end

/-- Another field in the place of the name changes the name and nothing else. -/
theorem parse?_withNameField {description field : Bytes} {node : Node}
    (described : parse? description = some node) (whole : field.length = NameField.size) :
    parse? (withNameField description field)
      = some { node with name := NameField.decode field } := by
  unfold parse? read at described ⊢
  split at described
  · cases described
  · rename_i enough
    have long : payloadSize ≤ description.length := Nat.not_lt.mp enough
    rw [length_withNameField long whole, if_neg enough]
    obtain rfl := Option.some.inj described
    simp (disch := simp only [NameField.size] <;> omega) only [byteAt_withNameField long whole,
      wordAt_withNameField long whole, longAt_withNameField long whole, sliceAt_name long whole,
      sliceAt_withNameField long whole, readPositions_withNameField long whole,
      readAliases_withNameField long whole]
    rfl

end Node

namespace Command

theorem setNodeName?_of_holds (node : UInt8) {text : String} (fits : NameField.holds text) :
    setNodeName? node text = .ok { request := .setNodeName node ⟨text, fits⟩ } := by
  unfold setNodeName? NodeName.ofText?
  rw [dif_pos fits]

/-- A name is accepted only if its field has room for it. -/
theorem setNodeName?_eq_ok {node : UInt8} {text : String} {command : Command}
    (made : setNodeName? node text = .ok command) :
    NameField.holds text ∧ command.payload = node :: NameField.encode text := by
  by_cases fits : NameField.holds text
  · rw [setNodeName?_of_holds node fits] at made
    obtain rfl := Except.ok.inj made
    exact ⟨fits, rfl⟩
  · unfold setNodeName? NodeName.ofText? at made
    rw [dif_neg fits] at made
    cases made

/-- **A name survives being given exactly if it does not have the character that ends a field.**
The field that a request for a new name holds, put into the description of a node, changes the name
and nothing else. The name that is read then reaches up to the first character zero of the one that
was asked for, so that a name without this character is read as it is. -/
theorem name_survives_iff {id : UInt8} {text : String} {command : Command} {description : Bytes}
    {node : Node} (made : setNodeName? id text = .ok command)
    (described : Node.parse? description = some node) :
    command.payload.length = 1 + NameField.size
      ∧ ∃ renamed, Node.parse? (Node.withNameField description
          ((command.payload.drop 1).take NameField.size)) = some renamed
        ∧ renamed = { node with name := NameField.upToZero text }
        ∧ (renamed.name = text ↔ '\x00' ∉ text.toList) := by
  obtain ⟨fits, hpayload⟩ := setNodeName?_eq_ok made
  have hlength := NameField.length_encode text
  have hfield : (command.payload.drop 1).take NameField.size = NameField.encode text := by
    rw [hpayload, List.drop_one, List.tail_cons, ← hlength, List.take_length]
  refine ⟨?_, { node with name := NameField.upToZero text }, ?_, rfl, NameField.upToZero_eq_iff⟩
  · rw [hpayload, List.length_cons, hlength, Nat.add_comm]
  · rw [hfield, Node.parse?_withNameField described hlength, NameField.decode_encode fits]

/-- A name of 64 bytes, two for each character, fills its field and is read as it is. -/
theorem name_survives_in_full_field :
    let text := String.ofList (List.replicate 32 'é')
    let description : Bytes := List.replicate Node.payloadSize 0
    ∃ command node renamed, setNodeName? 3 text = .ok command
      ∧ Node.parse? description = some node
      ∧ Node.parse? (Node.withNameField description
          ((command.payload.drop 1).take NameField.size)) = some renamed
      ∧ renamed.name = text ∧ (utf8 text).length = NameField.size := by
  intro text description
  have made := setNodeName?_of_holds 3 (show NameField.holds text by decide +kernel)
  obtain ⟨node, described⟩ : ∃ node, Node.parse? description = some node :=
    Option.isSome_iff_exists.mp (by decide +kernel)
  obtain ⟨-, renamed, parsed, -, survives⟩ := name_survives_iff made described
  exact ⟨_, node, renamed, made, described, parsed, survives.mpr (by decide +kernel),
    by decide +kernel⟩

/-- A name with the character zero in it is accepted, and is read as what stands before that. -/
theorem name_with_zero_is_cut :
    let text := "a\x00b"
    let description : Bytes := List.replicate Node.payloadSize 0
    ∃ command, setNodeName? 3 text = .ok command
      ∧ (Node.parse? (Node.withNameField description
          ((command.payload.drop 1).take NameField.size))).map Node.name = some "a"
      ∧ "a" ≠ text := by
  intro text description
  have made := setNodeName?_of_holds 3 (show NameField.holds text by decide +kernel)
  exact ⟨_, made, by decide +kernel, by decide +kernel⟩

end Command

end ShutterGateway
