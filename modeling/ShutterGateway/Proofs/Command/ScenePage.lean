import ShutterGateway.Proofs.Command.Verdict
import ShutterGateway.Proofs.Frame.Leading
import ShutterGateway.Proofs.Text.Name

/-!
Parts of the list of scenes. A part is the number of its entries, the entries, and the number of
scenes that are still to come; an entry is the number of a scene and the field of its name. Reading
a part at its offsets is the same as taking one entry after another off its front, and gives all of
the entries or none. What is written is read back.
-/

namespace ShutterGateway

namespace Scene

/-- The scene at the front of the bytes, and the bytes behind it. -/
def front? : Bytes → Option (Scene × Bytes)
  | [] => none
  | id :: rest =>
    if NameField.size ≤ rest.length then
      some (⟨id, NameField.decode (rest.take NameField.size)⟩, rest.drop NameField.size)
    else none

/-- So many scenes at the front of the bytes, and the bytes behind them. -/
def fronts? : Nat → Bytes → Option (List Scene × Bytes)
  | 0, bytes => some ([], bytes)
  | count + 1, bytes =>
    match front? bytes with
    | none => none
    | some (scene, rest) => (fronts? count rest).map fun (scenes, tail) => (scene :: scenes, tail)

/-- The scenes in a part of the list, and how many are still to come. Bytes behind are ignored. -/
def page? : Bytes → Option (List Scene × UInt8)
  | [] => none
  | count :: entries =>
    match fronts? count.toNat entries with
    | some (scenes, remaining :: _) => some (scenes, remaining)
    | _ => none

/-- The bytes that a part of the list has to have. -/
def pageSize : Bytes → Nat
  | [] => 1
  | count :: _ => 2 + count.toNat * entrySize

/-- The bytes of a scene in a list. -/
def entry (scene : Scene) : Bytes :=
  scene.id :: NameField.encode scene.name

/-- The bytes of a part of the list. -/
def page (scenes : List Scene) (remaining : UInt8) : Bytes :=
  UInt8.ofNat scenes.length :: scenes.flatMap entry ++ [remaining]

/-! ## Reading at offsets -/

theorem front?_of_le {bytes : Bytes} {offset : Nat} (h : offset + entrySize ≤ bytes.length) :
    front? (bytes.drop offset)
      = some (⟨bytes.getD offset 0, NameField.decode
          (sliceAt bytes (offset + 1) NameField.size : Id Bytes)⟩,
        bytes.drop (offset + entrySize)) := by
  rw [entrySize, ← Nat.add_assoc] at h ⊢
  have hoffset : offset < bytes.length := by omega
  have hid : bytes.getD offset 0 = bytes[offset] := by simp [hoffset]
  rw [List.drop_eq_getElem_cons hoffset, front?, if_pos (by rw [List.length_drop]; omega),
    sliceAt_eq h, List.drop_drop, hid]

theorem front?_of_lt {bytes : Bytes} (h : bytes.length < entrySize) : front? bytes = none := by
  cases bytes with
  | nil => rfl
  | cons id rest =>
    rw [entrySize, List.length_cons] at h
    rw [front?, if_neg (by omega)]

theorem fronts?_of_le {bytes : Bytes} {offset count : Nat}
    (h : offset + count * entrySize ≤ bytes.length) :
    fronts? count (bytes.drop offset)
      = some (Id.run (Findings.readScenes bytes offset count),
        bytes.drop (offset + count * entrySize)) := by
  induction count generalizing offset with
  | zero =>
    rw [Nat.zero_mul]
    rfl
  | succ count ih =>
    rw [Nat.succ_mul, Nat.add_comm (count * _), ← Nat.add_assoc] at h ⊢
    simp only [fronts?, front?_of_le (show offset + entrySize ≤ bytes.length by omega), ih h]
    rfl

theorem fronts?_of_lt {bytes : Bytes} {count : Nat} (h : bytes.length < count * entrySize) :
    fronts? count bytes = none := by
  induction count generalizing bytes with
  | zero => omega
  | succ count ih =>
    rw [Nat.succ_mul] at h
    by_cases hfront : bytes.length < entrySize
    · simp only [fronts?, front?_of_lt hfront]
    · have hle : 0 + entrySize ≤ bytes.length := by omega
      have hrest : (bytes.drop entrySize).length < count * entrySize := by
        rw [List.length_drop]
        omega
      have hnone := ih hrest
      have hsome := front?_of_le hle
      simp only [List.drop_zero, Nat.zero_add] at hsome
      simp only [fronts?, hsome, hnone, Option.map_none]

theorem page?_of_le {count : UInt8} {entries : Bytes}
    (h : pageSize (count :: entries) ≤ (count :: entries).length) :
    page? (count :: entries)
      = some (Id.run (Findings.readScenes (count :: entries) 1 count.toNat),
        (count :: entries).getD (1 + count.toNat * entrySize) 0) := by
  rw [pageSize] at h
  have hlast : 1 + count.toNat * entrySize < (count :: entries).length := by omega
  have hfronts := fronts?_of_le (show 1 + count.toNat * entrySize ≤ _ from Nat.le_of_lt hlast)
  rw [List.drop_eq_getElem_cons hlast, List.drop_one, List.tail_cons] at hfronts
  simp only [page?, hfronts, List.getD_eq_getElem?_getD, List.getElem?_eq_getElem hlast,
    Option.getD_some]

/-- Of a part of the list that is too short nothing is read. -/
theorem page?_of_lt {payload : Bytes} (h : payload.length < pageSize payload) :
    page? payload = none := by
  match payload with
  | [] => rfl
  | count :: entries =>
    rw [pageSize, List.length_cons] at h
    by_cases hentries : entries.length < count.toNat * entrySize
    · simp only [page?, fronts?_of_lt hentries]
    · -- The entries are all there, and only the last byte is missing.
      have hle : 0 + count.toNat * entrySize ≤ entries.length := by omega
      have hfronts := fronts?_of_le hle
      rw [List.drop_zero, List.drop_of_length_le (by omega)] at hfronts
      simp only [page?, hfronts]

theorem page?_eq_none_iff {payload : Bytes} :
    page? payload = none ↔ payload.length < pageSize payload := by
  refine ⟨fun h => Nat.lt_of_not_le fun enough => ?_, page?_of_lt⟩
  match payload with
  | [] => exact absurd enough (by decide)
  | count :: entries => cases h.symm.trans (page?_of_le enough)

/-- A part of the list adds all of its scenes, or none if it is too short. -/
theorem run_readSceneList (findings : Findings) (opcode : Opcode) (payload : Bytes) :
    Id.run (findings.readSceneList opcode payload) =
      match page? payload with
      | some (scenes, remaining) =>
        ({ findings with scenes := findings.scenes ++ scenes },
          if remaining = 0 then .done else .more)
      | none => (findings,
          .failed (.protocol (.shortPayload opcode payload.length (pageSize payload)))) := by
  match payload with
  | [] => rfl
  | count :: entries =>
    have hread : Id.run (findings.readSceneList opcode (count :: entries))
        = Id.run (findings.requiring opcode (count :: entries) (pageSize (count :: entries)) _) :=
      (Findings.run_requiring ..).trans (if_neg (by simp))
    rw [hread, Findings.run_requiring]
    split
    · rename_i short
      rw [page?_of_lt short]
    · rename_i enough
      rw [page?_of_le (Nat.le_of_not_lt enough)]
      rfl

/-! ## What is written is read back -/

theorem front?_entry {scene : Scene} (keeps : NameField.Keeps scene.name) (rest : Bytes) :
    front? (scene.entry ++ rest) = some (scene, rest) := by
  have hlength : (NameField.encode scene.name).length = NameField.size :=
    NameField.length_encode scene.name
  rw [entry, List.cons_append, front?, if_pos (by simp), List.take_left' hlength,
    List.drop_left' hlength, keeps.decode_encode]

theorem fronts?_entries {scenes : List Scene} (keeps : ∀ scene ∈ scenes, NameField.Keeps scene.name)
    (rest : Bytes) :
    fronts? scenes.length (scenes.flatMap entry ++ rest) = some (scenes, rest) := by
  induction scenes with
  | nil => rfl
  | cons scene scenes ih =>
    simp only [List.forall_mem_cons] at keeps
    rw [List.length_cons, List.flatMap_cons, List.append_assoc]
    simp only [fronts?, front?_entry keeps.1, ih keeps.2, Option.map_some]

/-- A part of the list of at most 255 scenes is read back, whatever bytes stand behind it. -/
theorem page?_page {scenes : List Scene} (few : scenes.length ≤ 255)
    (keeps : ∀ scene ∈ scenes, NameField.Keeps scene.name) (remaining : UInt8) (rest : Bytes) :
    page? (page scenes remaining ++ rest) = some (scenes, remaining) := by
  have hcount : (UInt8.ofNat scenes.length).toNat = scenes.length :=
    UInt8.toNat_ofNat_of_lt' (Nat.lt_succ_of_le few)
  simp only [page, List.cons_append, List.append_assoc, List.nil_append, page?, hcount,
    fronts?_entries keeps]

end Scene

end ShutterGateway
