import Mathlib.Data.List.TakeWhile
import ShutterGateway.Text.Name

/-!
Names in their fields. A zero byte is written for the character zero and for no other, so that a
name ends, for whoever reads its field, at the first such character or where the zeros begin that
fill up the field. A name without the character that is short enough for the field is read back
from it.
-/

namespace ShutterGateway

namespace Utf8

theorem ofNat_ne_zero {n : Nat} (hpos : 0 < n) (hlt : n < 256) : (0 : UInt8) ≠ UInt8.ofNat n := by
  intro h
  have hn := congrArg UInt8.toNat h
  rw [UInt8.toNat_ofNat_of_lt' hlt] at hn
  exact absurd hn.symm (Nat.ne_of_gt hpos)

/-- Every byte of more than one has its highest bit set, and a single one is the character. -/
theorem zero_notMem_encodeChar {c : Char} (h : c ≠ '\x00') :
    (0 : UInt8) ∉ String.utf8EncodeChar c := by
  have hcode : 0 < c.val.toNat := by
    refine Nat.pos_of_ne_zero fun hzero => h (Char.ext (UInt32.toNat_inj.mp hzero))
  simp only [String.utf8EncodeChar]
  split
  · simpa using ofNat_ne_zero hcode (by omega)
  · have hlow : ∀ a : Nat, (0 : UInt8) ≠ UInt8.ofNat (a % 64 + 128) :=
      fun a => ofNat_ne_zero (by omega) (by omega)
    split
    · have hlead := ofNat_ne_zero (n := c.val.toNat / 64 % 32 + 192) (by omega) (by omega)
      simp only [List.mem_cons, List.not_mem_nil, or_false, not_or]
      exact ⟨hlead, hlow _⟩
    · split
      · have hlead := ofNat_ne_zero (n := c.val.toNat / 4096 % 16 + 224) (by omega) (by omega)
        simp only [List.mem_cons, List.not_mem_nil, or_false, not_or]
        exact ⟨hlead, hlow _, hlow _⟩
      · have hlead := ofNat_ne_zero (n := c.val.toNat / 262144 % 8 + 240) (by omega) (by omega)
        simp only [List.mem_cons, List.not_mem_nil, or_false, not_or]
        exact ⟨hlead, hlow _, hlow _, hlow _⟩

/-- Bytes that are filled up with zeros reach up to the first character zero. -/
theorem takeWhile_zeros (chars : List Char) (count : Nat) :
    (chars.flatMap String.utf8EncodeChar ++ List.replicate count 0).takeWhile (· ≠ (0 : UInt8))
      = (chars.takeWhile (· ≠ '\x00')).flatMap String.utf8EncodeChar := by
  induction chars with
  | nil => cases count <;> simp [List.replicate_succ]
  | cons c chars ih =>
    rw [List.flatMap_cons, List.append_assoc]
    by_cases hzero : c = '\x00'
    · subst hzero
      rfl
    · have hbytes : ∀ b ∈ String.utf8EncodeChar c, b ≠ 0 := by
        intro b hb heq
        exact zero_notMem_encodeChar hzero (heq ▸ hb)
      rw [List.takeWhile_append_of_pos fun b hb => by simpa using hbytes b hb, ih,
        List.takeWhile_cons_of_pos (by simpa using hzero), List.flatMap_cons]

end Utf8

namespace NameField

/-- What a name has to be like for its field to keep it: short enough, and without the character
that a field is filled up with. -/
structure Keeps (name : String) : Prop where
  holds : holds name
  clean : '\x00' ∉ name.toList

@[simp] theorem length_encode (name : String) : (encode name).length = size :=
  length_padded _ _

/-- The characters of a name before the first one that a field is filled up with. -/
def upToZero (name : String) : String :=
  String.ofList (name.toList.takeWhile (· ≠ '\x00'))

/-- What is read back of a name that its field has room for. -/
theorem decode_encode {name : String} (fits : holds name) :
    decode (encode name) = upToZero name := by
  have hsize : (utf8 name).length ≤ size := of_decide_eq_true fits
  have hname : utf8 (upToZero name)
      = (name.toList.takeWhile (· ≠ '\x00')).flatMap String.utf8EncodeChar := by
    rw [utf8, upToZero, String.toList_ofList]
  rw [decode, encode, padded, List.take_of_length_le hsize, utf8, Utf8.takeWhile_zeros, ← hname,
    Utf8.decode_utf8]

theorem upToZero_eq_iff {name : String} : upToZero name = name ↔ '\x00' ∉ name.toList := by
  rw [← String.toList_inj, upToZero, String.toList_ofList, List.takeWhile_eq_self_iff]
  simp only [decide_eq_true_eq]
  exact ⟨fun h hzero => h _ hzero rfl, fun h c hc => ne_of_mem_of_not_mem hc h⟩

/-- A name that its field keeps is read back. -/
theorem Keeps.decode_encode {name : String} (h : Keeps name) : decode (encode name) = name := by
  rw [NameField.decode_encode h.holds]
  exact upToZero_eq_iff.mpr h.clean

end NameField

end ShutterGateway
