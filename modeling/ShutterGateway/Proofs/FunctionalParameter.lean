import Mathlib.Data.Nat.Bitwise
import ShutterGateway.FunctionalParameter

/-!
Indicators as a set of parameters. Each of the sixteen functional parameters has a bit of its own,
so that setting the indicator of one leaves the others as they are, and the bits that are set are
those of the parameters in the list, in whatever order and however often they stand there. The
bytes of a list tell which of the sixteen it has, and nothing else about it.
-/

namespace ShutterGateway.Indicators

/-- The bit of the parameter with so many others before it, the most significant bit first. -/
def bit (indicators : Indicators) (n : Nat) : Bool :=
  (indicators.bytes.getD (n / 8) 0).toNat.testBit (7 - n % 8)

theorem toNat_mask : ∀ k < 8, (UInt8.ofNat (128 / Nat.pow 2 k)).toNat = 2 ^ (7 - k) := by
  decide

/-- A mask sets its own bit of a byte and no other. -/
theorem testBit_or_mask (byte : UInt8) {k n : Nat} (hk : k < 8) (hn : n < 8) :
    (byte ||| UInt8.ofNat (128 / Nat.pow 2 k)).toNat.testBit (7 - n)
      = (byte.toNat.testBit (7 - n) || decide (k = n)) := by
  have hsame : 7 - k = 7 - n ↔ k = n := by omega
  rw [UInt8.toNat_or, Nat.testBit_or, toNat_mask k hk, Nat.testBit_two_pow,
    decide_eq_decide.mpr hsame]

/-- A mask shows its own bit of a byte. -/
theorem and_mask_ne_zero (byte : UInt8) {k : Nat} (hk : k < 8) :
    (byte &&& UInt8.ofNat (128 / Nat.pow 2 k) != 0) = byte.toNat.testBit (7 - k) := by
  have hvalue : (byte &&& UInt8.ofNat (128 / Nat.pow 2 k)).toNat
      = (byte.toNat.testBit (7 - k)).toNat * 2 ^ (7 - k) := by
    rw [UInt8.toNat_and, toNat_mask k hk, Nat.and_two_pow]
  rw [Bool.eq_iff_iff, bne_iff_ne, ne_eq, ← UInt8.toNat_inj, hvalue]
  cases byte.toNat.testBit (7 - k) <;> simp

/-- The parameters with a place are numbered from one in the order of their bits. -/
theorem place?_of_number {parameter : UInt8} {k : Nat} (h : k < 16)
    (number : parameter.toNat = k + 1) :
    place? parameter = some (k / 8, UInt8.ofNat (128 / Nat.pow 2 (k % 8))) := by
  rw [place?, number, if_pos ⟨Nat.le_add_left 1 k, h⟩, Nat.add_sub_cancel]

theorem place?_eq_none {parameter : UInt8} (h : ¬ ∃ k < 16, parameter.toNat = k + 1) :
    place? parameter = Option.none := by
  refine if_neg ?_
  rintro ⟨hfirst, hlast⟩
  have hsixteen : parameter.toNat ≤ 16 := hlast
  exact h ⟨parameter.toNat - 1, by omega, by omega⟩

/-- The indicator of a parameter is a bit of one of the two bytes. -/
theorem bytes_insert (indicators : Indicators) {parameter : UInt8} {k : Nat} (h : k < 16)
    (number : parameter.toNat = k + 1) :
    (indicators.insert parameter).bytes
      = indicators.bytes.set (k / 8)
          (indicators.bytes.getD (k / 8) 0 ||| UInt8.ofNat (128 / Nat.pow 2 (k % 8))) := by
  unfold insert
  rw [place?_of_number h number]
  rcases show k / 8 = 0 ∨ k / 8 = 1 by omega with hbyte | hbyte
  · rw [hbyte]
    rfl
  · rw [hbyte]
    rfl

theorem bit_insert (indicators : Indicators) (parameter : UInt8) {n : Nat} (h : n < 16) :
    (indicators.insert parameter).bit n
      = (indicators.bit n || decide (parameter.toNat = n + 1)) := by
  by_cases hplace : ∃ k < 16, parameter.toNat = k + 1
  · obtain ⟨k, hlt, hk⟩ := hplace
    have hlength : indicators.bytes.length = 2 := rfl
    rw [bit, bytes_insert indicators hlt hk, List.getD_eq_getElem?_getD, hk]
    by_cases hbyte : k / 8 = n / 8
    · have hsame : k % 8 = n % 8 ↔ k + 1 = n + 1 := by omega
      rw [hbyte, List.getElem?_set_self (by omega), Option.getD_some,
        testBit_or_mask _ (by omega) (by omega), bit, decide_eq_decide.mpr hsame]
    · have hother : ¬ k + 1 = n + 1 := by omega
      rw [List.getElem?_set_ne hbyte, ← List.getD_eq_getElem?_getD, decide_eq_false hother,
        Bool.or_false, bit]
  · -- A parameter without an indicator changes nothing.
    have hother : ¬ parameter.toNat = n + 1 := fun number => hplace ⟨n, h, number⟩
    rw [insert, place?_eq_none hplace, decide_eq_false hother, Bool.or_false]

theorem bit_foldl_insert (parameters : List UInt8) (indicators : Indicators) {n : Nat}
    (h : n < 16) :
    (parameters.foldl insert indicators).bit n
      ↔ indicators.bit n ∨ ∃ parameter ∈ parameters, parameter.toNat = n + 1 := by
  induction parameters generalizing indicators with
  | nil => simp
  | cons first rest ih =>
    rw [List.foldl_cons, ih, bit_insert indicators first h, Bool.or_eq_true, decide_eq_true_eq,
      or_assoc]
    simp only [List.mem_cons, exists_eq_or_imp]

theorem bit_none (n : Nat) : none.bit n = false := by
  have hzero : (none.bytes.getD (n / 8) 0).toNat = 0 := by
    rw [List.getD_eq_getElem?_getD]
    rcases n / 8 with _ | _ | _ <;> rfl
  rw [bit, hzero, Nat.zero_testBit]

/-- The bits that are set are those of the parameters in the list. -/
theorem bit_ofList (parameters : List UInt8) {n : Nat} (h : n < 16) :
    (ofList parameters).bit n ↔ ∃ parameter ∈ parameters, parameter.toNat = n + 1 := by
  rw [ofList, bit_foldl_insert parameters none h, bit_none]
  simp

/-- A byte is told by its eight bits. -/
theorem byte_eq_of_bits {a b : UInt8}
    (h : ∀ n < 8, a.toNat.testBit (7 - n) = b.toNat.testBit (7 - n)) : a = b := by
  apply UInt8.toNat_inj.mp
  apply Nat.eq_of_testBit_eq
  intro i
  by_cases hi : i < 8
  · have hbit := h (7 - i) (by omega)
    rwa [show 7 - (7 - i) = i by omega] at hbit
  · have hlarge : 2 ^ 8 ≤ 2 ^ i := Nat.pow_le_pow_right (by decide) (by omega)
    rw [Nat.testBit_lt_two_pow (Nat.lt_of_lt_of_le a.toNat_lt hlarge),
      Nat.testBit_lt_two_pow (Nat.lt_of_lt_of_le b.toNat_lt hlarge)]

theorem eq_of_bits {a b : Indicators} (h : ∀ n < 16, a.bit n = b.bit n) : a = b := by
  have hfirst : a.first = b.first := by
    refine byte_eq_of_bits fun n hn => ?_
    have hbit := h n (by omega)
    rwa [bit, bit, Nat.div_eq_of_lt hn, Nat.mod_eq_of_lt hn] at hbit
  have hsecond : a.second = b.second := by
    refine byte_eq_of_bits fun n hn => ?_
    have hbit := h (8 + n) (by omega)
    rwa [bit, bit, show (8 + n) / 8 = 1 by omega, show (8 + n) % 8 = n by omega] at hbit
  cases a
  cases b
  cases hfirst
  cases hsecond
  rfl

/-! ## Indicators as a set -/

theorem contains_of_number (indicators : Indicators) {parameter : UInt8} {k : Nat} (h : k < 16)
    (number : parameter.toNat = k + 1) : indicators.contains parameter = indicators.bit k := by
  unfold contains
  rw [place?_of_number h number, bit, ← and_mask_ne_zero _ (Nat.mod_lt k (by decide))]
  rcases show k / 8 = 0 ∨ k / 8 = 1 by omega with hbyte | hbyte
  · rw [hbyte]
    rfl
  · rw [hbyte]
    rfl

/-- The parameters that have a bit. -/
theorem exists_number_iff (parameter : UInt8) :
    (∃ k < 16, parameter.toNat = k + 1) ↔ 1 ≤ parameter ∧ parameter ≤ 16 := by
  rw [UInt8.le_iff_toNat_le, UInt8.le_iff_toNat_le]
  show _ ↔ 1 ≤ parameter.toNat ∧ parameter.toNat ≤ 16
  constructor
  · rintro ⟨k, hk, number⟩
    omega
  · rintro ⟨hfirst, hlast⟩
    exact ⟨parameter.toNat - 1, by omega, by omega⟩

/-- A parameter is contained by its bit, and so never without one. -/
theorem contains_iff (indicators : Indicators) (parameter : UInt8) :
    indicators.contains parameter ↔ ∃ k < 16, parameter.toNat = k + 1 ∧ indicators.bit k := by
  by_cases hplace : ∃ k < 16, parameter.toNat = k + 1
  · obtain ⟨k, hk, number⟩ := hplace
    rw [contains_of_number indicators hk number]
    constructor
    · intro hbit
      exact ⟨k, hk, number, hbit⟩
    · rintro ⟨n, -, other, hbit⟩
      obtain rfl : n = k := Nat.succ.inj (other.symm.trans number)
      exact hbit
  · unfold contains
    rw [place?_eq_none hplace]
    constructor
    · intro hfalse
      cases hfalse
    · rintro ⟨k, hk, number, -⟩
      exact absurd ⟨k, hk, number⟩ hplace

theorem contains_insert (indicators : Indicators) (parameter n : UInt8) :
    (indicators.insert parameter).contains n
      ↔ indicators.contains n ∨ n = parameter ∧ 1 ≤ n ∧ n ≤ 16 := by
  rw [contains_iff, contains_iff, ← exists_number_iff]
  constructor
  · rintro ⟨k, hk, number, hbit⟩
    rw [bit_insert indicators parameter hk, Bool.or_eq_true, decide_eq_true_eq] at hbit
    rcases hbit with hold | hnew
    · exact .inl ⟨k, hk, number, hold⟩
    · exact .inr ⟨UInt8.toNat_inj.mp (number.trans hnew.symm), k, hk, number⟩
  · rintro (⟨k, hk, number, hold⟩ | ⟨rfl, k, hk, number⟩)
    · refine ⟨k, hk, number, ?_⟩
      rw [bit_insert indicators parameter hk, hold, Bool.true_or]
    · refine ⟨k, hk, number, ?_⟩
      rw [bit_insert indicators n hk, decide_eq_true number, Bool.or_true]

theorem contains_ofList (parameters : List UInt8) (n : UInt8) :
    (ofList parameters).contains n ↔ n ∈ parameters ∧ 1 ≤ n ∧ n ≤ 16 := by
  rw [contains_iff, ← exists_number_iff]
  constructor
  · rintro ⟨k, hk, number, hbit⟩
    obtain ⟨parameter, member, same⟩ := (bit_ofList parameters hk).mp hbit
    obtain rfl : parameter = n := UInt8.toNat_inj.mp (same.trans number.symm)
    exact ⟨member, k, hk, number⟩
  · rintro ⟨member, k, hk, number⟩
    exact ⟨k, hk, number, (bit_ofList parameters hk).mpr ⟨n, member, number⟩⟩

/-- Indicators are told by the parameters they contain, for every bit is that of a parameter. -/
theorem eq_of_contains {a b : Indicators} (h : ∀ n, a.contains n ↔ b.contains n) : a = b := by
  refine eq_of_bits fun k hk => Bool.eq_iff_iff.mpr ?_
  have number : (UInt8.ofNat (k + 1)).toNat = k + 1 :=
    Nat.mod_eq_of_lt (Nat.lt_of_lt_of_le (Nat.succ_lt_succ hk) (by decide))
  rw [← contains_of_number a hk number, ← contains_of_number b hk number]
  exact h _

theorem bytes_inj {a b : Indicators} : a.bytes = b.bytes ↔ a = b := by
  constructor
  · intro same
    cases a
    cases b
    cases same
    rfl
  · intro same
    rw [same]

theorem ofList_eq_iff (parameters others : List UInt8) :
    ofList parameters = ofList others
      ↔ ∀ n, 1 ≤ n → n ≤ 16 → (n ∈ parameters ↔ n ∈ others) := by
  constructor
  · intro same n hfirst hlast
    have hcontains := contains_ofList parameters n
    rw [same, contains_ofList others n] at hcontains
    simpa [hfirst, hlast] using hcontains.symm
  · intro same
    refine eq_of_contains fun n => ?_
    rw [contains_ofList, contains_ofList]
    exact and_congr_left fun hrange => same n hrange.1 hrange.2

/-- Neither the order of the parameters nor how often they are repeated counts. -/
theorem ofList_congr {parameters others : List UInt8}
    (h : ∀ parameter, parameter ∈ parameters ↔ parameter ∈ others) :
    ofList parameters = ofList others :=
  (ofList_eq_iff parameters others).mpr fun parameter _ _ => h parameter

/-- **Indicators encode the set of the parameters that are set.** The indicators of a list contain
the parameters from one to sixteen that stand in the list, and no others. So neither the order of
the list nor a repetition counts, and two lists have the same bytes if and only if they have the
same parameters from one to sixteen. Whatever is set already, setting one more indicator sets that
one, if the parameter has one, and leaves all others as they are. -/
theorem indicators_encode_members (parameters others : List UInt8) :
    (∀ n, (ofList parameters).contains n ↔ n ∈ parameters ∧ 1 ≤ n ∧ n ≤ 16)
      ∧ ((∀ n, n ∈ parameters ↔ n ∈ others) → (ofList parameters).bytes = (ofList others).bytes)
      ∧ ((ofList parameters).bytes = (ofList others).bytes
          ↔ ∀ n, 1 ≤ n → n ≤ 16 → (n ∈ parameters ↔ n ∈ others))
      ∧ (∀ (indicators : Indicators) (parameter n : UInt8),
          (indicators.insert parameter).contains n
            ↔ indicators.contains n ∨ n = parameter ∧ 1 ≤ n ∧ n ≤ 16) := by
  refine ⟨contains_ofList parameters, ?_, ?_, contains_insert⟩
  · intro same
    rw [ofList_congr same]
  · rw [bytes_inj, ofList_eq_iff]

/-- Out of order, repeated and with a parameter beside it that has no indicator. -/
theorem indicators_encode_members_of_repeated :
    (∀ n : UInt8, n ∈ [16, 3, 200, 3] ↔ n ∈ [3, 200, 16])
      ∧ (ofList [16, 3, 200, 3]).bytes = (ofList [3, 200, 16]).bytes
      ∧ (ofList [16, 3, 200, 3]).contains 3 :=
  have same : ∀ n : UInt8, n ∈ [16, 3, 200, 3] ↔ n ∈ [3, 200, 16] := by
    intro n
    grind
  have members := indicators_encode_members [16, 3, 200, 3] [3, 200, 16]
  ⟨same, members.2.1 same, (members.1 3).mpr (by decide)⟩

end ShutterGateway.Indicators
