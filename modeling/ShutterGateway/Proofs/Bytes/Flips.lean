import Mathlib.Algebra.BigOperators.Ring.List
import Mathlib.Algebra.Ring.Nat
import Mathlib.Data.List.Nodup
import ShutterGateway.Bytes.Basic

/-!
Flipped bits. The places of the wire are counted bit by bit, with either end of a byte in front.
Places with the same remainder by eight hold the same bit of different bytes and make a column. The
exclusive or of all bytes shows column by column whether an odd number of bits was flipped there,
so that it shows any flips of which some column has an odd number.
-/

namespace ShutterGateway

/-- Which bit of a byte comes first on the wire. -/
inductive BitOrder where
  | highFirst
  | lowFirst
  deriving DecidableEq, Repr

/-- The number that the bit at a place of the wire has in its byte. -/
def BitOrder.number (order : BitOrder) (place : Nat) : Nat :=
  match order with
  | highFirst => 7 - place % 8
  | lowFirst => place % 8

/-- The bit at a place of the wire. -/
def bitAt (order : BitOrder) (bytes : Bytes) (place : Nat) : Bool :=
  (bytes.getD (place / 8) 0).toNat.testBit (order.number place)

/-- The places of the wire where the bit that arrives is not the one that was sent. -/
def flips (order : BitOrder) (sent received : Bytes) : List Nat :=
  (List.range (8 * sent.length)).filter fun place =>
    bitAt order sent place ≠ bitAt order received place

/-- How many of some places are in a column. -/
def inColumn (column : Nat) (places : List Nat) : Nat :=
  places.countP (· % 8 = column)

/-! ## Places -/

theorem BitOrder.number_eq {a b : Nat} (h : a % 8 = b % 8) (order : BitOrder) :
    order.number a = order.number b := by
  simp only [number, h]

theorem xorSum_cons (b : UInt8) (bytes : Bytes) : xorSum (b :: bytes) = b ^^^ xorSum bytes := by
  rw [← List.singleton_append, xorSum_append, xorSum_singleton]

theorem nodup_flips (order : BitOrder) (sent received : Bytes) :
    (flips order sent received).Nodup :=
  List.nodup_range.filter _

/-- The flips of the first byte come before those of the others. -/
theorem flips_cons (order : BitOrder) (a b : UInt8) (sent received : Bytes) :
    flips order (a :: sent) (b :: received)
      = flips order [a] [b] ++ (flips order sent received).map (8 + ·) := by
  have hsize : 8 * (a :: sent).length = 8 + 8 * sent.length := by
    rw [List.length_cons]
    omega
  have hfirst : ∀ (c : UInt8) (rest : Bytes), ∀ place ∈ List.range 8,
      bitAt order (c :: rest) place = bitAt order [c] place := by
    intro c rest place hplace
    have hzero : place / 8 = 0 := Nat.div_eq_of_lt (List.mem_range.mp hplace)
    simp only [bitAt, hzero, List.getD_cons_zero]
  have hothers : ∀ (c : UInt8) (rest : Bytes) (place : Nat),
      bitAt order (c :: rest) (8 + place) = bitAt order rest place := by
    intro c rest place
    have hsucc : (8 + place) / 8 = place / 8 + 1 := by omega
    have hnumber : order.number (8 + place) = order.number place :=
      BitOrder.number_eq (Nat.add_mod_left 8 place) order
    simp only [bitAt, hsucc, hnumber, List.getD_cons_succ]
  have hfront : ∀ place ∈ List.range 8,
      decide (bitAt order (a :: sent) place ≠ bitAt order (b :: received) place)
        = decide (bitAt order [a] place ≠ bitAt order [b] place) := by
    intro place hplace
    rw [hfirst a sent place hplace, hfirst b received place hplace]
  rw [flips, hsize, List.range_add, List.filter_append, List.filter_congr hfront,
    List.filter_map]
  simp only [Function.comp_def, hothers]
  rfl

/-! ## Columns -/

/-- A column holds one place of a byte. -/
theorem inColumn_flips_singleton {column : Nat} (h : column < 8) (order : BitOrder) (a b : UInt8) :
    inColumn column (flips order [a] [b])
      = if a.toNat.testBit (order.number column) ≠ b.toNat.testBit (order.number column)
        then 1 else 0 := by
  have hbit : ∀ c : UInt8, bitAt order [c] column = c.toNat.testBit (order.number column) := by
    intro c
    simp only [bitAt, Nat.div_eq_of_lt h, List.getD_cons_zero]
  have hcolumn : inColumn column (flips order [a] [b]) = (flips order [a] [b]).count column := by
    apply List.countP_congr
    intro place hplace
    have hlt : place < 8 := List.mem_range.mp (List.mem_of_mem_filter hplace)
    simp [Nat.mod_eq_of_lt hlt]
  have hmem : column ∈ flips order [a] [b]
      ↔ a.toNat.testBit (order.number column) ≠ b.toNat.testBit (order.number column) := by
    simp [flips, h, hbit]
  rw [hcolumn]
  split
  · rename_i differ
    exact List.count_eq_one_of_mem (nodup_flips ..) (hmem.mpr differ)
  · rename_i same
    exact List.count_eq_zero_of_not_mem fun member => same (hmem.mp member)

/-- The exclusive or of all bytes changes in a column exactly if an odd number of bits is flipped
there. -/
theorem odd_inColumn_flips_iff {sent received : Bytes} (same : received.length = sent.length)
    {column : Nat} (h : column < 8) (order : BitOrder) :
    inColumn column (flips order sent received) % 2 = 1
      ↔ (xorSum sent).toNat.testBit (order.number column)
        ≠ (xorSum received).toNat.testBit (order.number column) := by
  induction sent generalizing received with
  | nil =>
    obtain rfl := List.length_eq_zero_iff.mp same
    simp [flips, inColumn]
  | cons a sent ih =>
    cases received with
    | nil => cases same
    | cons b received =>
      have hrest := ih (Nat.succ.inj same)
      have hshift : inColumn column ((flips order sent received).map (8 + ·))
          = inColumn column (flips order sent received) := by
        simp only [inColumn, List.countP_map]
        apply List.countP_congr
        intro place _
        simp
      have hsplit : inColumn column (flips order (a :: sent) (b :: received))
          = inColumn column (flips order [a] [b])
            + inColumn column (flips order sent received) := by
        rw [flips_cons, inColumn, List.countP_append, ← inColumn, ← inColumn, hshift]
      rw [hsplit, inColumn_flips_singleton h]
      simp only [xorSum_cons, UInt8.toNat_xor, Nat.testBit_xor]
      generalize inColumn column (flips order sent received) = others at hrest
      -- What is left is the sum of two bits.
      cases a.toNat.testBit (order.number column) <;>
        cases b.toNat.testBit (order.number column) <;>
        cases hx : (xorSum sent).toNat.testBit (order.number column) <;>
        cases hy : (xorSum received).toNat.testBit (order.number column) <;>
        simp [hx, hy] at hrest ⊢ <;> omega

theorem length_eq_columns (places : List Nat) :
    places.length = ((List.range 8).map fun column => inColumn column places).sum := by
  induction places with
  | nil => rfl
  | cons place rest ih =>
    have hcons : ∀ column, inColumn column (place :: rest)
        = inColumn column rest + if place % 8 = column then 1 else 0 := by
      intro column
      simp [inColumn, List.countP_cons]
    have hone : ((List.range 8).map fun column => if place % 8 = column then 1 else 0).sum = 1 := by
      have hlt : place % 8 < 8 := Nat.mod_lt _ (by decide)
      generalize place % 8 = column at hlt
      revert column
      decide
    simp only [hcons, List.sum_map_add, hone, ← ih, List.length_cons]

/-! ## What the exclusive or shows -/

variable {sent received : Bytes}

/-- An odd number of flips changes the exclusive or, for some column has an odd number of them. -/
theorem xorSum_ne_of_odd (same : received.length = sent.length) {order : BitOrder}
    (odd : (flips order sent received).length % 2 = 1) : xorSum received ≠ xorSum sent := by
  intro heq
  have heven : 2 ∣ (flips order sent received).length := by
    rw [length_eq_columns]
    apply List.dvd_sum
    intro count hcount
    obtain ⟨column, hcolumn, rfl⟩ := List.mem_map.mp hcount
    have hiff := odd_inColumn_flips_iff same (List.mem_range.mp hcolumn) order
    rw [heq] at hiff
    simp only [ne_eq, not_true_eq_false, iff_false] at hiff
    omega
  omega

/-- Flips that lie close together are in different columns, so that each of them shows. -/
theorem xorSum_ne_of_burst (same : received.length = sent.length) {order : BitOrder} {start : Nat}
    (some : flips order sent received ≠ [])
    (close : ∀ place ∈ flips order sent received, start ≤ place ∧ place < start + 8) :
    xorSum received ≠ xorSum sent := by
  intro heq
  obtain ⟨place, hplace⟩ := List.exists_mem_of_ne_nil _ some
  have hsole : inColumn (place % 8) (flips order sent received)
      = (flips order sent received).count place := by
    apply List.countP_congr
    intro other hother
    have hnear := close place hplace
    have hnear' := close other hother
    simp only [decide_eq_true_eq, beq_iff_eq]
    omega
  rw [List.count_eq_one_of_mem (nodup_flips ..) hplace] at hsole
  have hodd : inColumn (place % 8) (flips order sent received) % 2 = 1 := by
    rw [hsole]
  rw [odd_inColumn_flips_iff same (Nat.mod_lt _ (by decide)), heq] at hodd
  exact hodd rfl

/-- One byte that is another changes the exclusive or. -/
theorem xorSum_ne_of_byte {before after : Bytes} {old new : UInt8} (differ : new ≠ old) :
    xorSum (before ++ new :: after) ≠ xorSum (before ++ old :: after) := by
  intro heq
  simp only [xorSum_append, xorSum_cons] at heq
  exact differ ((UInt8.xor_left_inj _).mp ((UInt8.xor_right_inj _).mp heq))

end ShutterGateway
