import ShutterGateway.Session

/-!
The numbers of a supply in closed form. The supply starts from one and starts again after the
largest number, so that the number after `n` others is `1 + n % 65535`: none is zero, and a number
comes back after 65535 others and no sooner.
-/

namespace ShutterGateway.SessionSupply

/-- The number that a new supply gives out after so many others. -/
def number (n : Nat) : UInt16 := UInt16.ofNat (1 + n % 65535)

theorem toNat_number (n : Nat) : (number n).toNat = 1 + n % 65535 := by
  have hlt : 1 + n % 65535 < 65536 := by omega
  exact Nat.mod_eq_of_lt hlt

theorem number_ne_zero (n : Nat) : number n ≠ 0 := by
  intro h
  have hzero := congrArg UInt16.toNat h
  rw [toNat_number] at hzero
  exact absurd hzero (by simp)

/-- Numbers that are given out near each other are different. -/
theorem number_ne_number {i j : Nat} (before : i < j) (near : j < i + 65535) :
    number i ≠ number j := by
  intro h
  have hsame := congrArg UInt16.toNat h
  rw [toNat_number, toNat_number] at hsame
  omega

/-! ## One number -/

/-- The number after the largest one is one again, for zero is left out. -/
theorem succ_number (n : Nat) :
    (if number n + 1 = 0 then 1 else number n + 1) = number (n + 1) := by
  have hsucc : (number n + 1).toNat = (1 + n % 65535 + 1) % 65536 := by
    rw [UInt16.toNat_add, toNat_number]
    rfl
  by_cases hlast : n % 65535 = 65534
  · have hzero : number n + 1 = 0 := by
      apply UInt16.toNat_inj.mp
      rw [hsucc, hlast]
      rfl
    rw [if_pos hzero]
    apply UInt16.toNat_inj.mp
    rw [toNat_number]
    show 1 = 1 + (n + 1) % 65535
    omega
  · have hne : number n + 1 ≠ 0 := by
      intro hzero
      have := congrArg UInt16.toNat hzero
      rw [hsucc] at this
      have hnone : (1 + n % 65535 + 1) % 65536 = 0 := this
      omega
    rw [if_neg hne]
    apply UInt16.toNat_inj.mp
    rw [hsucc, toNat_number]
    omega

theorem allocate_number (n : Nat) :
    (SessionSupply.mk (number n)).allocate = (number n, ⟨number (n + 1)⟩) := by
  rw [allocate, succ_number]

/-- A new supply gives out the first number next. -/
theorem eq_number_zero : ({} : SessionSupply) = ⟨number 0⟩ := rfl

end ShutterGateway.SessionSupply
