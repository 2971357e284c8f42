import ShutterGateway.Duration
import ShutterGateway.Number.Binary

/-!
The pace of attempts to reach a gateway again. The wait before an attempt grows by a factor from
attempt to attempt and is capped. It is computed in double precision and rounded to the nearest
nanosecond, which fails for a cap beyond all spans of time.
-/

namespace ShutterGateway

namespace Duration

/-- The span in seconds. -/
def toFloatSeconds (duration : Duration) : Float :=
  (UInt64.ofNat duration.seconds).toFloat + (UInt64.ofNat duration.subsecond).toFloat / 1e9

/-- The span of so many seconds, to the nearest nanosecond. There is none of less than nothing, of
what is no number, and of more seconds than a number of 64 bits can count. -/
def ofFloatSeconds? (seconds : Float) : Option Duration :=
  match Binary.ofFloat? seconds with
  | none => none
  | some binary =>
    if Binary.isNegative seconds ∧ binary.mantissa ≠ 0 then none
    else if Nat.pow 2 64 * binary.denominator ≤ binary.numerator then none
    else some ⟨roundQuotient (binary.numerator * nanosPerSecond) binary.denominator⟩

end Duration

/-- The power of a number, by squaring from the lowest bit of the exponent on. The number of bits
of the exponent is bounded by `fuel`. -/
def powerBySquaring (base : Float) (exponent : Nat) : Float :=
  go 64 1 base exponent
where
  /-- Multiplies the powers of the remaining bits. -/
  go : Nat → Float → Float → Nat → Float
  | 0, product, _, _ => product
  | fuel + 1, product, square, exponent =>
    let product := if exponent % 2 = 1 then product * square else product
    if exponent / 2 = 0 then product else go fuel product (square * square) (exponent / 2)

/-- The smaller of two numbers. What is no number is passed over. -/
def floatMin (x y : Float) : Float :=
  if x.isNaN then y else if y.isNaN then x else if x < y then x else y

/-- The larger of two numbers. What is no number is passed over. -/
def floatMax (x y : Float) : Float :=
  if x.isNaN then y else if y.isNaN then x else if x < y then y else x

/-- The pace of attempts to reach a gateway again. -/
structure Backoff where
  initialDelay : Duration := .ofSeconds 1
  maxDelay : Duration := .ofSeconds 60
  factor : Float := 2
  /-- The number of failures in a row after which the gateway counts as unavailable. -/
  unavailableAfter : Nat := 3

namespace Backoff

/-- The largest exponent of the factor. -/
def maxExponent : Nat := 63

/-- The wait before an attempt. Attempts are counted from one. A wait that is longer than any span
does not exist. -/
def delay? (backoff : Backoff) (attempt : Nat) : Option Duration :=
  let grown :=
    backoff.initialDelay.toFloatSeconds
      * powerBySquaring backoff.factor (min (attempt - 1) maxExponent)
  Duration.ofFloatSeconds? (floatMax (floatMin grown backoff.maxDelay.toFloatSeconds) 0)

/-- For how long an attempt is put off: for its wait, or for the longest span where it has none. -/
def delay (backoff : Backoff) (attempt : Nat) : Duration :=
  (backoff.delay? attempt).getD .longest

end Backoff

end ShutterGateway
