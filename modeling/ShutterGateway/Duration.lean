/-!
Spans of time, in whole nanoseconds, and their text in the largest unit that keeps them above
one: `600s`, `1.5s`, `100ms`.
-/

namespace ShutterGateway

/-- A span of time. -/
structure Duration where
  nanos : Nat
  deriving DecidableEq, Repr, Inhabited

namespace Duration

/-- The nanoseconds of a second. -/
def nanosPerSecond : Nat := 1000000000

/-- The nanoseconds of a millisecond. -/
def nanosPerMilli : Nat := 1000000

/-- No time. -/
def zero : Duration := ⟨0⟩

/-- The longest span: its seconds are a number of 64 bits. -/
def longest : Duration := ⟨Nat.pow 2 64 * nanosPerSecond - 1⟩

/-- So many seconds. -/
def ofSeconds (seconds : Nat) : Duration := ⟨seconds * nanosPerSecond⟩

/-- So many milliseconds. -/
def ofMillis (millis : Nat) : Duration := ⟨millis * nanosPerMilli⟩

/-- The whole seconds. -/
def seconds (duration : Duration) : Nat := duration.nanos / nanosPerSecond

/-- The nanoseconds beyond the whole seconds. -/
def subsecond (duration : Duration) : Nat := duration.nanos % nanosPerSecond

/-- The fourth part, to a whole nanosecond below. -/
def quarter (duration : Duration) : Duration := ⟨duration.nanos / 4⟩

/-- Both spans, one after the other. -/
def add (a b : Duration) : Duration := ⟨a.nanos + b.nanos⟩

/-- The digits of a fraction whose last digit is not zero. -/
def fractionDigits (width n : Nat) : List Char :=
  let digits := Nat.toDigits 10 n
  let filled := List.replicate (width - digits.length) '0' ++ digits
  (filled.reverse.dropWhile (· = '0')).reverse

/-- A count of a unit that has `10 ^ places` nanoseconds, with as many places as it needs. -/
def inUnit (nanos places : Nat) (unit : String) : String :=
  let fraction := nanos % Nat.pow 10 places
  toString (nanos / Nat.pow 10 places)
    ++ (if fraction = 0 then "" else "." ++ String.ofList (fractionDigits places fraction)) ++ unit

/-- The text of a span in its largest unit. -/
def text (duration : Duration) : String :=
  let nanos := duration.nanos
  if nanosPerSecond ≤ nanos then inUnit nanos 9 "s"
  else if nanosPerMilli ≤ nanos then inUnit nanos 6 "ms"
  else if 1000 ≤ nanos then inUnit nanos 3 "µs"
  else inUnit nanos 0 "ns"

end Duration

end ShutterGateway
