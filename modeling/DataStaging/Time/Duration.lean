/-!
# Spans of time

A span is a number of nanoseconds. Its short text uses the largest of s, ms, µs and ns whose whole
part is not zero, with the fraction's trailing zeros cut.
-/

namespace DataStaging

/-- A span of time in nanoseconds. -/
structure Duration where
  nanos : Nat
deriving DecidableEq, Repr, Inhabited

namespace Duration

def ofSeconds (n : Nat) : Duration := ⟨n * 1000000000⟩

def ofMillis (n : Nat) : Duration := ⟨n * 1000000⟩

def ofMicros (n : Nat) : Duration := ⟨n * 1000⟩

/-- Whole microseconds, rounded down. -/
def micros (d : Duration) : Nat := d.nanos / 1000

/-- Whole seconds, rounded down. -/
def seconds (d : Duration) : Nat := d.nanos / 1000000000

/-- The nanoseconds past the last whole second. -/
def subsecond (d : Duration) : Nat := d.nanos % 1000000000

/-- The decimal digits of `value` in exactly `places` places, most significant first. -/
def placeDigits (value : Nat) : Nat → List Nat
  | 0 => []
  | places + 1 => placeDigits (value / 10) places ++ [value % 10]

/-- The digits after the point for `value` units of `10 ^ -places`, without trailing zeros. -/
def fractionDigits (value places : Nat) : List Nat :=
  ((placeDigits value places).reverse.dropWhile (· == 0)).reverse

/-- A whole part, a fraction of `places` places and a unit, such as `1.5ms`. -/
def decimalText (whole fraction places : Nat) (unit : String) : String :=
  let digits := fractionDigits fraction places
  if digits.isEmpty then toString whole ++ unit
  else toString whole ++ "." ++ String.join (digits.map toString) ++ unit

/-- The short text of a span: `0ns`, `1.5ms`, `250ms`, `1.05s`, `600s`. -/
def text (d : Duration) : String :=
  if 0 < d.seconds then decimalText d.seconds d.subsecond 9 "s"
  else if 1000000 ≤ d.nanos then decimalText (d.nanos / 1000000) (d.nanos % 1000000) 6 "ms"
  else if 1000 ≤ d.nanos then decimalText (d.nanos / 1000) (d.nanos % 1000) 3 "µs"
  else decimalText d.nanos 0 0 "ns"

end Duration

end DataStaging
