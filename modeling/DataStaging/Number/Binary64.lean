/-!
# Exact values of doubles

A finite double is `± mantissa · 2 ^ exponent`. Comparisons and roundings of such values are done on
whole numbers, by moving every negative power to the other side.
-/

namespace DataStaging

/-- How an exact half is rounded. -/
inductive Tie
  | toEven
  | up
deriving DecidableEq, Repr

/-- `num / den` rounded to the nearest whole number. -/
def roundDiv (num den : Nat) (tie : Tie) : Nat :=
  let q := num / den
  let r := num % den
  if 2 * r < den then q
  else if den < 2 * r then q + 1
  else match tie with
    | .up => q + 1
    | .toEven => if q % 2 = 0 then q else q + 1

/-- A positive rational scale: `num / den`. -/
structure Scale where
  num : Nat
  den : Nat
deriving DecidableEq, Repr

namespace Scale

/-- `base ^ exponent`. -/
def power (base : Nat) (exponent : Int) : Scale :=
  if 0 ≤ exponent then ⟨Nat.pow base exponent.toNat, 1⟩ else ⟨1, Nat.pow base (-exponent).toNat⟩

end Scale

/-- A finite double as `± mantissa · 2 ^ exponent`. -/
structure Binary64 where
  negative : Bool
  mantissa : Nat
  exponent : Int
deriving DecidableEq, Repr

namespace Binary64

/-- The first bit of a mantissa, which is not stored; 52 bits follow it. -/
def hiddenBit : Nat := 4503599627370496

/-- The bit of the sign, before 11 bits of exponent and 52 of mantissa. -/
def signBit : Nat := 2048 * hiddenBit

/-- The exact value of the double with these bits, if it is finite. -/
def ofBits? (bits : UInt64) : Option Binary64 :=
  let raw := bits.toNat
  let negative := signBit ≤ raw
  let biased : Nat := raw / hiddenBit % 2048
  let fraction : Nat := raw % hiddenBit
  if biased = 2047 then none
  else if biased = 0 then some ⟨negative, fraction, -1074⟩
  else some ⟨negative, hiddenBit + fraction, (biased : Int) - 1075⟩

def ofFloat? (x : Float) : Option Binary64 := ofBits? x.toBits

/-- The size of the value times `scale`, rounded to a whole number. -/
def timesRounded (x : Binary64) (scale : Nat) (tie : Tie) : Nat :=
  let s := Scale.power 2 x.exponent
  roundDiv (x.mantissa * s.num * scale) s.den tie

/-- The size of the value written with one digit after the point; an exact half goes to the even
    digit. -/
def tenthsText (x : Binary64) : String :=
  let tenths := x.timesRounded 10 .toEven
  (if x.negative then "-" else "") ++ toString (tenths / 10) ++ "." ++ toString (tenths % 10)

end Binary64

end DataStaging
