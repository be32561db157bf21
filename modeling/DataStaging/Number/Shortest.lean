import DataStaging.Number.Binary64

/-!
# The shortest decimal that reads back

Of all decimals that round to a given double, the one with the fewest digits, and of these the
nearest to the double's exact value. The number of digits is tried from one to seventeen; on each
grid only the two neighbours of the value can be nearest.

The layout of such a decimal (where the positional form ends, how an exponent is written) is a
`FloatLayout`.
-/

namespace DataStaging

/-- `digits · 10 ^ exponent`. -/
structure Decimal where
  digits : Nat
  exponent : Int
deriving DecidableEq, Repr

namespace Shortest

/-- The number of decimal digits of a positive number. -/
def digitCount (n : Nat) : Nat := (Nat.toDigits 10 n).length

/-- Four times the mantissa, so that both ends of the rounding interval are whole. -/
def centre (x : Binary64) : Nat := 4 * x.mantissa

/-- The upper end of the interval of reals that round to `x`, in quarters of its last place. -/
def upper (x : Binary64) : Nat := 4 * x.mantissa + 2

/-- The lower end; it is nearer when `x` is a power of two, where the spacing below halves. -/
def lower (x : Binary64) : Nat :=
  if x.mantissa = Binary64.hiddenBit ∧ -1074 < x.exponent then 4 * x.mantissa - 1
  else 4 * x.mantissa - 2

/-- Whether `c · 10 ^ t` rounds to `x`; the ends of the interval belong to an even mantissa. -/
def readsBack (x : Binary64) (c : Nat) (t : Int) : Bool :=
  let two := Scale.power 2 (x.exponent - 2)
  let ten := Scale.power 10 t
  let value := c * ten.num * two.den
  let low := lower x * two.num * ten.den
  let high := upper x * two.num * ten.den
  if x.mantissa % 2 = 0 then low ≤ value && value ≤ high else low < value && value < high

/-- The whole number of steps of `10 ^ t` below `x`, and twice what is left over with the step it
    is measured against. -/
def below (x : Binary64) (t : Int) : Nat × Nat × Nat :=
  let two := Scale.power 2 (x.exponent - 2)
  let ten := Scale.power 10 t
  let value := centre x * two.num * ten.den
  let step := ten.num * two.den
  (value / step, 2 * (value % step), step)

/-- The nearest decimal on the grid of `10 ^ t` that reads back, if either neighbour does. -/
def onGrid? (x : Binary64) (t : Int) : Option Decimal :=
  let (c, twice, step) := below x t
  match 0 < c && readsBack x c t, readsBack x (c + 1) t with
  | true, true =>
    if twice < step || (twice = step && c % 2 = 0) then some ⟨c, t⟩ else some ⟨c + 1, t⟩
  | true, false => some ⟨c, t⟩
  | false, true => some ⟨c + 1, t⟩
  | false, false => none

/-- The decimal exponent `k` with `10 ^ (k - 1) ≤ x < 10 ^ k`. -/
def magnitude (x : Binary64) : Int :=
  let two := Scale.power 2 x.exponent
  let whole := x.mantissa * two.num / two.den
  if 0 < whole then digitCount whole
  else
    -- below one: the digit count of the reciprocal, rounded down, bounds the answer to two values
    let k : Int := 1 - (digitCount (two.den / (x.mantissa * two.num)) : Int)
    let ten := Scale.power 10 k
    if ten.num * two.den ≤ x.mantissa * two.num * ten.den then k + 1 else k

/-- Cuts trailing zeros of the digits into the exponent, at most `fuel` of them. -/
def trim : Nat → Decimal → Decimal
  | 0, d => d
  | fuel + 1, d =>
    if 0 < d.digits && d.digits % 10 = 0 then trim fuel ⟨d.digits / 10, d.exponent + 1⟩ else d

/-- Tries grids of `count`, `count + 1`, … digits, `tries` of them. -/
def search (x : Binary64) (k : Int) : Nat → Nat → Decimal
  | _, 0 => ⟨x.mantissa, 0⟩
  | count, tries + 1 =>
    match onGrid? x (k - count) with
    | some d => trim 20 d
    | none => search x k (count + 1) tries

/-- The shortest decimal that rounds to the size of `x`; zero is `0 · 10 ^ 0`. -/
def decimal (x : Binary64) : Decimal :=
  if x.mantissa = 0 then ⟨0, 0⟩ else search x (magnitude x) 1 18

end Shortest

/-- How a float is laid out. -/
structure FloatLayout where
  /-- The positional form is used when the point falls after more than `minPoint` … -/
  minPoint : Int
  /-- … and at most `maxPoint` digits. -/
  maxPoint : Int
  /-- Written before a positive exponent. -/
  positiveMark : String
deriving Repr

namespace FloatLayout

/-- `count` zeros. -/
def zeros (count : Nat) : String := String.ofList (List.replicate count '0')

/-- A text cut after its first `count` characters, with a point between the parts. -/
def withPoint (text : String) (count : Nat) : String :=
  String.ofList (text.toList.take count) ++ "." ++ String.ofList (text.toList.drop count)

/-- The size of a float in this layout. A float always shows a point or an exponent. -/
def size (layout : FloatLayout) (d : Decimal) : String :=
  let digits := toString d.digits
  let count := digits.length
  let point : Int := d.exponent + count
  if d.digits = 0 then "0.0"
  else if 0 ≤ d.exponent && point ≤ layout.maxPoint then digits ++ zeros d.exponent.toNat ++ ".0"
  else if 0 < point && point ≤ layout.maxPoint then withPoint digits point.toNat
  else if layout.minPoint < point && point ≤ 0 then "0." ++ zeros (-point).toNat ++ digits
  else
    let e := point - 1
    let mark := if 0 ≤ e then layout.positiveMark else "-"
    (if count = 1 then digits else withPoint digits 1) ++ "e" ++ mark ++ toString e.natAbs

/-- A finite float in this layout. -/
def text (layout : FloatLayout) (x : Binary64) : String :=
  (if x.negative then "-" else "") ++ layout.size (Shortest.decimal x)

end FloatLayout

end DataStaging
