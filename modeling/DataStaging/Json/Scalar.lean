import DataStaging.Json.Reader

/-!
# Strings and numbers of JSON

A string is taken byte by byte: at every byte the scan knows how much of an escape it has seen. A
string that is kept pairs its surrogates and is UTF-8; one that is skipped need not be.

A number is kept as a whole number while it has the form of one and fits in 64 bits; otherwise it is
a double, built from at most 64 bits of digits and a power of ten.
-/

namespace DataStaging.Json

/-! ## Strings -/

/-- How much of an escape a scan has seen. -/
inductive EscapeState
  | plain
  /-- Behind a backslash. -/
  | escape
  /-- Inside the four digits of a code unit, last digit first; `high` waits for its partner. -/
  | digits (seen : List UInt8) (high : Option Nat)
  /-- Behind a high surrogate, whose partner is another escape. -/
  | partner (high : Nat)
  | partnerMark (high : Nat)
deriving DecidableEq, Repr

/-- The value of a digit of base sixteen. -/
def hexValue? (b : UInt8) : Option Nat :=
  if 0x30 ≤ b && b ≤ 0x39 then some (b.toNat - 0x30)
  else if 0x41 ≤ b && b ≤ 0x46 then some (b.toNat - 0x37)
  else if 0x61 ≤ b && b ≤ 0x66 then some (b.toNat - 0x57)
  else none

/-- The value of four digits, last digit first. -/
def unitOf? (digits : List UInt8) : Option Nat :=
  digits.foldr (fun d acc => do return (← acc) * 16 + (← hexValue? d)) (some 0)

/-- The byte that a letter behind a backslash stands for. -/
def letterByte? (b : UInt8) : Option UInt8 :=
  if b = 0x22 || b = 0x5C || b = 0x2F then some b
  else if b = 0x62 then some 0x08
  else if b = 0x66 then some 0x0C
  else if b = 0x6E then some 0x0A
  else if b = 0x72 then some 0x0D
  else if b = 0x74 then some 0x09
  else none

/-- What one byte does to a scan: go on with more bytes of text, end the string, or fail. -/
inductive ScanStep
  | go (state : EscapeState) (text : Bytes)
  | close
  | fail (flaw : Flaw)

/-- The step on a complete code unit. -/
def unitStep (keep : Bool) (unit : Nat) (high : Option Nat) : ScanStep :=
  if !keep then .go .plain []
  else match high with
    | some h =>
      if 0xDC00 ≤ unit && unit ≤ 0xDFFF then
        .go .plain (Utf8.encodePoint ((h - 0xD800) * 1024 + (unit - 0xDC00) + 0x10000))
      else .fail .loneSurrogate
    | none =>
      if 0xDC00 ≤ unit && unit ≤ 0xDFFF then .fail .loneSurrogate
      else if 0xD800 ≤ unit && unit ≤ 0xDBFF then .go (.partner unit) []
      else .go .plain (Utf8.encodePoint unit)

/-- The step of a scan at one byte. -/
def scanStep (keep : Bool) (b : UInt8) : EscapeState → ScanStep
  | .plain =>
    if b = 0x22 then .close
    else if b = 0x5C then .go .escape []
    else if b < 0x20 then .fail .controlCharacter
    else .go .plain [b]
  | .escape =>
    if b = 0x75 then .go (.digits [] none) []
    else match letterByte? b with
      | some byte => .go .plain [byte]
      | none => .fail .invalidEscape
  | .digits seen high =>
    if seen.length < 3 then .go (.digits (b :: seen) high) []
    else match unitOf? (b :: seen) with
      | some unit => unitStep keep unit high
      | none => .fail .invalidEscape
  | .partner high => if b = 0x5C then .go (.partnerMark high) [] else .fail .endInHexEscape
  | .partnerMark high => if b = 0x75 then .go (.digits [] (some high)) [] else .fail .endInHexEscape

/-- How a scan ended: with the text or a flaw, what is left, and where. `untaken` says that the byte
    with the flaw was looked at but not taken. -/
structure ScanEnd where
  outcome : Except Flaw Bytes
  rest : Bytes
  place : Place

/-- Scans the rest of a string; `text` holds its bytes so far, last byte first. In a whole text, a
    control character in a skipped string is not taken. -/
def scan (keep leaveControl : Bool) : Bytes → Place → EscapeState → Bytes → ScanEnd
  | [], place, _, _ => ⟨.error .endInString, [], place⟩
  | b :: rest, place, state, text =>
    match scanStep keep b state with
    | .go state more => scan keep leaveControl rest (place.advance b) state (more.reverse ++ text)
    | .close => ⟨.ok text.reverse, rest, place.advance b⟩
    | .fail flaw =>
      if leaveControl && flaw = .controlCharacter then ⟨.error flaw, b :: rest, place⟩
      else ⟨.error flaw, rest, place.advance b⟩

namespace Reader

/-- Takes the rest of a string behind its opening quote. -/
def scanString (keep : Bool) : Reader Bytes := do
  let c ← get
  let ending := scan keep (!keep && !c.stream) c.rest c.place .plain []
  set { c with rest := ending.rest, place := ending.place, held := false }
  match ending.outcome with
  | .ok text => return text
  | .error flaw => failHere flaw

/-- Takes the rest of a string as text. -/
def text : Reader String := do
  match Utf8.decode? (← scanString true) with
  | some s => return s
  | none => failHere .invalidCodePoint

/-- Takes the rest of a string that nobody asked for. -/
def skipText : Reader Unit := do
  let _ ← scanString false

/-- Takes the letters of a word behind its first one. -/
def word : List UInt8 → Reader Unit
  | [] => return ()
  | expected :: more => do
    match ← next with
    | none => failHere .endInValue
    | some b => if b = expected then word more else failHere .expectedWord

/-! ## Numbers -/

/-- A digit of base ten. -/
def isDigit (b : UInt8) : Bool := 0x30 ≤ b && b ≤ 0x39

/-- Takes the digits at the front, then looks at the byte behind them. -/
def digits : Reader (List UInt8) := do
  let c ← get
  let taken := c.rest.takeWhile isDigit
  let place : Place := ⟨c.place.line, c.place.column + taken.length⟩
  let rest := c.rest.dropWhile isDigit
  set { c with rest := rest, place := place, held := !rest.isEmpty }
  return taken

end Reader

/-- A number that was read. -/
inductive Number
  | natural (n : Nat)
  /-- The number is negative. -/
  | negative (n : Int)
  | float (x : Float)

namespace Number

/-- Numbers of 64 bits lie below. -/
def limit : Nat := 18446744073709551616

/-- Digits gathered into a number that stays below the limit, and how many digits were dropped. -/
structure Gathered where
  value : Nat
  kept : Nat
  dropped : Nat

/-- Gathers digits until the number would reach the limit; every digit after that is dropped. -/
def gather (start : Nat) (digits : List UInt8) : Gathered :=
  digits.foldl (fun g d =>
    let value := g.value * 10 + (d.toNat - 0x30)
    if g.dropped = 0 && value < limit then ⟨value, g.kept + 1, 0⟩
    else ⟨g.value, g.kept, g.dropped + 1⟩) ⟨start, 0, 0⟩

/-- The double nearest to `10 ^ n`. -/
def tenTo (n : Nat) : Float := Float.ofScientific 1 false n

/-- `value · 10 ^ exponent` in doubles, by one multiplication or division where a power of ten up to
    308 is enough; `none` if it is out of range. -/
def assemble (value : Float) (exponent : Int) : Nat → Option Float
  | 0 => none
  | fuel + 1 =>
    if exponent.natAbs ≤ 308 then
      if 0 ≤ exponent then
        let product := value * tenTo exponent.natAbs
        if product.isInf then none else some product
      else some (value / tenTo exponent.natAbs)
    else if value == 0.0 then some value
    else if 0 ≤ exponent then none
    else assemble (value / tenTo 308) (exponent + 308) fuel

end Number

namespace Reader

/-- The double with these digits, exponent and sign. -/
def float (positive : Bool) (significand : Nat) (exponent : Int) : Reader Number := do
  match Number.assemble (Float.ofNat significand) exponent (exponent.natAbs / 308 + 2) with
  | some x => return .float (if positive then x else -x)
  | none => failHere .numberOutOfRange

/-- The largest exponent that is counted. -/
def exponentLimit : Nat := 2147483648

/-- The value of exponent digits, unless it passes the limit. -/
def exponentOf (digits : List UInt8) : Option Nat :=
  digits.foldl (fun acc d => do
    let n := (← acc) * 10 + (d.toNat - 0x30)
    if n < exponentLimit then some n else none) (some 0)

/-- The digits of an exponent up to the first that passes the limit. -/
def exponentDigits (digits : List UInt8) : Nat :=
  match (List.range (digits.length + 1)).find? (fun n => (exponentOf (digits.take n)).isNone) with
  | some n => n
  | none => digits.length

/-- An exponent, from its letter on. -/
def exponentPart (positive : Bool) (significand : Nat) (start : Int) : Reader Number := do
  eat
  let positiveExponent ← (do
    match ← peek with
    | some 0x2B => eat; return true
    | some 0x2D => eat; return false
    | _ => return true)
  let first ← next
  match first with
  | none => failHere .endInValue
  | some d =>
    if !isDigit d then failHere .invalidNumber
    else
      let c ← get
      let more ← digits
      match exponentOf (d :: more) with
      | some e =>
        float positive significand (if positiveExponent then start + e else start - e)
      | none =>
        if significand ≠ 0 && positiveExponent then
          -- the digit that passes the limit is the last one taken
          let count := exponentDigits (d :: more) - 1
          set { c with
            rest := c.rest.drop count
            place := ⟨c.place.line, c.place.column + count⟩
            held := false }
          failHere .numberOutOfRange
        else return .float (if positive then 0.0 else -0.0)

/-- What follows the digits of a double. -/
def exponentOrEnd (positive : Bool) (significand : Nat) (exponent : Int) : Reader Number := do
  match ← peek with
  | some 0x65 | some 0x45 => exponentPart positive significand exponent
  | _ => float positive significand exponent

/-- A fraction, from its point on. -/
def fractionPart (positive : Bool) (significand : Nat) (dropped : Nat) : Reader Number := do
  eat
  let taken ← digits
  if taken.isEmpty then
    match ← peek with
    | some _ => failAhead .invalidNumber
    | none => failAhead .endInValue
  else
    let g := Number.gather significand taken
    exponentOrEnd positive g.value ((dropped : Int) - g.kept)

/-- What follows the digits of a whole number. -/
def numberTail (positive : Bool) (g : Number.Gathered) : Reader Number := do
  match ← peek with
  | some 0x2E => fractionPart positive g.value g.dropped
  | some 0x65 | some 0x45 => exponentPart positive g.value g.dropped
  | _ =>
    if g.dropped ≠ 0 then float positive g.value g.dropped
    else if positive then return .natural g.value
    else if 0 < g.value && 2 * g.value ≤ Number.limit then return .negative (-(g.value : Int))
    else return .float (-(Float.ofNat g.value))

/-- A number, behind its sign. -/
def number (positive : Bool) : Reader Number := do
  match ← next with
  | none => failHere .endInValue
  | some b =>
    if b = 0x30 then
      match ← peek with
      | some d => if isDigit d then failAhead .invalidNumber else numberTail positive ⟨0, 0, 0⟩
      | none => numberTail positive ⟨0, 0, 0⟩
    else if isDigit b then
      let taken ← digits
      numberTail positive (Number.gather (b.toNat - 0x30) taken)
    else failHere .invalidNumber

/-- Takes an exponent that nobody asked for, from its letter on. -/
def skipExponent : Reader Unit := do
  eat
  match ← peek with
  | some 0x2B | some 0x2D => eat
  | _ => pure ()
  match ← next with
  | some d => if isDigit d then let _ ← digits else failHere .invalidNumber
  | none => failHere .invalidNumber

/-- Takes a number that nobody asked for, behind its sign. -/
def skipNumber : Reader Unit := do
  match ← next with
  | some b =>
    if b = 0x30 then
      match ← peek with
      | some d => if isDigit d then failAhead .invalidNumber
      | none => pure ()
    else if isDigit b then let _ ← digits
    else failHere .invalidNumber
  | none => failHere .invalidNumber
  match ← peek with
  | some 0x2E =>
    eat
    let taken ← digits
    if taken.isEmpty then failAhead .invalidNumber
    match ← peek with
    | some 0x65 | some 0x45 => skipExponent
    | _ => pure ()
  | some 0x65 | some 0x45 => skipExponent
  | _ => pure ()

end Reader

end DataStaging.Json
