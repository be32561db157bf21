/-!
# Names in ASCII

A label with other letters is written in ASCII: first its ASCII letters, then numbers that tell
where each other letter goes, in ascending order of the letters. A number has digits of a base of 36
with thresholds that adapt to the numbers before it.

Results:
* `threshold_pos`: a digit's threshold is at least 1.
* `readNumber_length_lt`: reading a number takes at least one digit.
-/

namespace DataStaging.DomainName.Punycode

/-! ## Numbers -/

/-- The threshold of the digit at position `k`, which grows by 36 from digit to digit. -/
def threshold (bias k : Nat) : Nat := min 26 (max 1 (k - bias))

theorem threshold_pos (bias k : Nat) : 1 ≤ threshold bias k := by
  unfold threshold
  omega

/-- Divides by 35 until the rest is small; gives the rest and 36 for each division. -/
def settle (delta : Nat) : Nat × Nat :=
  if 455 < delta then
    let (rest, k) := settle (delta / 35)
    (rest, k + 36)
  else (delta, 0)
termination_by delta

/-- The bias after a number: `count` letters are placed now. -/
def adapt (delta count : Nat) (first : Bool) : Nat :=
  let delta := if first then delta / 700 else delta / 2
  let (rest, k) := settle (delta + delta / count)
  k + 36 * rest / (rest + 38)

/-- The character of a digit: letters first, then `0` to `9`. -/
def digitChar (d : Nat) : Char :=
  Char.ofNat (if d < 26 then 0x61 + d else 0x30 + (d - 26))

/-- The digit that a character stands for. -/
def digitOf? (c : Char) : Option Nat :=
  if 'a' ≤ c && c ≤ 'z' then some (c.toNat - 0x61)
  else if 'A' ≤ c && c ≤ 'Z' then some (c.toNat - 0x41)
  else if c.isDigit then some (c.toNat - 0x30 + 26)
  else none

/-- The digits of a number, from position `k` on. -/
def number (bias k q : Nat) : List Char :=
  let t := threshold bias k
  if q < t then [digitChar q]
  else digitChar (t + (q - t) % (36 - t)) :: number bias (k + 36) ((q - t) / (36 - t))
termination_by q
decreasing_by
  have := threshold_pos bias k
  exact Nat.lt_of_le_of_lt (Nat.div_le_self _ _) (by omega)

/-- Numbers do not exceed 32 bits. -/
def numberLimit : Nat := 4294967296

/-- Reads a number: `weight` is the worth of the digit at position `k`. Gives the number and what
    follows it. -/
def readNumber (bias : Nat) : List Char → Nat → Nat → Nat → Option (Nat × List Char)
  | [], _, _, _ => none
  | c :: rest, k, weight, sum => do
    let d ← digitOf? c
    let sum := sum + d * weight
    if numberLimit ≤ sum then none
    else if d < threshold bias k then return (sum, rest)
    else if numberLimit ≤ weight * (36 - threshold bias k) then none
    else readNumber bias rest (k + 36) (weight * (36 - threshold bias k)) sum

theorem readNumber_length_lt {bias k weight sum : Nat} {text rest : List Char} {n : Nat}
    (h : readNumber bias text k weight sum = some (n, rest)) : rest.length < text.length := by
  induction text generalizing k weight sum with
  | nil => simp [readNumber] at h
  | cons c text ih =>
    cases hd : digitOf? c with
    | none => simp [readNumber, hd] at h
    | some d =>
      simp only [readNumber, hd, Option.bind_eq_bind, Option.bind_some] at h
      split at h
      · simp at h
      · split at h
        · simp only [pure, Option.some.injEq, Prod.mk.injEq] at h
          simp [h.2]
        · split at h
          · simp at h
          · have := ih h
            simp only [List.length_cons]
            omega

/-! ## Labels -/

/-- What has been written so far. -/
structure Writing where
  /-- The digits. -/
  out : List Char
  /-- The places passed since the last number. -/
  delta : Nat
  bias : Nat
  /-- The letters written. -/
  count : Nat

/-- Passes one letter while the letter `n` is being placed; `basic` letters are ASCII. -/
def pass (basic n : Nat) (w : Writing) (c : Char) : Writing :=
  if c.toNat < n then { w with delta := w.delta + 1 }
  else if c.toNat = n then
    ⟨w.out ++ number w.bias 36 w.delta, 0, adapt w.delta (w.count + 1) (w.count == basic),
      w.count + 1⟩
  else w

/-- Places letters in ascending order; those below `n` are placed. -/
def place (text : List Char) (basic : Nat) : List Nat → Nat → Writing → Writing
  | [], _, w => w
  | m :: letters, n, w =>
    let w := text.foldl (pass basic m) { w with delta := w.delta + (m - n) * (w.count + 1) }
    place text basic letters (m + 1) { w with delta := w.delta + 1 }

/-- Puts a number into an ascending list without repetitions. -/
def insertOnce (n : Nat) : List Nat → List Nat
  | [] => [n]
  | m :: rest =>
    if n < m then n :: m :: rest else if n = m then m :: rest else m :: insertOnce n rest

def isBasic (c : Char) : Bool := c.toNat < 0x80

/-- The letters beyond ASCII, ascending. -/
def letters (text : List Char) : List Nat :=
  (text.filter (fun c => !isBasic c)).foldr (fun c rest => insertOnce c.toNat rest) []

/-- Writes a label in ASCII. -/
def encode (text : List Char) : List Char :=
  let basic := text.filter isBasic
  basic ++ (if basic.isEmpty then [] else ['-']) ++
    (place text basic.length (letters text) 0x80 ⟨[], 0, 72, basic.length⟩).out

/-- Whether a number is a character. -/
def isChar (n : Nat) : Bool := n < 0xD800 || (0xDFFF < n && n < 0x110000)

/-- Puts letters into what is there: `place` is where the last one went and `n` is that letter. -/
def fillIn (text : List Char) (out : List Char) (place n bias : Nat) (first : Bool) :
    Option (List Char) :=
  match text with
  | [] => some out
  | c :: rest =>
    match h : readNumber bias (c :: rest) 36 1 0 with
    | none => none
    | some (delta, following) =>
      let count := out.length + 1
      let n := n + (place + delta) / count
      let place := (place + delta) % count
      if isChar n then
        fillIn following (out.take place ++ Char.ofNat n :: out.drop place) (place + 1) n
          (adapt delta count first) false
      else none
termination_by text.length
decreasing_by
  have := readNumber_length_lt h
  simpa using this

/-- The basic letters and the digits of a written label, which the last hyphen separates. -/
def cutBasic (text : List Char) : List Char × List Char :=
  let digits := (text.reverse.takeWhile (· != '-')).reverse
  if digits.length = text.length then ([], text)
  else if digits.length + 1 = text.length then ([], text)
  else (text.take (text.length - digits.length - 1), digits)

/-- Reads a label written in ASCII. -/
def decode (text : List Char) : Option (List Char) :=
  let (basic, digits) := cutBasic text
  if basic.all isBasic then fillIn digits basic 0 0x80 72 true else none

example : encode "bücher".toList = "bcher-kva".toList := by decide +kernel
example : decode "bcher-kva".toList = some "bücher".toList := by decide +kernel

end DataStaging.DomainName.Punycode
