import DataStaging.Text.Parts
import DataStaging.Text.Quoted

/-!
# Hosts given as numbers

A host may be a number of 32 bits, written as one to four numbers with points between them, or one
of 128 bits, written as eight groups with colons between them. Both have one normal form.

Results:
* `ofParts_range`: parts that were accepted fit into the room they were given.
* `spread_length`: a gap is filled up to eight groups.
-/

namespace DataStaging.NumericHost

/-! ## 32 bits -/

def isOctal (c : Char) : Bool := '0' ≤ c && c ≤ '7'

def isHex (c : Char) : Bool := c.isDigit || ('a' ≤ c && c ≤ 'f') || ('A' ≤ c && c ≤ 'F')

/-- The value of a digit of base sixteen. -/
def digitValue (c : Char) : Nat :=
  if c.isDigit then c.toNat - 0x30 else if 'a' ≤ c then c.toNat - 0x57 else c.toNat - 0x37

/-- The number that digits stand for. -/
def value (base : Nat) (digits : List Char) : Nat :=
  digits.foldl (fun n d => n * base + digitValue d) 0

/-- A number: hexadecimal behind `0x`, octal behind `0`, otherwise decimal. -/
def number? : List Char → Option Nat
  | [] => none
  | '0' :: 'x' :: digits | '0' :: 'X' :: digits =>
    if digits.all isHex then some (value 16 digits) else none
  | ['0'] => some 0
  | '0' :: digits => if digits.all isOctal then some (value 8 digits) else none
  | digits => if digits.all Char.isDigit then some (value 10 digits) else none

/-- Whether a name is meant as a number: its last part, but for an empty one, is a number or at
    least made of digits. -/
def endsInNumber (name : List Char) : Bool :=
  let meant := fun (part : List Char) =>
    (!part.isEmpty && part.all Char.isDigit) || (number? part).isSome
  match (Parts.cutAt '.' name).reverse with
  | [] :: last :: _ => meant last
  | [[]] => false
  | last :: _ => meant last
  | [] => false

/-- The 32 bits of one to four numbers: each but the last is a byte, and the last fills the rest. -/
def ofParts : List Nat → Nat → Option Nat
  | [], _ => none
  | [last], room => if last < Nat.pow 256 room then some last else none
  | n :: rest, room => do
    let below ← ofParts rest (room - 1)
    if n < 256 ∧ 1 < room then some (n * Nat.pow 256 (room - 1) + below) else none

theorem ofParts_range {parts : List Nat} {room n : Nat} (h : ofParts parts room = some n) :
    n < Nat.pow 256 room := by
  induction parts generalizing room n with
  | nil => simp [ofParts] at h
  | cons first rest ih =>
    cases rest with
    | nil =>
      simp only [ofParts] at h
      split at h
      · simp_all
      · simp at h
    | cons second more =>
      simp only [ofParts] at h
      cases hb : ofParts (second :: more) (room - 1) with
      | none => simp [hb] at h
      | some below =>
        simp only [hb, Option.bind_eq_bind, Option.bind_some] at h
        split at h
        · rename_i hr
          simp only [Option.some.injEq] at h
          have hbelow := ih hb
          obtain ⟨k, rfl⟩ : ∃ k, room = k + 1 := ⟨room - 1, by omega⟩
          simp only [Nat.add_sub_cancel] at h hbelow
          have hle : first * Nat.pow 256 k ≤ 255 * Nat.pow 256 k :=
            Nat.mul_le_mul_right _ (by omega)
          have hs : Nat.pow 256 (k + 1) = Nat.pow 256 k * 256 := rfl
          omega
        · simp at h

/-- The normal form of 32 bits. -/
def showShort (n : Nat) : List Char :=
  (toString (n / 16777216) ++ "." ++ toString (n / 65536 % 256) ++ "." ++
    toString (n / 256 % 256) ++ "." ++ toString (n % 256)).toList

/-- The normal form of a name that is meant as a number, if it is one. -/
def short? (name : List Char) : Option (List Char) := do
  let parts := Parts.cutAt '.' name
  let parts := if parts.getLast? = some [] then parts.dropLast else parts
  if 4 < parts.length then none
  else
    let numbers ← parts.mapM number?
    return showShort (← ofParts numbers 4)

/-! ## 128 bits -/

/-- A byte in decimal digits without leading zeros. -/
def byte? (digits : List Char) : Option Nat :=
  let n := value 10 digits
  if digits.isEmpty || !digits.all Char.isDigit || 255 < n then none
  else if digits.head? = some '0' && digits.length ≠ 1 then none
  else some n

/-- The two groups of four bytes with points between them. -/
def bytePairs? (text : List Char) : Option (List Nat) := do
  match ← (Parts.cutAt '.' text).mapM byte? with
  | [a, b, c, d] => return [a * 256 + b, c * 256 + d]
  | _ => none

/-- Groups that were read, and where the gap between them lies, if there is one. A gap holds at
    least one group, which stands before its place. -/
structure Groups where
  done : List Nat
  gap : Option Nat
deriving DecidableEq, Repr

/-- Reads groups of up to four digits with colons between them. The last two groups may be given as
    four bytes. -/
def readGroups (text : List Char) (g : Groups) : Option Groups :=
  if _ : text = [] then some g
  else if 8 ≤ g.done.length then none
  else if text.head? = some ':' then
    if g.gap.isSome then none
    else readGroups text.tail ⟨g.done ++ [0], some (g.done.length + 1)⟩
  else
    let digits := (text.takeWhile isHex).take 4
    match _ : text.drop digits.length with
    | [] => some { g with done := g.done ++ [value 16 digits] }
    | '.' :: _ =>
      if digits.isEmpty || 6 < g.done.length then none
      else (bytePairs? text).map (fun pair => { g with done := g.done ++ pair })
    | ':' :: rest =>
      if rest = [] then none
      else readGroups rest { g with done := g.done ++ [value 16 digits] }
    | _ => none
termination_by text.length
decreasing_by
  · cases text with
    | nil => contradiction
    | cons c rest => simp
  · have := congrArg List.length ‹text.drop digits.length = ':' :: rest›
    simp only [List.length_drop, List.length_cons] at this
    omega

/-- The eight groups: a gap is filled with zeros. -/
def spread (g : Groups) : Option (List Nat) :=
  match g.gap with
  | some place =>
    if g.done.length ≤ 8 && place ≤ g.done.length then
      some (g.done.take place ++ List.replicate (8 - g.done.length) 0 ++ g.done.drop place)
    else none
  | none => if g.done.length = 8 then some g.done else none

theorem spread_length {g : Groups} {groups : List Nat} (h : spread g = some groups) :
    groups.length = 8 := by
  unfold spread at h
  split at h
  · split at h
    · simp only [Option.some.injEq] at h
      subst h
      simp_all
      omega
    · simp at h
  · split at h
    · simp_all
    · simp at h

/-- The eight groups of a text. A gap at the front has both its colons. -/
def groups? (text : List Char) : Option (List Nat) :=
  match text with
  | ':' :: ':' :: rest => (readGroups rest ⟨[0], some 1⟩).bind spread
  | ':' :: _ => none
  | _ => (readGroups text ⟨[], none⟩).bind spread

/-- The zeros that begin at a place. -/
def zerosAt (groups : List Nat) (place : Nat) : Nat :=
  ((groups.drop place).takeWhile (· == 0)).length

/-- The place and the length of the longest run of zeros, the first of several; runs of one do not
    count. -/
def longestRun (groups : List Nat) : Option (Nat × Nat) :=
  (List.range groups.length).foldl (fun best place =>
    if (match best with | some (_, n) => n | none => 1) < zerosAt groups place then
      some (place, zerosAt groups place)
    else best) none

def showGroups (groups : List Nat) : String := ":".intercalate (groups.map Quoted.hex)

/-- The normal form of eight groups: the longest run of zeros is left out. -/
def showLong (groups : List Nat) : List Char :=
  (match longestRun groups with
  | some (place, n) =>
    showGroups (groups.take place) ++ "::" ++ showGroups (groups.drop (place + n))
  | none => showGroups groups).toList

/-- The normal form of a text that gives 128 bits, if it does. -/
def long? (text : List Char) : Option (List Char) := (groups? text).map showLong

example : long? "2001:DB8::0:1".toList = some "2001:db8::1".toList := by decide +kernel
example : short? "0x7f.1".toList = some "127.0.0.1".toList := by decide +kernel

end DataStaging.NumericHost
