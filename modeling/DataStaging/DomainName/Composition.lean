import DataStaging.DomainName.PairTable
import DataStaging.DomainName.PropertyTable
import DataStaging.DomainName.Rows

/-!
# One spelling for each name

The same name can be spelled with composed characters or with bases and marks. Names are compared in
one spelling: everything is taken apart, marks are put in the order of their classes, and then
characters are composed as far as possible. Korean syllables are composed by rule, all others by a
table. This is canonical composition, for the characters of names.

Results:
* `sink_perm`, `ordered_perm`: putting marks in order neither loses nor adds a character.
-/

namespace DataStaging.DomainName.Composition

/-! ## Tables -/

/-- A composed character and its parts. -/
structure Composed where
  whole : Nat
  first : Nat
  second : Nat
deriving DecidableEq, Repr

/-- A word such as `E0=61.300`. -/
def composedOf (word : List Char) : Composed :=
  match Parts.cutAt '=' word with
  | whole :: parts :: _ =>
    match Parts.cutAt '.' parts with
    | first :: second :: _ => ⟨Rows.codePoint whole, Rows.codePoint first, Rows.codePoint second⟩
    | _ => ⟨0, 0, 0⟩
  | _ => ⟨0, 0, 0⟩

def pairs : List Composed := (Rows.words PairTable.pairRows).map composedOf

def classes : List Rows.Labelled := Rows.labelled PropertyTable.classRows

/-- The canonical combining class of a character. -/
def classOf (c : Char) : Nat := ((Rows.label? classes c).map Rows.codePoint).getD 0

/-- The class of the signs that cut a vowel off. -/
def virama : Nat := 9

/-! ## Korean syllables -/

/-- The first syllable; those with one beginning follow each other, and among them those with one
    vowel. -/
def syllableBase : Nat := 0xAC00

def initialBase : Nat := 0x1100

def vowelBase : Nat := 0x1161

/-- One less than the first final: a syllable may have none. -/
def finalBase : Nat := 0x11A7

def initials : Nat := 19

def vowels : Nat := 21

/-- The finals, none included. -/
def finals : Nat := 28

/-- The parts of a syllable, if a code point is one. -/
def syllableParts? (n : Nat) : Option (List Nat) :=
  if syllableBase ≤ n && n < syllableBase + initials * vowels * finals then
    let place := n - syllableBase
    let parts := [initialBase + place / (vowels * finals), vowelBase + place / finals % vowels]
    some (if place % finals = 0 then parts else parts ++ [finalBase + place % finals])
  else none

/-- The syllable that two code points make together. -/
def joinSyllable? (a b : Nat) : Option Nat :=
  if initialBase ≤ a && a < initialBase + initials && vowelBase ≤ b && b < vowelBase + vowels then
    some (syllableBase + ((a - initialBase) * vowels + (b - vowelBase)) * finals)
  else if syllableBase ≤ a && a < syllableBase + initials * vowels * finals &&
      (a - syllableBase) % finals = 0 && finalBase < b && b < finalBase + finals then
    some (a + (b - finalBase))
  else none

/-! ## Taking apart and composing -/

/-- The longest chain of parts that are themselves composed. -/
def depthLimit : Nat := 4

/-- The parts of a code point that are not composed, where at most so many lie inside each other. -/
def partsOf : Nat → Nat → List Nat
  | 0, n => [n]
  | depth + 1, n =>
    match syllableParts? n, pairs.find? (fun p => p.whole == n) with
    | some parts, _ => parts
    | none, some pair => partsOf depth pair.first ++ partsOf depth pair.second
    | none, none => [n]

/-- The parts of a character. -/
def takeApart (c : Char) : List Char := (partsOf depthLimit c.toNat).map Char.ofNat

/-- Moves a mark behind the marks of lower classes that follow it. -/
def sink (c : Char) : List Char → List Char
  | [] => [c]
  | d :: rest =>
    if classOf c ≠ 0 && classOf d ≠ 0 && classOf d < classOf c then d :: sink c rest
    else c :: d :: rest

/-- Puts the marks behind each base in the order of their classes. -/
def ordered : List Char → List Char
  | [] => []
  | c :: rest => sink c (ordered rest)

theorem sink_perm (c : Char) (text : List Char) : (sink c text).Perm (c :: text) := by
  induction text with
  | nil => exact List.Perm.refl _
  | cons d rest ih =>
    simp only [sink]
    split
    · exact (ih.cons d).trans (List.Perm.swap c d rest)
    · exact List.Perm.refl _

theorem ordered_perm (text : List Char) : (ordered text).Perm text := by
  induction text with
  | nil => exact List.Perm.refl _
  | cons c rest ih => exact (sink_perm c (ordered rest)).trans (ih.cons c)

/-- The character that two characters make together. -/
def join? (a b : Char) : Option Char :=
  let listed := pairs.find? (fun p => p.first == a.toNat && p.second == b.toNat)
  ((joinSyllable? a.toNat b.toNat).or (listed.map (·.whole))).map Char.ofNat

/-- Composes what follows a base and the marks kept behind it, the last one first. A mark joins the
    base unless one of its class or a higher one stands between them. -/
def composeAfter (base : Char) (kept : List Char) : List Char → List Char
  | [] => base :: kept.reverse
  | c :: rest =>
    let reaches := match kept with
      | [] => true
      | last :: _ => classOf last < classOf c
    match if reaches then join? base c else none with
    | some joined => composeAfter joined kept rest
    | none =>
      if classOf c = 0 then base :: kept.reverse ++ composeAfter c [] rest
      else composeAfter base (c :: kept) rest

/-- Composes an ordered text. -/
def composed : List Char → List Char
  | [] => []
  | c :: rest => if classOf c = 0 then composeAfter c [] rest else c :: composed rest

/-- The one spelling of a text. -/
def normal (text : List Char) : List Char := composed (ordered (text.flatMap takeApart))

example : joinSyllable? 0x1112 0x1161 = some 0xD558 := by decide
example : syllableParts? 0xD55C = some [0x1112, 0x1161, 0x11AB] := by decide

end DataStaging.DomainName.Composition
