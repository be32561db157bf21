import DataStaging.DomainName.Composition
import DataStaging.DomainName.Mapping
import DataStaging.DomainName.Punycode

/-!
# Labels of a domain name

The parts of a domain name between its points. A label is checked in the letters that it is read
with: it must be spelled the one way that mapping and composition leave, begin with no mark, and use
the invisible joiners only where they change the shape of the letters.
-/

namespace DataStaging.DomainName.Label

/-! ## Joiners -/

/-- The sign that keeps letters apart. -/
def nonJoiner : Char := Char.ofNat 0x200C

/-- The sign that joins letters. -/
def joiner : Char := Char.ofNat 0x200D

def joinings : List Rows.Labelled := Rows.labelled PropertyTable.joiningRows

/-- How a letter joins with its neighbours. -/
def joiningOf (c : Char) : Option (List Char) := Rows.label? joinings c

/-- Whether the nearest letter, past those that are passed over, joins in one of the given ways. -/
def nextJoins (ways : List Char) (text : List Char) : Bool :=
  match (text.dropWhile (fun c => joiningOf c == some ['T'])).head? with
  | some c => ways.any (fun way => joiningOf c == some [way])
  | none => false

/-- Whether a joiner may stand between the letters before it, the nearest one first, and those after
    it: behind a sign that cuts a vowel off, or, to keep apart, between letters that would join. -/
def joinerFits (c : Char) (before after : List Char) : Bool :=
  (before.head?.map Composition.classOf == some Composition.virama) ||
    (c == nonJoiner && nextJoins ['L', 'D'] before && nextJoins ['R', 'D'] after)

/-- Whether every joiner may stand where it does; `before` holds what was passed, the last first. -/
def joinersFit (before : List Char) : List Char → Bool
  | [] => true
  | c :: rest =>
    (if c = joiner || c = nonJoiner then joinerFits c before rest else true) &&
      joinersFit (c :: before) rest

/-! ## Directions -/

/-- The direction in which a character runs, as far as names tell them apart. -/
inductive Direction
  | left
  | right
  | arabicNumber
  | europeanNumber
  | neutral
  | mark
  | separator
deriving DecidableEq, Repr

def directions : List Rows.Labelled := Rows.labelled PropertyTable.directionRows

def directionOf (c : Char) : Direction :=
  match Rows.label? directions c with
  | some ['R'] => .right
  | some ['A'] => .arabicNumber
  | some ['E'] => .europeanNumber
  | some ['O'] => .neutral
  | some ['N'] => .mark
  | some ['X'] => .separator
  | _ => .left

/-- Whether a character makes its name one that runs both ways. -/
def turns (c : Char) : Bool :=
  match directionOf c with
  | .right | .arabicNumber => true
  | _ => false

/-- Whether a label runs in one direction. A label that begins from the right holds nothing from the
    left, ends in a letter or a number, and holds numbers of one kind only; one that begins from the
    left holds nothing from the right and ends in a letter or a number. -/
def runsOneWay (label : List Char) : Bool :=
  let ways := label.map directionOf
  let last := (ways.reverse.dropWhile (· == .mark)).head?
  match ways with
  | [] => true
  | .right :: _ =>
    ways.all (fun w => w != .left && w != .separator) &&
      last.any (fun w => w == .right || w == .europeanNumber || w == .arabicNumber) &&
      !(ways.contains .europeanNumber && ways.contains .arabicNumber)
  | .left :: _ =>
    ways.all (fun w => w != .right && w != .arabicNumber && w != .separator) &&
      last.any (fun w => w == .left || w == .europeanNumber)
  | _ => false

/-! ## Reading and writing a label -/

def marks : List (Nat × Nat) := Rows.ranges PropertyTable.markRows

/-- Whether a label may stand in a name, apart from its direction. -/
def isSound (label : List Char) : Bool :=
  !(label.head?.any (fun c => Digit.inRanges marks c.toNat)) && joinersFit [] label

/-- The beginning of a label written in ASCII. -/
def encodedStart : List Char := ['x', 'n', '-', '-']

/-- The most characters that are read of a label written in ASCII, or written in ASCII. -/
def decodeLimit : Nat := 2000

/-- The most letters of a label that is written in ASCII. -/
def encodeLimit : Nat := 1000

def isAscii (text : List Char) : Bool := text.all Punycode.isBasic

/-- The letters of a label that is written in ASCII: some of them are beyond ASCII, and they are
    spelled the one way. -/
def decode (written : List Char) : Option (List Char) := do
  if decodeLimit < written.length then none
  else
    let label ← Punycode.decode written
    let mapped ← Mapping.mapAll label
    if isAscii label || encodedStart.isPrefixOf label then none
    else if mapped ≠ label || Composition.normal label ≠ label then none
    else some label

/-- The letters that a label of a mapped name is read with. -/
def letters (label : List Char) : Option (List Char) := do
  let read ← if encodedStart.isPrefixOf label then decode (label.drop encodedStart.length)
    else some label
  if isAscii read || isSound read then some read else none

/-- The label in ASCII. -/
def write (label : List Char) : Option (List Char) :=
  if isAscii label then some label
  else if encodeLimit < label.length then none
  else some (encodedStart ++ Punycode.encode label)

end DataStaging.DomainName.Label
