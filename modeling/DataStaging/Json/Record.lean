import DataStaging.Json.Scalar
import DataStaging.Number.Shortest
import DataStaging.Text.Quoted

/-!
# Records and lists of JSON

A record is read from an object, whose members may come in any order and among others, or from a
list that holds exactly its fields in order. A member that is no field is skipped; a field that
comes twice or not at all is refused. A list hands over each element as soon as it was read.
-/

namespace DataStaging.Json

/-- How JSON shows a double: positional where the point falls behind at most sixteen digits or five
    zeros. -/
def floatLayout : FloatLayout := ⟨-5, 16, "+"⟩

namespace Number

/-- A number as a message names it. -/
def describe : Number → String
  | natural n => "integer `" ++ toString n ++ "`"
  | negative n => "integer `" ++ toString n ++ "`"
  | float x =>
    match Binary64.ofFloat? x with
    | some x => "floating point `" ++ floatLayout.text x ++ "`"
    | none => "floating point"

end Number

namespace Reader

/-- A value that is not of the expected kind. -/
def failKind (found expected : String) : Reader α :=
  failShape ("invalid type: " ++ found ++ ", expected " ++ expected)

/-- Takes a value of the wrong kind as far as is needed to name it, and refuses it. -/
def refuse (expected : String) : Reader α := placed do
  match ← peek with
  | some 0x6E => eat; word [0x75, 0x6C, 0x6C]; failKind "null" expected
  | some 0x74 => eat; word [0x72, 0x75, 0x65]; failKind "boolean `true`" expected
  | some 0x66 => eat; word [0x61, 0x6C, 0x73, 0x65]; failKind "boolean `false`" expected
  | some 0x2D => eat; failKind (← number false).describe expected
  | some 0x22 => eat; failKind ("string " ++ Quoted.quote (← text)) expected
  | some 0x5B => failKind "sequence" expected
  | some 0x7B => failKind "map" expected
  | some b =>
    if isDigit b then failKind (← number true).describe expected else failAhead .expectedValue
  | none => failAhead .expectedValue

/-- Reads a text. -/
def textValue : Reader String := do
  match ← peekPastBlanks with
  | none => failAhead .endInValue
  | some 0x22 => eat; text
  | some _ => refuse "a string"

/-- Reads a number and makes something of it. -/
def numberValue (expected : String) (make : Number → Reader α) : Reader α := do
  match ← peekPastBlanks with
  | none => failAhead .endInValue
  | some 0x2D => eat; let n ← number false; placed (make n)
  | some b => if isDigit b then let n ← number true; placed (make n) else refuse expected

/-- Reads a whole number of at most 64 bits. -/
def countValue : Reader Nat :=
  numberValue "u64" (fun
    | .natural n => return n
    | .negative n => failShape ("invalid value: integer `" ++ toString n ++ "`, expected u64")
    | .float x => failKind (Number.float x).describe "u64")

/-! ## Values that are skipped -/

/-- What encloses a value that is skipped. -/
inductive Frame
  | list
  | object
deriving DecidableEq, Repr

/-- Takes the key of a member and its colon. -/
def skipKey : Reader Unit := do
  match ← peekPastBlanks with
  | some 0x22 => eat
  | some _ => failAhead .keyNotString
  | none => failAhead .endInObject
  skipText
  match ← peekPastBlanks with
  | some 0x3A => eat
  | some _ => failAhead .expectedColon
  | none => failAhead .endInObject

/-- Behind a value or at the start of a list or an object: closes what ends here, and gives what is
    still open once the next value is in sight. -/
def closeFrames : List Frame → Bool → Reader (List Frame)
  | [], _ => return []
  | frame :: outer, comma => do
    match ← peekPastBlanks, frame with
    | some 0x5D, .list => eat; closeFrames outer true
    | some 0x7D, .object => eat; closeFrames outer true
    | some b, _ =>
      if comma then
        if b = 0x2C then eat; return frame :: outer
        else failAhead (if frame = .list then .expectedListEnd else .expectedObjectEnd)
      else return frame :: outer
    | none, _ => failAhead (if frame = .list then .endInList else .endInObject)

/-- Takes one value inside the open frames, without recursion into it: every turn takes one scalar
    or opens one frame. -/
def skipFrom : Nat → List Frame → Reader Unit
  | 0, _ => failAhead .endInValue
  | fuel + 1, frames => do
    let opened ← (do
      match ← peekPastBlanks with
      | none => failAhead .endInValue
      | some 0x6E => eat; word [0x75, 0x6C, 0x6C]; return none
      | some 0x74 => eat; word [0x72, 0x75, 0x65]; return none
      | some 0x66 => eat; word [0x61, 0x6C, 0x73, 0x65]; return none
      | some 0x2D => eat; skipNumber; return none
      | some 0x22 => eat; skipText; return none
      | some 0x5B => eat; return some Frame.list
      | some 0x7B => eat; return some Frame.object
      | some b => if isDigit b then skipNumber; return none else failAhead .expectedValue)
    let frames ← (match opened with
      | some frame => closeFrames (frame :: frames) false
      | none => closeFrames frames true)
    match frames with
    | [] => return ()
    | .object :: _ => skipKey; skipFrom fuel frames
    | .list :: _ => skipFrom fuel frames

/-- Takes one value, whatever it is. -/
def skipValue : Reader Unit := do
  skipFrom ((← get).rest.length + 1) []

/-! ## Objects and lists -/

/-- Whether another member follows, and if so, up to its key's quote. -/
def memberFollows (first : Bool) : Reader Bool := do
  match ← peekPastBlanks with
  | none => failAhead .endInObject
  | some 0x7D => return false
  | some b =>
    if first then
      if b = 0x22 then return true else failAhead .keyNotString
    else if b = 0x2C then
      eat
      match ← peekPastBlanks with
      | some 0x22 => return true
      | some 0x7D => failAhead .trailingComma
      | some _ => failAhead .keyNotString
      | none => failAhead .endInValue
    else failAhead .expectedObjectEnd

/-- Whether another element follows. -/
def elementFollows (first : Bool) : Reader Bool := do
  match ← peekPastBlanks with
  | none => failAhead .endInList
  | some 0x5D => return false
  | some b =>
    if first then return true
    else if b = 0x2C then
      eat
      match ← peekPastBlanks with
      | some 0x5D => failAhead .trailingComma
      | some _ => return true
      | none => failAhead .endInValue
    else failAhead .expectedListEnd

/-- Takes a key and the colon behind it. -/
def colon : Reader Unit := do
  match ← peekPastBlanks with
  | some 0x3A => eat
  | some _ => failAhead .expectedColon
  | none => failAhead .endInObject

def closeObject : Reader Unit := do
  match ← peekPastBlanks with
  | some 0x7D => eat
  | some 0x2C => failAhead .trailingComma
  | some _ => failAhead .trailingCharacters
  | none => failAhead .endInObject

def closeList : Reader Unit := do
  match ← peekPastBlanks with
  | some 0x5D => eat
  | some 0x2C =>
    eat
    match ← peekPastBlanks with
    | some 0x5D => failAhead .trailingComma
    | _ => failAhead .trailingCharacters
  | some _ => failAhead .trailingCharacters
  | none => failAhead .endInList

/-- Reads what stands between two brackets, behind the opening one. If the inside has a problem, the
    closing one is still looked for, so that a problem without a place gets one behind it. -/
def bracketed (inside : Reader α) (close : Reader Unit) : Reader α := placed do
  eat
  let value ← tryCatch inside (fun problem => do attempt close; throw problem)
  close
  return value

end Reader

/-! ## Records -/

/-- A field of a record that is filled in one field after the other. -/
structure Field (ρ : Type) where
  name : String
  isSet : ρ → Bool
  read : ρ → Reader ρ

/-- A record: what it is called, and its fields in order. -/
structure Shape (ρ : Type) where
  title : String
  fields : List (Field ρ)

namespace Shape

/-- Reads the members of an object; every turn takes at least a key. -/
def members (shape : Shape ρ) : Nat → Bool → ρ → Reader ρ
  | 0, _, _ => Reader.failAhead .endInObject
  | fuel + 1, first, draft => do
    if ← Reader.memberFollows first then
      Reader.eat
      let key ← Reader.text
      match shape.fields.find? (fun f => f.name == key) with
      | none =>
        Reader.colon
        Reader.skipValue
        shape.members fuel false draft
      | some field =>
        if field.isSet draft then Reader.failShape ("duplicate field `" ++ key ++ "`")
        else
          Reader.colon
          let draft ← field.read draft
          shape.members fuel false draft
    else
      match shape.fields.find? (fun f => !f.isSet draft) with
      | some field => Reader.failShape ("missing field `" ++ field.name ++ "`")
      | none => return draft

/-- Reads the elements of a list as the fields in order; `done` of them were read. -/
def elements (shape : Shape ρ) : List (Field ρ) → Nat → ρ → Reader ρ
  | [], _, draft => return draft
  | field :: fields, done, draft => do
    if ← Reader.elementFollows (done = 0) then
      let draft ← field.read draft
      shape.elements fields (done + 1) draft
    else
      Reader.failShape ("invalid length " ++ toString done ++ ", expected " ++ shape.title ++
        " with " ++ toString shape.fields.length ++ " elements")

/-- Reads a record into an empty draft. -/
def read (shape : Shape ρ) (empty : ρ) : Reader ρ := do
  match ← Reader.peekPastBlanks with
  | none => Reader.failAhead .endInValue
  | some 0x5B => Reader.bracketed (shape.elements shape.fields 0 empty) Reader.closeList
  | some 0x7B =>
    let fuel := (← get).rest.length
    Reader.bracketed (shape.members fuel true empty) Reader.closeObject
  | some _ => Reader.refuse shape.title

end Shape

end DataStaging.Json
