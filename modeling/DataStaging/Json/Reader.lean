import DataStaging.Fault
import DataStaging.Process.Retry
import DataStaging.Text.Utf8

/-!
# Reading JSON

A reader takes bytes from the front of a text and keeps count of lines and columns, so that a fault
can say where it arose. A text is read *whole*, or as a *stream* whose next byte counts as read as
soon as it has been looked at; the two differ only in the columns they report.

A fault found while looking at the next byte is placed behind that byte. A fault in what a value
means has no place of its own: it is placed where the reader stands once it has tried to leave the
value.
-/

namespace DataStaging.Json

/-- What is wrong with a JSON text. -/
inductive Flaw
  | endInList
  | endInObject
  | endInString
  | endInValue
  | expectedColon
  | expectedListEnd
  | expectedObjectEnd
  | expectedWord
  | expectedValue
  | invalidEscape
  | invalidNumber
  | numberOutOfRange
  | invalidCodePoint
  | controlCharacter
  | keyNotString
  | loneSurrogate
  | trailingComma
  | trailingCharacters
  | endInHexEscape
  /-- The text is JSON, but not of the shape asked for. -/
  | shape (text : String)
deriving DecidableEq, Repr

namespace Flaw

def category : Flaw → JsonCategory
  | endInList | endInObject | endInString | endInValue => .truncated
  | shape _ => .mismatched
  | _ => .malformed

def text : Flaw → String
  | endInList => "EOF while parsing a list"
  | endInObject => "EOF while parsing an object"
  | endInString => "EOF while parsing a string"
  | endInValue => "EOF while parsing a value"
  | expectedColon => "expected `:`"
  | expectedListEnd => "expected `,` or `]`"
  | expectedObjectEnd => "expected `,` or `\x7d`"
  | expectedWord => "expected ident"
  | expectedValue => "expected value"
  | invalidEscape => "invalid escape"
  | invalidNumber => "invalid number"
  | numberOutOfRange => "number out of range"
  | invalidCodePoint => "invalid unicode code point"
  | controlCharacter => "control character (\\u0000-\\u001F) found while parsing a string"
  | keyNotString => "key must be a string"
  | loneSurrogate => "lone leading surrogate in hex escape"
  | trailingComma => "trailing comma"
  | trailingCharacters => "trailing characters"
  | endInHexEscape => "unexpected end of hex escape"
  | shape text => text

end Flaw

/-- A line, from one, and a number of bytes in it. -/
structure Place where
  line : Nat
  column : Nat
deriving DecidableEq, Repr

namespace Place

def start : Place := ⟨1, 0⟩

/-- The place behind one more byte. -/
def advance (p : Place) (b : UInt8) : Place :=
  if b = 0x0A then ⟨p.line + 1, 0⟩ else ⟨p.line, p.column + 1⟩

end Place

/-- A flaw, and its place if it is known. -/
structure Problem where
  flaw : Flaw
  place : Option Place
deriving DecidableEq, Repr

namespace Problem

def text (p : Problem) : String :=
  match p.place with
  | some place => p.flaw.text ++ " at line " ++ toString place.line ++ " column " ++
      toString place.column
  | none => p.flaw.text

def toFault (p : Problem) : Fault := .json p.flaw.category p.text

end Problem

/-- Where a reader stands. -/
structure Cursor where
  /-- The bytes not yet taken. -/
  rest : Bytes
  /-- Behind the last byte taken. -/
  place : Place
  /-- Whether the next byte has been looked at. -/
  held : Bool
  /-- Whether the text is read as a stream. -/
  stream : Bool
deriving Repr

namespace Cursor

def ofWhole (bytes : Bytes) : Cursor := ⟨bytes, .start, false, false⟩

def ofStream (bytes : Bytes) : Cursor := ⟨bytes, .start, false, true⟩

/-- Takes the next byte. -/
def advance (c : Cursor) : Cursor :=
  match c.rest with
  | [] => { c with held := false }
  | b :: rest => { c with rest := rest, place := c.place.advance b, held := false }

/-- The place behind the next byte, if there is one. -/
def behindNext (c : Cursor) : Place :=
  match c.rest with
  | [] => c.place
  | b :: _ => c.place.advance b

/-- Where a flaw in what was taken lies. -/
def here (c : Cursor) : Place := if c.stream && c.held then c.behindNext else c.place

/-- Where a flaw in the byte looked at lies. -/
def ahead (c : Cursor) : Place := if c.stream && !c.held then c.place else c.behindNext

/-- The four bytes that may stand between the parts of a JSON text. -/
def isBlank (b : UInt8) : Bool := b = 0x20 || b = 0x0A || b = 0x09 || b = 0x0D

/-- The place behind the blanks at the front, and what follows them. -/
def passBlanks : Bytes → Place → Bytes × Place
  | [], p => ([], p)
  | b :: rest, p => if isBlank b then passBlanks rest (p.advance b) else (b :: rest, p)

/-- Takes the blanks at the front and looks at the byte behind them. -/
def skipBlanks (c : Cursor) : Cursor :=
  let (rest, place) := passBlanks c.rest c.place
  { c with rest := rest, place := place, held := !rest.isEmpty }

end Cursor

/-- A reader of one part of a JSON text. After a problem the cursor stays where it arose. -/
abbrev Reader (α : Type) := ExceptT Problem (StateM Cursor) α

namespace Reader

/-- A flaw in what was taken. -/
def failHere (flaw : Flaw) : Reader α := do
  throw ⟨flaw, some (← get).here⟩

/-- A flaw in the byte looked at. -/
def failAhead (flaw : Flaw) : Reader α := do
  throw ⟨flaw, some (← get).ahead⟩

/-- A value of another shape than was asked for. -/
def failShape (text : String) : Reader α := throw ⟨.shape text, none⟩

/-- Looks at the next byte. -/
def peek : Reader (Option UInt8) := do
  modify (fun c => { c with held := !c.rest.isEmpty })
  return (← get).rest.head?

/-- Takes the byte looked at. -/
def eat : Reader Unit := modify Cursor.advance

/-- Takes the next byte. -/
def next : Reader (Option UInt8) := do
  let b := (← get).rest.head?
  modify Cursor.advance
  return b

/-- Looks at the next byte that is no blank. -/
def peekPastBlanks : Reader (Option UInt8) := do
  modify Cursor.skipBlanks
  return (← get).rest.head?

/-- Runs a reader for what it takes, whatever comes of it. -/
def attempt (reader : Reader Unit) : Reader Unit := fun c => (.ok (), (reader.run c).2)

/-- Gives a problem that has no place yet the present one. -/
def placed (reader : Reader α) : Reader α :=
  tryCatch reader (fun problem => do
    match problem.place with
    | some _ => throw problem
    | none => failHere problem.flaw)

/-- Reads a text and asks that only blanks follow. -/
def complete (reader : Reader α) : Reader α := do
  let value ← reader
  match ← peekPastBlanks with
  | some _ => failAhead .trailingCharacters
  | none => return value

/-- What a reader makes of a text. -/
def result (reader : Reader α) (c : Cursor) : Except Problem α := (reader.run c).1

end Reader

end DataStaging.Json
