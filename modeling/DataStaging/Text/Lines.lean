import DataStaging.Text.Utf8
import DataStaging.Text.Blank

/-!
# Lines

Two ways to cut output into lines. A *stream* is cut in bytes at every line feed; each line is then
decoded on its own and loses the carriage returns and line feeds at its end. A *text* is cut in
characters at every line feed; each line loses one carriage return before it.

Results:
* `chunks_nil`, `flatten_chunks`: the byte lines of a stream, joined again, are the stream.
-/

namespace DataStaging.Lines

/-- The byte lines of a stream, each with its line feed; the last may lack it. -/
def chunks : Bytes → List Bytes
  | [] => []
  | b :: rest =>
    if b = 0x0A then [b] :: chunks rest
    else match chunks rest with
      | [] => [[b]]
      | line :: more => (b :: line) :: more

theorem chunks_nil : chunks [] = [] := rfl

theorem flatten_chunks (bytes : Bytes) : (chunks bytes).flatten = bytes := by
  induction bytes with
  | nil => rfl
  | cons b rest ih =>
    unfold chunks
    split
    · simp [ih]
    · split <;> rename_i h <;> simp_all

/-- Whether a byte line was ended by a line feed. -/
def isEnded (line : Bytes) : Bool := line.getLast? == some 0x0A

/-- Whether a character is one of the two that end lines. -/
def isBreak (c : Char) : Bool := c = '\n' || c = '\r'

/-- The text of one byte line. -/
def lineText (line : Bytes) : String :=
  String.ofList (Blank.dropEnd isBreak (Utf8.lossyChars line))

/-- The lines of a stream that was closed. -/
def ofStream (bytes : Bytes) : List String := (chunks bytes).map lineText

/-- The lines of a stream that is still open: a last line without its line feed is held back. -/
def ofOpenStream (bytes : Bytes) : List String :=
  ((chunks bytes).filter isEnded).map lineText

/-- Characters cut at every line feed; a last empty line is not counted. -/
def cutChars : List Char → List (List Char)
  | [] => []
  | c :: rest =>
    if c = '\n' then [] :: cutChars rest
    else match cutChars rest with
      | [] => [[c]]
      | line :: more => (c :: line) :: more

/-- A line without one carriage return at its end, which is there only before a line feed. -/
def dropReturn (line : List Char) : List Char :=
  if line.getLast? = some '\r' then line.dropLast else line

/-- The lines of a text. A line feed takes the carriage return before it away; a last line without
    a line feed keeps its own. -/
def ofText (s : String) : List String :=
  let lines := cutChars s.toList
  let dropped := lines.map dropReturn
  if s.toList.getLast? = some '\n' then dropped.map String.ofList
  else (dropped.dropLast ++ lines.getLast?.toList).map String.ofList

end DataStaging.Lines
