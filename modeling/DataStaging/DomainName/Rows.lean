import DataStaging.Text.Parts

/-!
# Tables of characters

The tables of this folder are rows of words. A word begins with a code point or a range of them, in
hexadecimal, and may go on with a sign and what the table says about them.
-/

namespace DataStaging.DomainName.Rows

/-- The value of a hexadecimal digit, letters in upper case. -/
def digitValue (c : Char) : Nat := if c.isDigit then c.toNat - 48 else c.toNat - 55

/-- The number that hexadecimal digits stand for. -/
def codePoint (digits : List Char) : Nat := digits.foldl (fun n d => n * 16 + digitValue d) 0

/-- The words of all rows. -/
def words (rows : List String) : List (List Char) :=
  rows.flatMap (fun row => Parts.cutAt ' ' row.toList)

/-- A range such as `41-5A`, or a single code point. -/
def range (word : List Char) : Nat × Nat :=
  match Parts.cutAt '-' word with
  | [first, last] => (codePoint first, codePoint last)
  | first :: _ => (codePoint first, codePoint first)
  | [] => (0, 0)

/-- The ranges of a table that says nothing else. -/
def ranges (rows : List String) : List (Nat × Nat) := (words rows).map range

/-- A range with a label behind a colon. -/
structure Labelled where
  first : Nat
  last : Nat
  label : List Char
deriving DecidableEq, Repr

/-- A word such as `5BE:R`. -/
def labelledRange (word : List Char) : Labelled :=
  match Parts.cutAt ':' word with
  | place :: label :: _ => ⟨(range place).1, (range place).2, label⟩
  | _ => ⟨0, 0, []⟩

/-- The ranges of a table with labels. -/
def labelled (rows : List String) : List Labelled := (words rows).map labelledRange

/-- The label of a character. -/
def label? (table : List Labelled) (c : Char) : Option (List Char) :=
  (table.find? (fun r => r.first ≤ c.toNat && c.toNat ≤ r.last)).map (·.label)

end DataStaging.DomainName.Rows
