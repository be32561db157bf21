import DataStaging.Storage.Locator
import DataStaging.Mount.Shared
import DataStaging.Path
import DataStaging.Text.Utf8

/-!
# The mount table

For each base that a task needs: what all its locators share, and the local folder that serves it
once a mount or a download has succeeded. Rows are kept in ascending order of their bases.
-/

namespace DataStaging

/-- What is known of one base. -/
structure MountRow where
  base : String
  /-- The local folder that serves the base. -/
  folder : Option String
  /-- The shared beginning of the locators recorded for the base; of one locator, all of it. -/
  shared : String
deriving DecidableEq, Repr

namespace MountRow

/-- What is mounted: the shared beginning up to its last `/`, but never less than the base. -/
def area (row : MountRow) : String :=
  let whole := (row.base ++ "/").toList
  let upto := Shared.cut row.shared.toList
  if (Utf8.encodeChars upto).length < (Utf8.encodeChars whole).length then String.ofList whole
  else String.ofList upto

/-- What follows `start` in a text that begins with it. -/
def dropStart? : List Char → List Char → Option (List Char)
  | [], text => some text
  | _ :: _, [] => none
  | a :: start, b :: text => if a = b then dropStart? start text else none

/-- The local path that serves a storage path, if the base has a folder and the path lies in the
    mounted area. -/
def source? (row : MountRow) (storagePath : String) : Option String := do
  let folder ← row.folder
  let relative ← dropStart? row.area.toList storagePath.toList
  return Path.join folder (String.ofList relative)

end MountRow

/-- The rows of all recorded bases, ascending. -/
structure MountTable where
  rows : List MountRow
deriving DecidableEq, Repr

namespace MountTable

def empty : MountTable := ⟨[]⟩

def find? (table : MountTable) (base : String) : Option MountRow :=
  table.rows.find? (fun row => row.base == base)

/-- Folds a text into the row of `base`, or starts the row in its place. -/
def recordInto (base text : String) : List MountRow → List MountRow
  | [] => [⟨base, none, text⟩]
  | row :: rest =>
    if row.base = base then
      { row with shared := String.ofList (Shared.meet row.shared.toList text.toList) } :: rest
    else if base < row.base then ⟨base, none, text⟩ :: row :: rest
    else row :: recordInto base text rest

/-- Records a locator. -/
def record (table : MountTable) (locator : Locator) : MountTable :=
  ⟨recordInto locator.base locator.text table.rows⟩

/-- Records the locator that a text names; the answer is its base. -/
def recordText (table : MountTable) (text : String) : Except Fault (String × MountTable) := do
  let locator ← Locator.parse text
  return (locator.base, table.record locator)

/-- Sets the folder that serves a base. A base that was never recorded stays unknown. -/
def setFolder (table : MountTable) (base folder : String) : MountTable :=
  ⟨table.rows.map (fun row => if row.base = base then { row with folder := some folder } else row)⟩

/-- Whether a base was recorded. -/
def contains (table : MountTable) (base : String) : Bool := (table.find? base).isSome

def bases (table : MountTable) : List String := table.rows.map (·.base)

def size (table : MountTable) : Nat := table.rows.length

/-- A name for the folder of a base, made of letters, digits, `-`, `.` and `_` only. -/
def isPlain (c : Char) : Bool := c.isAlphanum || c = '-' || c = '.'

/-- A text with every `://` made into one `_`. -/
def joinScheme : List Char → List Char
  | [] => []
  | ':' :: '/' :: '/' :: rest => '_' :: joinScheme rest
  | c :: rest => c :: joinScheme rest

/-- The name of the folder that a base is mounted on: `s3://bucket` gives `s3_bucket`. -/
def folderName (base : String) : String :=
  String.ofList ((joinScheme base.toList).map (fun c => if isPlain c then c else '_'))

end MountTable

end DataStaging
