import DataStaging.Host.FileTree
import DataStaging.Manifest.Entry
import DataStaging.Mount.Table

/-!
# Which mounts a manifest needs

The first pass over a manifest records every storage path in the mount table. Paths that begin with
the hash root are not recorded one by one; the root itself is recorded once if any path used it.

Results:
* `process_cons`: entries are handled in order, up to the first fault.
-/

namespace DataStaging.Manifest

/-- The entries of the manifest that a path leads to, and how its reading ended. The queue is closed
    after `room` entries, or never; once it is closed nothing is wrong any more. -/
def readPath (t : FileTree) (folder : Location) (path : String) (room : Option Nat) :
    List ManifestEntry × Except Fault Nat :=
  match t.find folder (Utf8.encode path) with
  | .error fault => ([], .error (.manifest path fault.message))
  | .ok (_, .file contents) =>
    let reading := readFor room contents
    if room.isSome then (reading.entries, .ok reading.entries.length)
    else
      (reading.entries, reading.count.mapError (fun problem => .manifest path problem.text))
  | .ok _ =>
    if room.isSome then ([], .ok 0)
    else ([], .error (.manifest path IoFault.isDirectory.message))

/-- The workers that handle entries: at least one. -/
def workers (n : Nat) : Nat := max n 1

/-- Handles entries in order, up to the first fault. -/
def process (handle : ManifestEntry → σ → Except Fault σ) : List ManifestEntry → σ → Except Fault σ
  | [], s => .ok s
  | entry :: rest, s => do process handle rest (← handle entry s)

theorem process_cons (handle : ManifestEntry → σ → Except Fault σ) (entry : ManifestEntry)
    (rest : List ManifestEntry) (s : σ) :
    process handle (entry :: rest) s = (handle entry s).bind (process handle rest) := rfl

/-- What a survey has found so far. -/
structure Survey where
  table : MountTable
  /-- Whether some path began with the hash root. -/
  usesRoot : Bool
deriving DecidableEq, Repr

namespace Survey

def start : Survey := ⟨.empty, false⟩

/-- Whether a storage path begins with the hash root, if there is one. -/
def underRoot (root : Option String) (storagePath : String) : Bool :=
  match root with
  | some root => root.toList.isPrefixOf storagePath.toList
  | none => false

/-- Takes one entry into account. -/
def note (root : Option String) (entry : ManifestEntry) (s : Survey) : Except Fault Survey :=
  if underRoot root entry.storagePath then .ok { s with usesRoot := true }
  else do
    let (_, table) ← s.table.recordText entry.storagePath
    return { s with table := table }

/-- Records the hash root if some path used it. -/
def finish (root : Option String) (s : Survey) : Except Fault MountTable :=
  match root with
  | some root => if s.usesRoot then (s.table.recordText root).map (·.2) else .ok s.table
  | none => .ok s.table

/-- An empty hash root is none. -/
def effectiveRoot (root : Option String) : Option String := root.filter (fun r => !r.isEmpty)

end Survey

/-- The mount table of the manifest that a path leads to. A fault of an entry comes before a fault
    of the manifest. -/
def survey (t : FileTree) (folder : Location) (path : String) (root : Option String) :
    Except Fault MountTable := do
  let root := Survey.effectiveRoot root
  let (entries, outcome) := readPath t folder path none
  let s ← process (Survey.note root) entries .start
  let _ ← outcome
  s.finish root

end DataStaging.Manifest
