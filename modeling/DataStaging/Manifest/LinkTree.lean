import DataStaging.Manifest.Survey

/-!
# The tree of links

The second pass over a manifest puts a link for every entry below the destination, to where the
entry's mount serves it. An entry whose base is unknown ends the pass; one whose base has no folder
is skipped; one that cannot be linked is counted and left.

Results:
* `total_count`: each entry that is handled is counted once.
-/

namespace DataStaging

/-- Counts of a pass that makes links. -/
structure LinkReport where
  linked : Nat
  /-- Entries whose base has no folder. -/
  skipped : Nat
  /-- Entries that could not be linked. -/
  failed : Nat
deriving DecidableEq, Repr

/-- What became of one entry. -/
inductive LinkOutcome
  | linked
  | skipped
  | failed
deriving DecidableEq, Repr

namespace LinkReport

def zero : LinkReport := ⟨0, 0, 0⟩

def total (r : LinkReport) : Nat := r.linked + r.skipped + r.failed

def count (r : LinkReport) : LinkOutcome → LinkReport
  | .linked => { r with linked := r.linked + 1 }
  | .skipped => { r with skipped := r.skipped + 1 }
  | .failed => { r with failed := r.failed + 1 }

theorem total_count (r : LinkReport) (o : LinkOutcome) : (r.count o).total = r.total + 1 := by
  cases o <;> simp only [count, total] <;> omega

end LinkReport

namespace Manifest

/-- An entry's place below the destination: the separators at its front are dropped. -/
def placeOf (entry : ManifestEntry) : List Char := entry.relativePath.toList.dropWhile (· = '/')

/-- Makes a link and the directories that lead to it. -/
def placeLink (t : FileTree) (folder : Location) (source : String) (target : List Char) :
    LinkOutcome × FileTree :=
  let (made, t) :=
    match Path.parent? target with
    | some parent => t.ensureDirectory folder (String.ofList parent)
    | none => (.ok (), t)
  match made with
  | .error _ => (.failed, t)
  | .ok () =>
    match t.makeLink folder (Utf8.encode source) (Utf8.encodeChars target) with
    | .ok t => (.linked, t)
    | .error _ => (.failed, t)

/-- Links one entry. -/
def linkEntry (table : MountTable) (destination : String) (folder : Location)
    (entry : ManifestEntry) (t : FileTree) : Except Fault (LinkOutcome × FileTree) := do
  let locator ← Locator.parse entry.storagePath
  match table.find? locator.base with
  | none => .error (.unresolvedMount locator.base entry.storagePath)
  | some row =>
    if row.folder.isNone then return (.skipped, t)
    else match row.source? entry.storagePath with
      | none => return (.failed, t)
      | some source =>
        let place := placeOf entry
        if Path.leadsUp place then return (.failed, t)
        else return placeLink t folder source (Path.joinChars destination.toList place)

/-- Links entries in order, up to the first fault; gives the tree that is left in any case. -/
def linkEntries (table : MountTable) (destination : String) (folder : Location) :
    List ManifestEntry → LinkReport → FileTree → Except Fault LinkReport × FileTree
  | [], report, t => (.ok report, t)
  | entry :: rest, report, t =>
    match linkEntry table destination folder entry t with
    | .error fault => (.error fault, t)
    | .ok (outcome, t) => linkEntries table destination folder rest (report.count outcome) t

/-- Links every entry of the manifest that a path leads to. -/
def link (t : FileTree) (folder : Location) (path : String) (table : MountTable)
    (destination : String) : Except Fault LinkReport × FileTree :=
  let (entries, outcome) := readPath t folder path none
  match linkEntries table destination folder entries .zero t with
  | (.error fault, t) => (.error fault, t)
  | (.ok report, t) => (outcome.map (fun _ => report), t)

end Manifest

end DataStaging
