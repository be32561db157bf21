import DataStaging.Manifest.LinkTree
import DataStaging.Mount.Mounting
import DataStaging.Transfer.Transfer

/-!
# Staging a task

A manifest is surveyed, every area that it needs is mounted below one folder, and then its entries
are linked into the task's tree. An area whose mount comes back empty is downloaded beside it if
there is a courier to do so; otherwise its entries stay unlinked.

Results:
* `served_add`: each base that is handled is counted once.
-/

namespace DataStaging

/-- Counts of one staging. -/
structure StagingReport where
  /-- Bases that the manifest needs. -/
  bases : Nat
  mounted : Nat
  downloaded : Nat
  /-- Bases with no folder. -/
  unstaged : Nat
  link : LinkReport
deriving DecidableEq, Repr

/-- How one base came to be served. -/
inductive Served
  | mounted (folder : String)
  | downloaded (folder : String)
  | unstaged
deriving DecidableEq, Repr

/-- The folder that serves a base, if one does. -/
def Served.folder? : Served → Option String
  | mounted folder | downloaded folder => some folder
  | unstaged => none

namespace StagingReport

def start (bases : Nat) : StagingReport := ⟨bases, 0, 0, 0, .zero⟩

/-- Counts one base. -/
def add (r : StagingReport) : Served → StagingReport
  | .mounted _ => { r with mounted := r.mounted + 1 }
  | .downloaded _ => { r with downloaded := r.downloaded + 1 }
  | .unstaged => { r with unstaged := r.unstaged + 1 }

/-- The bases counted so far. -/
def served (r : StagingReport) : Nat := r.mounted + r.downloaded + r.unstaged

theorem served_add (r : StagingReport) (s : Served) : (r.add s).served = r.served + 1 := by
  cases s <;> simp only [add, served] <;> omega

end StagingReport

/-- What stages a task: a mount client with its cache, key pairs, and a courier for areas whose
    mount is empty. -/
structure Stager where
  client : MountClient
  cache : MountCache
  credentials : Credentials
  courier : Option Courier

namespace Stager

def downloadNotice (row : MountRow) (folder : String) : String :=
  "Mount of " ++ row.area ++ " is empty, downloading it to " ++ folder

def unstagedNotice (row : MountRow) : String := "Nothing staged for " ++ row.base

/-- The folder below the mount root that a base is mounted on. -/
def mountFolder (root : String) (row : MountRow) : String :=
  Path.join root (MountTable.folderName row.base)

/-- The folder below the mount root that a base is downloaded to. -/
def downloadFolder (root : String) (row : MountRow) : String :=
  Path.join root (MountTable.folderName row.base ++ "_download")

/-- Mounts or downloads the area of one base. -/
def serve (stager : Stager) (root : String) (row : MountRow) : Act Host Served := do
  let locator ← Host.orFail (Locator.parse row.area)
  let folder := mountFolder root row
  if !(← Mounting.mount stager.client stager.credentials locator folder stager.cache) then
    return .mounted folder
  match stager.courier with
  | some courier =>
    let folder := downloadFolder root row
    Host.notify [downloadNotice row folder]
    let _ ← courier.download row.area folder none
    return .downloaded folder
  | none =>
    Host.notify [unstagedNotice row]
    return .unstaged

/-- The table with the folder that serves a base, if one does. -/
def settle (table : MountTable) (row : MountRow) (s : Served) : MountTable :=
  match s.folder? with
  | some folder => table.setFolder row.base folder
  | none => table

/-- Serves rows in order. -/
def serveAll (stager : Stager) (root : String) : List MountRow → StagingReport → MountTable →
    Act Host (StagingReport × MountTable)
  | [], report, table => return (report, table)
  | row :: rest, report, table => do
    let s ← stager.serve root row
    stager.serveAll root rest (report.add s) (settle table row s)

/-- Links the manifest's entries into the task's tree. -/
def link (manifest destination : String) (table : MountTable) : Act Host LinkReport := do
  let h ← get
  let (outcome, tree) := Manifest.link h.tree h.folder manifest table destination
  set { h with tree := tree }
  Host.orFail outcome

/-- Stages the task that a manifest describes. -/
def stage (stager : Stager) (manifest : String) (hashRoot : Option String)
    (destination root : String) : Act Host StagingReport := do
  let h ← get
  let table ← Host.orFail (Manifest.survey h.tree h.folder manifest hashRoot)
  let (report, table) ← stager.serveAll root table.rows (.start table.size) table
  return { report with link := ← link manifest destination table }

end Stager

end DataStaging
