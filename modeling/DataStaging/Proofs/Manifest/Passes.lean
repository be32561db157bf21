import DataStaging.Manifest.LinkTree
import DataStaging.Proofs.Files.Steps
import DataStaging.Proofs.Files.Walk
import DataStaging.Proofs.Pool.Atomic
import DataStaging.Proofs.Pool.Sequential

/-!
# The two passes

What a worker does with an entry in either pass, as a task of the pool. Taking an entry into account
is one look at the survey. Linking an entry is a row of calls on the file tree, and other workers'
calls may come between any two of them.

Results:
* `placeTask_of_parts`: making a link has a property if all calls of it have.
* `alone_linkTask`: a worker that is let alone does what `linkEntry` does.
* `surveys_of_survey`, `exists_run_link`: the passes that handle the entries in order are runs.
-/

namespace DataStaging.Manifest

/-- What the reader makes of a manifest: the entries it hands on, and how it ends. -/
abbrev Listing := List ManifestEntry × Except Fault Nat

/-! ## The first pass -/

def surveyJob (root : Option String) (listing : Listing) (depth : Nat) : Job Survey where
  entries := listing.1
  ending := listing.2
  depth := depth
  handle e := .atomic (Survey.note root e)

/-- Some run of `n` workers over a manifest surveys it without a fault and finds this table. -/
def Surveys (listing : Listing) (root : Option String) (n depth : Nat) (table : MountTable) :
    Prop :=
  ∃ final, Pool.Runs (surveyJob (Survey.effectiveRoot root) listing depth)
      (Pool.start (surveyJob (Survey.effectiveRoot root) listing depth) n .start) final ∧
    final.result = some (.ok ()) ∧
    final.shared.finish (Survey.effectiveRoot root) = .ok table

/-! ## The second pass -/

/-- What the workers of the second pass share: the file tree and the counts. -/
structure Linking where
  tree : FileTree
  report : LinkReport

abbrev LinkTask := Task Linking

/-- Counts an entry and is done with it. -/
def countTask (outcome : LinkOutcome) : LinkTask :=
  .act (fun s => { s with report := s.report.count outcome }) (fun _ => .done (.ok ()))

/-- The tree after a call that may be refused. -/
def settled (t : FileTree) : Except IoFault FileTree → FileTree
  | .ok t' => t'
  | .error _ => t

/-- A call that changes the tree or is refused. -/
def callTask (call : FileTree → Except IoFault FileTree)
    (next : Except IoFault Unit → LinkTask) : LinkTask :=
  .act (fun s => { s with tree := settled s.tree (call s.tree) })
    (fun s => next ((call s.tree).map (fun _ => ())))

/-- Asks whether a path leads to a directory; if it does, a refusal is of no account. -/
def excuseTask (folder : Location) (path : Bytes) (fault : IoFault)
    (next : Except IoFault Unit → LinkTask) : LinkTask :=
  .act id (fun s => next (if s.tree.isDirectory folder path then .ok () else .error fault))

/-- Makes a directory, unless there is one already. -/
def ensureTask (folder : Location) (path : Bytes) (next : Except IoFault Unit → LinkTask) :
    LinkTask :=
  callTask (fun t => t.makeDirectory folder path) (fun
    | .ok () => next (.ok ())
    | .error fault => excuseTask folder path fault next)

/-- Makes a directory and those on the way to it that are missing. -/
def directoriesTask (folder : Location) : List Char → Nat → (Except IoFault Unit → LinkTask) →
    LinkTask
  | _, 0, next => next (.error .wholeTree)
  | path, fuel + 1, next =>
    if path = [] then next (.ok ())
    else callTask (fun t => t.makeDirectory folder (Utf8.encodeChars path)) (fun
      | .ok () => next (.ok ())
      | .error .notFound =>
        match Path.parent? path with
        | none => next (.error .wholeTree)
        | some parent =>
          directoriesTask folder parent fuel (fun
            | .ok () => ensureTask folder (Utf8.encodeChars path) next
            | .error fault => next (.error fault))
      | .error fault => excuseTask folder (Utf8.encodeChars path) fault next)

/-- Makes a link and counts it. -/
def symlinkTask (folder : Location) (source : String) (target : List Char) : LinkTask :=
  callTask (fun t => t.makeLink folder (Utf8.encode source) (Utf8.encodeChars target)) (fun
    | .ok () => countTask .linked
    | .error _ => countTask .failed)

/-- Makes a link and the directories that lead to it. -/
def placeTask (folder : Location) (source : String) (target : List Char) : LinkTask :=
  match Path.parent? target with
  | none => symlinkTask folder source target
  | some parent =>
    directoriesTask folder parent (parent.length + 2) (fun
      | .ok () => symlinkTask folder source target
      | .error _ => countTask .failed)

/-- Links one entry. -/
def linkTask (table : MountTable) (destination : String) (folder : Location)
    (entry : ManifestEntry) : LinkTask :=
  match Locator.parse entry.storagePath with
  | .error fault => .done (.error fault)
  | .ok locator =>
    match table.find? locator.base with
    | none => .done (.error (.unresolvedMount locator.base entry.storagePath))
    | some row =>
      if row.folder.isNone then countTask .skipped
      else match row.source? entry.storagePath with
        | none => countTask .failed
        | some source =>
          if Path.leadsUp (placeOf entry) then countTask .failed
          else placeTask folder source (Path.joinChars destination.toList (placeOf entry))

def linkJob (table : MountTable) (destination : String) (folder : Location) (listing : Listing)
    (depth : Nat) : Job Linking where
  entries := listing.1
  ending := listing.2
  depth := depth
  handle := linkTask table destination folder

/-! ## Properties of all calls -/

section Parts

variable {P : LinkTask → Prop} {folder : Location} {target : List Char}
  {next : Except IoFault Unit → LinkTask}

/-- A property of all calls for a directory on the way to the target, and of the questions after
    them, is one of making such directories. -/
theorem directoriesTask_of_parts
    (hmake : ∀ path next, FileTree.Shortens path target → (∀ r, P (next r)) →
      P (callTask (fun t => t.makeDirectory folder (Utf8.encodeChars path)) next))
    (hexcuse : ∀ path fault next, (∀ r, P (next r)) → P (excuseTask folder path fault next))
    (hnext : ∀ r, P (next r)) (path : List Char) (hpath : FileTree.Shortens path target)
    (fuel : Nat) : P (directoriesTask folder path fuel next) := by
  induction fuel generalizing path next with
  | zero => exact hnext _
  | succ fuel ih =>
    rw [directoriesTask]
    split_ifs with hnil
    · exact hnext _
    · refine hmake path _ hpath fun r => ?_
      split
      · exact hnext _
      · split
        · exact hnext _
        · rename_i parent hparent
          refine ih (fun r => ?_) parent ((FileTree.shortens_parent hparent).trans hpath)
          cases r with
          | ok u =>
            refine hmake path _ hpath fun r => ?_
            cases r with
            | ok u => exact hnext _
            | error fault => exact hexcuse _ _ _ hnext
          | error fault => exact hnext _
      · exact hexcuse _ _ _ hnext

theorem placeTask_of_parts {source : String}
    (hmake : ∀ path next, FileTree.Shortens path target → (∀ r, P (next r)) →
      P (callTask (fun t => t.makeDirectory folder (Utf8.encodeChars path)) next))
    (hexcuse : ∀ path fault next, (∀ r, P (next r)) → P (excuseTask folder path fault next))
    (hlink : P (symlinkTask folder source target)) (hfailed : P (countTask .failed)) :
    P (placeTask folder source target) := by
  unfold placeTask
  split
  · exact hlink
  · rename_i parent hparent
    refine directoriesTask_of_parts hmake hexcuse (fun r => ?_) parent
      (FileTree.shortens_parent hparent) _
    cases r with
    | ok u => exact hlink
    | error fault => exact hfailed

end Parts

/-! ## A worker that is let alone -/

theorem alone_callTask (call : FileTree → Except IoFault FileTree)
    (next : Except IoFault Unit → LinkTask) (s : Linking) :
    (callTask call next).alone s =
      (next ((call s.tree).map (fun _ => ()))).alone ⟨settled s.tree (call s.tree), s.report⟩ := rfl

theorem alone_excuseTask (folder : Location) (path : Bytes) (fault : IoFault)
    (next : Except IoFault Unit → LinkTask) (s : Linking) :
    (excuseTask folder path fault next).alone s =
      (next (if s.tree.isDirectory folder path then .ok () else .error fault)).alone s := rfl

theorem alone_ensureTask (folder : Location) (path : Bytes) (next : Except IoFault Unit → LinkTask)
    (s : Linking) :
    (ensureTask folder path next).alone s =
      (next (s.tree.ensureLast folder path).1).alone
        ⟨(s.tree.ensureLast folder path).2, s.report⟩ := by
  rw [ensureTask, alone_callTask, FileTree.ensureLast]
  cases s.tree.makeDirectory folder path with
  | ok t => rfl
  | error fault =>
    show (excuseTask folder path fault next).alone s = _
    rw [alone_excuseTask]
    split <;> rfl

theorem alone_directoriesTask (folder : Location) (path : List Char) (fuel : Nat)
    (next : Except IoFault Unit → LinkTask) (s : Linking) :
    (directoriesTask folder path fuel next).alone s =
      (next (s.tree.makeDirectories folder path fuel).1).alone
        ⟨(s.tree.makeDirectories folder path fuel).2, s.report⟩ := by
  induction fuel generalizing path next s with
  | zero => rfl
  | succ fuel ih =>
    rw [directoriesTask, FileTree.makeDirectories]
    by_cases hpath : path = []
    · rw [if_pos hpath, if_pos hpath]
    · rw [if_neg hpath, if_neg hpath, alone_callTask, FileTree.ensureLast]
      cases hmade : s.tree.makeDirectory folder (Utf8.encodeChars path) with
      | ok t => rfl
      | error fault =>
        by_cases hfault : fault = .notFound
        · subst hfault
          simp only [FileTree.isDirectory_of_makeDirectory hmade, Bool.false_eq_true, if_false]
          simp only [Except.map, settled]
          cases hparent : Path.parent? path with
          | none => rfl
          | some parent =>
            simp only [ih]
            rcases hrest : s.tree.makeDirectories folder parent fuel with ⟨o, t⟩
            cases o with
            | ok u => exact alone_ensureTask folder _ next ⟨t, s.report⟩
            | error fault => rfl
        · -- any other refusal is excused by a directory that is there
          have hexcuse : ∀ k, (excuseTask folder (Utf8.encodeChars path) fault k).alone s =
              (k (if s.tree.isDirectory folder (Utf8.encodeChars path) then .ok ()
                else .error fault)).alone s := fun k => rfl
          by_cases hdir : s.tree.isDirectory folder (Utf8.encodeChars path) = true
          · cases fault <;> simp_all [Except.map, settled]
          · cases fault <;> simp_all [Except.map, settled]

theorem alone_symlinkTask (folder : Location) (source : String) (target : List Char) (s : Linking) :
    (symlinkTask folder source target).alone s =
      match s.tree.makeLink folder (Utf8.encode source) (Utf8.encodeChars target) with
      | .ok t => (.ok (), ⟨t, s.report.count .linked⟩)
      | .error _ => (.ok (), ⟨s.tree, s.report.count .failed⟩) := by
  rw [symlinkTask, alone_callTask]
  cases s.tree.makeLink folder (Utf8.encode source) (Utf8.encodeChars target) <;> rfl

theorem alone_placeTask (folder : Location) (source : String) (target : List Char) (s : Linking) :
    (placeTask folder source target).alone s =
      (.ok (), ⟨(placeLink s.tree folder source target).2,
        s.report.count (placeLink s.tree folder source target).1⟩) := by
  unfold placeTask placeLink
  cases hparent : Path.parent? target with
  | none =>
    simp only [alone_symlinkTask]
    cases s.tree.makeLink folder (Utf8.encode source) (Utf8.encodeChars target) <;> rfl
  | some parent =>
    simp only [alone_directoriesTask, FileTree.ensureDirectory, String.toList_ofList,
      String.length_ofList]
    rcases s.tree.makeDirectories folder parent (parent.length + 2) with ⟨o, t⟩
    cases o with
    | error fault => rfl
    | ok u =>
      simp only [alone_symlinkTask]
      cases t.makeLink folder (Utf8.encode source) (Utf8.encodeChars target) <;> rfl

/-- A worker that is let alone links an entry as `linkEntry` does, and counts it. -/
theorem alone_linkTask (table : MountTable) (destination : String) (folder : Location)
    (entry : ManifestEntry) (s : Linking) :
    (linkTask table destination folder entry).alone s =
      match linkEntry table destination folder entry s.tree with
      | .ok (outcome, t) => (.ok (), ⟨t, s.report.count outcome⟩)
      | .error fault => (.error fault, s) := by
  unfold linkTask linkEntry
  cases Locator.parse entry.storagePath with
  | error fault => rfl
  | ok locator =>
    simp only [bind, Except.bind]
    cases table.find? locator.base with
    | none => rfl
    | some row =>
      simp only
      split
      · rfl
      · cases row.source? entry.storagePath with
        | none => rfl
        | some source =>
          simp only
          split
          · rfl
          · rw [alone_placeTask]
            rfl

/-! ## Entries in order -/

theorem inOrder_atomic {σ : Type} {f : ManifestEntry → σ → Except Fault σ}
    {entries : List ManifestEntry} {s s' : σ} (h : process f entries s = .ok s') :
    Pool.inOrder (fun e => .atomic (f e)) entries s = (.ok (), s') := by
  induction entries generalizing s with
  | nil =>
    cases h
    rfl
  | cons e entries ih =>
    rw [process_cons] at h
    cases hf : f e s with
    | error fault =>
      rw [hf] at h
      cases h
    | ok s₁ =>
      rw [hf] at h
      rw [Pool.inOrder, Task.atomic_alone, hf]
      exact ih h

/-- A survey that takes the entries in order is that of a run, whatever the number of workers. -/
theorem surveys_of_process {listing : Listing} {root : Option String} {table : MountTable}
    {count : Nat} (s : Survey)
    (hprocess : process (Survey.note (Survey.effectiveRoot root)) listing.1 .start = .ok s)
    (hending : listing.2 = .ok count) (hfinish : s.finish (Survey.effectiveRoot root) = .ok table)
    (n depth : Nat) : Surveys listing root n depth table := by
  obtain ⟨final, hruns, hshared, hresult⟩ := Pool.exists_run_inOrder
    (surveyJob (Survey.effectiveRoot root) listing depth) n .start
  have horder : Pool.inOrder (surveyJob (Survey.effectiveRoot root) listing depth).handle
      (surveyJob (Survey.effectiveRoot root) listing depth).entries .start = (.ok (), s) :=
    inOrder_atomic hprocess
  rw [horder] at hshared hresult
  refine ⟨final, hruns, ?_, by rw [hshared]; exact hfinish⟩
  rw [hresult, Pool.resultOf]
  show some (listing.2.map (fun _ => ())) = _
  rw [hending]
  rfl

theorem surveys_of_survey {t : FileTree} {folder : Location} {path : String}
    {root : Option String} {table : MountTable} (h : survey t folder path root = .ok table)
    (n depth : Nat) : Surveys (readPath t folder path none) root n depth table := by
  unfold survey at h
  obtain ⟨s, hprocess, h⟩ := exists_of_bind_ok h
  obtain ⟨count, hending, hfinish⟩ := exists_of_bind_ok h
  exact surveys_of_process _ hprocess hending hfinish n depth

theorem linkEntries_eq_inOrder (table : MountTable) (destination : String) (folder : Location)
    (entries : List ManifestEntry) (s : Linking) :
    linkEntries table destination folder entries s.report s.tree =
      ((Pool.inOrder (linkTask table destination folder) entries s).1.map
        (fun _ => (Pool.inOrder (linkTask table destination folder) entries s).2.report),
        (Pool.inOrder (linkTask table destination folder) entries s).2.tree) := by
  induction entries generalizing s with
  | nil => rfl
  | cons e entries ih =>
    rw [linkEntries, Pool.inOrder, alone_linkTask]
    cases linkEntry table destination folder e s.tree with
    | error fault => rfl
    | ok r => exact ih ⟨r.2, s.report.count r.1⟩

/-- The links that are made in order are those of a run, whatever the number of workers. -/
theorem exists_run_link (t : FileTree) (folder : Location) (path : String) (table : MountTable)
    (destination : String) (n depth : Nat) :
    ∃ final r, Pool.Runs (linkJob table destination folder (readPath t folder path none) depth)
        (Pool.start (linkJob table destination folder (readPath t folder path none) depth) n
          ⟨t, .zero⟩) final ∧
      final.result = some r ∧
      link t folder path table destination =
        (r.map (fun _ => final.shared.report), final.shared.tree) := by
  obtain ⟨final, hruns, hshared, hresult⟩ := Pool.exists_run_inOrder
    (linkJob table destination folder (readPath t folder path none) depth) n ⟨t, .zero⟩
  refine ⟨final, _, hruns, hresult, ?_⟩
  unfold link
  rw [hshared]
  rcases readPath t folder path none with ⟨entries, ending⟩
  have hlinked := linkEntries_eq_inOrder table destination folder entries ⟨t, .zero⟩
  simp only at hlinked
  simp only [hlinked, linkJob, Pool.resultOf]
  rcases Pool.inOrder (linkTask table destination folder) entries ⟨t, .zero⟩ with ⟨o, s⟩
  cases o with
  | error fault => rfl
  | ok u => cases ending <;> rfl

end DataStaging.Manifest
