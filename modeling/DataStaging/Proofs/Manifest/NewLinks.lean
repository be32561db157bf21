import DataStaging.Proofs.Files.Additions
import DataStaging.Proofs.Manifest.Counts
import DataStaging.Proofs.Pool.Balance
import DataStaging.Proofs.Pool.Verdict
import Mathlib.Data.Finset.Card

/-!
# What the second pass adds

The second pass changes nothing that is there. It adds directories and links, and counts an entry as
linked exactly if it has made a link for it: between a link and its count, the worker owes the
count. What the file system refuses is counted and is never the fault of the pass.

Results:
* `FileTree.card_linkPlaces_of_makeLink`: a call makes one link.
* `owes_linkTask`: the handling of an entry counts the link that it makes.
* `additions_of_runs`: what any run of the pool adds and counts.
* `additions_of_link`: and what a pass over the manifest at a path does.
-/

namespace DataStaging

/-- A directory or a link. -/
def Node.IsFolderOrLink (node : Node) : Prop :=
  node = .directory ∨ ∃ target, node = .link target

namespace FileTree

variable {t t' : FileTree} {folder l : Location} {path : Bytes}

/-! ## The links of a tree -/

/-- Whether a link stands at a location. -/
def isLink (t : FileTree) (l : Location) : Bool :=
  match t.get? l with
  | some (.link _) => true
  | _ => false

theorem isLink_iff : t.isLink l = true ↔ ∃ target, t.get? l = some (.link target) := by
  unfold isLink
  split
  · rename_i target hlink
    exact ⟨fun _ => ⟨target, hlink⟩, fun _ => rfl⟩
  · rename_i hother
    exact ⟨Bool.noConfusion, fun ⟨target, hlink⟩ => absurd hlink (hother target)⟩

/-- The locations at which links stand. -/
def linkPlaces (t : FileTree) : Finset Location :=
  (t.nodes.map Prod.fst).toFinset.filter (t.isLink · = true)

theorem mem_linkPlaces : l ∈ t.linkPlaces ↔ ∃ target, t.get? l = some (.link target) := by
  unfold linkPlaces
  rw [Finset.mem_filter, isLink_iff, and_iff_right_iff_imp]
  rintro ⟨target, hlink⟩
  have hne : l ≠ [] := by
    rintro rfl
    cases hlink
  unfold get? at hlink
  rw [if_neg hne, Option.map_eq_some_iff] at hlink
  obtain ⟨e, hfind, -⟩ := hlink
  obtain rfl : e.1 = l := by simpa using List.find?_some hfind
  exact List.mem_toFinset.mpr (List.mem_map_of_mem (List.mem_of_find?_eq_some hfind))

theorem linkPlaces_of_grows (h : Grows t t') : t.linkPlaces ⊆ t'.linkPlaces := by
  intro l hl
  obtain ⟨target, hlink⟩ := mem_linkPlaces.mp hl
  exact mem_linkPlaces.mpr ⟨target, h l _ hlink⟩

theorem linkPlaces_of_makeDirectory (h : t.makeDirectory folder path = .ok t') :
    t'.linkPlaces = t.linkPlaces := by
  obtain ⟨before, o, name, hmakes⟩ := makeDirectory_spec h
  ext l
  rw [mem_linkPlaces, mem_linkPlaces]
  by_cases hl : l = o ++ [name]
  · rw [hl, hmakes.get?_self, hmakes.missing]
    simp
  · rw [hmakes.get?_of_ne hl]

/-- A call that makes a link makes one. -/
theorem card_linkPlaces_of_makeLink {target : Bytes} (h : t.makeLink folder target path = .ok t') :
    t'.linkPlaces.card = t.linkPlaces.card + 1 := by
  obtain ⟨-, before, o, name, hmakes⟩ := makeLink_spec h
  have hinsert : t'.linkPlaces = insert (o ++ [name]) t.linkPlaces := by
    ext l
    rw [Finset.mem_insert, mem_linkPlaces, mem_linkPlaces]
    by_cases hl : l = o ++ [name]
    · rw [hl, hmakes.get?_self]
      simp
    · rw [hmakes.get?_of_ne hl]
      simp [hl]
  rw [hinsert, Finset.card_insert_of_notMem]
  rw [mem_linkPlaces, hmakes.missing]
  simp

end FileTree

namespace Manifest

variable {table : MountTable} {destination : String} {folder : Location} {listing : Listing}
  {n depth : Nat} {t : FileTree} {final : Pool Linking}

/-! ## Links and their counts -/

/-- The links that are there, less those that are counted. -/
def uncounted (s : Linking) : Int := s.tree.linkPlaces.card - s.report.linked

theorem owes_countTask {o : LinkOutcome} (ho : o ≠ .linked) : (countTask o).Owes uncounted 0 := by
  intro s
  show 0 + (uncounted s - uncounted { s with report := s.report.count o }) = 0
  cases o with
  | linked => exact absurd rfl ho
  | skipped | failed => simp [uncounted, LinkReport.count]

theorem owes_countTask_linked : (countTask .linked).Owes uncounted (-1) := by
  intro s
  show -1 + (uncounted s - uncounted { s with report := s.report.count .linked }) = 0
  simp only [uncounted, LinkReport.count]
  omega

theorem owes_makeDirectory {next : Except IoFault Unit → LinkTask}
    (hnext : ∀ r, (next r).Owes uncounted 0) (path : Bytes) :
    (callTask (fun t => t.makeDirectory folder path) next).Owes uncounted 0 := by
  intro s
  have hsame : uncounted { s with tree := settled s.tree (s.tree.makeDirectory folder path) } =
      uncounted s := by
    unfold uncounted
    cases hmake : s.tree.makeDirectory folder path with
    | ok t' => simp only [settled, FileTree.linkPlaces_of_makeDirectory hmake]
    | error fault => rfl
  rw [hsame, Int.sub_self]
  exact hnext _

theorem owes_excuseTask {next : Except IoFault Unit → LinkTask}
    (hnext : ∀ r, (next r).Owes uncounted 0) (path : Bytes) (fault : IoFault) :
    (excuseTask folder path fault next).Owes uncounted 0 := by
  intro s
  rw [show uncounted (id s) = uncounted s from rfl, Int.sub_self]
  exact hnext _

theorem owes_symlinkTask (source : String) (target : List Char) :
    (symlinkTask folder source target).Owes uncounted 0 := by
  intro s
  cases hmake : s.tree.makeLink folder (Utf8.encode source) (Utf8.encodeChars target) with
  | ok t' =>
    -- the new link is owed its count
    have hone : uncounted s - uncounted { s with tree := t' } = -1 := by
      simp only [uncounted, FileTree.card_linkPlaces_of_makeLink hmake]
      omega
    simp only [hmake, settled, Except.map, hone]
    exact owes_countTask_linked
  | error fault =>
    simp only [hmake, settled, Except.map, Int.sub_self]
    exact owes_countTask (by decide)

theorem outcomeOf_ne_linked {entry : ManifestEntry} (h : linkSource? table entry = none) :
    outcomeOf table entry ≠ .linked := by
  unfold outcomeOf
  rw [h]
  split
  · decide
  · decide

/-- The handling of an entry counts the link that it makes, and no other. -/
theorem owes_linkTask (table : MountTable) (destination : String) (folder : Location)
    (entry : ManifestEntry) :
    (linkTask table destination folder entry).Owes uncounted 0 := by
  cases hres : resolution table entry with
  | error fault =>
    rw [linkTask_of_error hres]
    exact rfl
  | ok u =>
    rcases linkTask_cases hres destination folder with ⟨hnone, htask⟩ | ⟨source, -, -, -, htask⟩
    · rw [htask]
      exact owes_countTask (outcomeOf_ne_linked hnone)
    · rw [htask]
      exact placeTask_of_parts (fun path next _ hnext => owes_makeDirectory hnext _)
        (fun path fault next hnext => owes_excuseTask hnext path fault)
        (owes_symlinkTask _ _) (owes_countTask (by decide))

/-! ## Passes -/

theorem adds_of_touches {entry : ManifestEntry} {t' : FileTree}
    (h : Touches folder destination entry t t') : FileTree.Adds Node.IsFolderOrLink t t' := by
  rcases h with rfl | ⟨-, ⟨_, _, _, _, -, hmakes⟩ | ⟨target, _, _, _, -, hmakes⟩⟩
  · exact .refl _
  · exact hmakes.adds (Or.inl rfl)
  · exact hmakes.adds (Or.inr ⟨target, rfl⟩)

/-- Whatever the workers have done so far, they have only added. -/
theorem adds_of_runs {report : LinkReport}
    (h : Pool.Runs (linkJob table destination folder listing depth)
      (Pool.start (linkJob table destination folder listing depth) n ⟨t, report⟩) final) :
    FileTree.Adds Node.IsFolderOrLink t final.shared.tree := by
  induction h with
  | refl => exact .refl t
  | tail hruns hstep ih =>
    rcases touches_of_step hruns hstep with heq | ⟨e, -, htouches⟩
    · rw [heq]
      exact ih
    · exact ih.trans (adds_of_touches htouches)

/-- A pass over the entries of a listing has led from one tree to another, with this outcome once it
    has one. -/
structure Additions (table : MountTable) (listing : Listing) (t t' : FileTree)
    (outcome : Option (Except Fault LinkReport)) : Prop where
  adds : FileTree.Adds Node.IsFolderOrLink t t'
  /-- What a path has led to, it leads to. -/
  keeps : ∀ folder path place, t.find folder path = .ok place → t'.find folder path = .ok place
  total : ∀ report, outcome = some (.ok report) →
    report.linked + report.skipped + report.failed = listing.1.length
  linked : ∀ report, outcome = some (.ok report) →
    report.linked = (t'.linkPlaces \ t.linkPlaces).card
  skipped : ∀ report, outcome = some (.ok report) →
    report.skipped = listing.1.countP (fun e => outcomeOf table e = .skipped)
  /-- A fault is that of the reading, or an entry's base cannot be told or is not known. -/
  fault : ∀ fault, outcome = some (.error fault) →
    listing.2 = .error fault ∨ ∃ e ∈ listing.1, resolution table e = .error fault

/-- In whatever order the workers take their steps, and whether they have come to an end or not. -/
theorem additions_of_runs
    (h : Pool.Runs (linkJob table destination folder listing depth)
      (Pool.start (linkJob table destination folder listing depth) n ⟨t, .zero⟩) final) :
    Additions table listing t final.shared.tree
      (final.result.map (Except.map fun _ => final.shared.report)) := by
  have hadds := adds_of_runs h
  have hok : ∀ report,
      final.result.map (Except.map fun _ => final.shared.report) = some (.ok report) →
      final.result = some (.ok ()) ∧ report = final.shared.report := by
    intro report houtcome
    obtain ⟨r, hresult, hr⟩ := Option.map_eq_some_iff.mp houtcome
    cases r with
    | error fault => cases hr
    | ok u =>
      cases hr
      exact ⟨hresult, rfl⟩
  refine ⟨hadds, fun folder path place => hadds.find, ?_, ?_, ?_, ?_⟩
  · intro report houtcome
    obtain ⟨hresult, rfl⟩ := hok report houtcome
    exact (counts_of_result_ok h hresult).1
  · intro report houtcome
    obtain ⟨hresult, rfl⟩ := hok report houtcome
    have hworth :=
      Pool.worth_of_result (fun e => owes_linkTask table destination folder e) h hresult
    have hcard := Finset.card_sdiff_add_card_eq_card (FileTree.linkPlaces_of_grows hadds.grows)
    simp only [uncounted, LinkReport.zero] at hworth
    omega
  · intro report houtcome
    obtain ⟨hresult, rfl⟩ := hok report houtcome
    exact (counts_of_result_ok h hresult).2
  · intro fault houtcome
    obtain ⟨r, hresult, hr⟩ := Option.map_eq_some_iff.mp houtcome
    cases r with
    | ok u => cases hr
    | error fault =>
      cases hr
      rcases Pool.fault_of_result_error h hresult with ⟨e, he⟩ | ⟨hending, -⟩
      · have hended := Pool.ended_of_runs
          (within_linkJob table destination folder listing depth) h (e, .error fault) he
        exact Or.inr ⟨e, Pool.mem_entries_of_ended h he, hended.symm⟩
      · exact Or.inl hending

/-- No fault of a pass is one of the file system. -/
theorem Additions.ne_io {path : String} {t' : FileTree}
    {outcome : Option (Except Fault LinkReport)}
    (h : Additions table (readPath t folder path none) t t' outcome) (refused : IoFault) :
    outcome ≠ some (.error (.io refused)) := by
  intro houtcome
  rcases h.fault _ houtcome with hreading | ⟨e, -, hresolution⟩
  · obtain ⟨message, hmessage⟩ := readPath_error hreading
    cases hmessage
  · unfold resolution Locator.parse at hresolution
    split at hresolution
    · rename_i fault hparse
      cases hread : Locator.read e.storagePath with
      | ok l =>
        rw [hread] at hparse
        cases hparse
      | error flaw =>
        rw [hread] at hparse
        cases hparse
        cases hresolution
    · split_ifs at hresolution
      cases hresolution

/-- Whatever files, directories and links there are, whatever the manifest at a path says, and in
    whatever order the workers take their steps: at any time, all that was there is still there, and
    what is new is a directory or a link. When the pass has succeeded, each entry is counted once,
    as linked as many as there are new links, and as skipped those whose base has no folder. What
    the file system refuses is not the fault of the pass. -/
theorem additions_of_link (table : MountTable) (destination : String) (folder : Location)
    (t : FileTree) (path : String) :
    (∀ n depth final,
      Pool.Runs (linkJob table destination folder (readPath t folder path none) depth)
        (Pool.start (linkJob table destination folder (readPath t folder path none) depth) n
          ⟨t, .zero⟩) final →
      Additions table (readPath t folder path none) t final.shared.tree
          (final.result.map (Except.map fun _ => final.shared.report)) ∧
        ∀ refused, final.result ≠ some (.error (.io refused))) ∧
    Additions table (readPath t folder path none) t (link t folder path table destination).2
        (some (link t folder path table destination).1) ∧
      ∀ refused, (link t folder path table destination).1 ≠ .error (.io refused) := by
  refine ⟨fun n depth final hruns => ?_, ?_⟩
  · have hadditions := additions_of_runs hruns
    refine ⟨hadditions, fun refused hresult => hadditions.ne_io refused ?_⟩
    rw [hresult]
    rfl
  · obtain ⟨final, r, hruns, hresult, hlink⟩ :=
      exists_run_link t folder path table destination 1 1
    have hadditions := additions_of_runs hruns
    rw [hresult] at hadditions
    rw [hlink]
    exact ⟨hadditions, fun refused hrefused => hadditions.ne_io refused (congrArg some hrefused)⟩

/-! ## A pass with all outcomes -/

/-- A manifest of four entries, a file where the second one needs a directory, and a mount. -/
def crowdedTree : FileTree :=
  ⟨[([Utf8.encode "m"], .file (Utf8.encode
      ("[\x7b\"relative_path\":\"a\",\"storage_path\":\"s3://b/a\"\x7d," ++
        "\x7b\"relative_path\":\"f/x\",\"storage_path\":\"s3://b/x\"\x7d," ++
        "\x7b\"relative_path\":\"a\",\"storage_path\":\"s3://b/c\"\x7d," ++
        "\x7b\"relative_path\":\"d\",\"storage_path\":\"s3://c/d\"\x7d]"))),
    ([Utf8.encode "task", Utf8.encode "f"], .file []), ([Utf8.encode "task"], .directory)]⟩

def crowdedTable : MountTable :=
  ⟨[⟨"s3://b", some "/mnt", "s3://b/"⟩, ⟨"s3://c", none, "s3://c/"⟩]⟩

/-- One entry is linked and one skipped; the one behind a file and the one whose place is taken have
    failed. -/
theorem additions_of_crowded :
    (link crowdedTree [] "m" crowdedTable "/task").1 = .ok ⟨1, 1, 2⟩ ∧
      ((link crowdedTree [] "m" crowdedTable "/task").2.linkPlaces \
        crowdedTree.linkPlaces).card = 1 := by
  have hlink : (link crowdedTree [] "m" crowdedTable "/task").1 = .ok ⟨1, 1, 2⟩ := by decide +kernel
  obtain ⟨-, hadditions, -⟩ := additions_of_link crowdedTable "/task" [] crowdedTree "m"
  exact ⟨hlink, (hadditions.linked _ (congrArg some hlink)).symm⟩

end Manifest

end DataStaging
