import DataStaging.Benchmark.Folder
import DataStaging.Proofs.Benchmark.Totals
import DataStaging.Proofs.Files.Descent
import DataStaging.Proofs.Files.Steps

/-!
# The summary of a listed folder

A folder is listed in whatever order its file system has, and holds other entries than artifacts.
Neither shows in its summary. What an entry that is no link comes to depends on its own node alone;
what a link comes to depends on where it leads, and that may be another entry of the folder.

Results:
* `readFile_entryPath_iff`: when an entry that is no link is read.
* `summary_of_listing`: a summary says what the artifacts come to, in every order of the listing and
  whatever else the folder holds.

**Deviation.** An entry that is no artifact can still matter: a link with an artifact's name may
lead to it (`summary_of_filledFolder`). Links are followed on purpose, so `OtherEntry` asks that
they are read as before.
-/

namespace DataStaging

namespace FileTree

variable {t t' : FileTree} {folder l : Location} {name : FileName}

/-! ## Folders that differ in one entry -/

/-- The second tree has in a folder the entries of the first one, but for one name. -/
structure SameEntriesBut (name : FileName) (l : Location) (t t' : FileTree) : Prop where
  names : ((t.names l).filter (· ≠ name)).Perm ((t'.names l).filter (· ≠ name))
  nodes : ∀ n ∈ t.names l, n ≠ name → t'.get? (l ++ [n]) = t.get? (l ++ [n])

/-- Without the node of a name, the folder's other names are listed as before. -/
theorem filter_names_erase (t : FileTree) (l : Location) (name : FileName) :
    ((t.erase (l ++ [name])).names l).filter (· ≠ name) = (t.names l).filter (· ≠ name) := by
  unfold names erase
  induction t.nodes with
  | nil => rfl
  | cons e rest ih =>
    by_cases he : e.1 = l ++ [name]
    · simpa [he] using ih
    · rw [List.filter_cons_of_pos (by simpa using he), List.filterMap_cons, List.filterMap_cons]
      split
      · exact ih
      · rw [List.filter_cons, List.filter_cons, ih]

theorem sameEntriesBut_put (t : FileTree) (l : Location) (name : FileName) (node : Node) :
    SameEntriesBut name l t (t.put (l ++ [name]) node) where
  names := by
    have hput : (t.put (l ++ [name]) node).names l = name :: (t.erase (l ++ [name])).names l := by
      simp [names, put, erase]
    rw [hput, List.filter_cons_of_neg (by simp), filter_names_erase]
  nodes := fun n _ hne => get?_put_of_ne t (by simpa using hne) node

/-! ## Reading an entry -/

theorem readFile_eq_ok_iff {path contents : Bytes} :
    t.readFile folder path = .ok contents ↔ ∃ l, t.find folder path = .ok (l, .file contents) := by
  unfold readFile
  constructor
  · intro h
    obtain ⟨⟨l, node⟩, hfind, hnode⟩ := exists_of_bind_ok h
    cases node with
    | file c =>
      cases hnode
      exact ⟨l, hfind⟩
    | directory => cases hnode
    | link target => cases hnode
  · rintro ⟨l, hfind⟩
    rw [hfind]
    rfl

/-- A name that is no link leads to its own node. -/
theorem eq_of_walk_name {k : Nat} {o : Location} (hname : IsName name)
    (hlink : ∀ target, t.get? (l ++ [name]) ≠ some (.link target))
    (h : walk t k l [name] = .ok (o, true)) : o = l ++ [name] := by
  cases hnode : t.get? (l ++ [name]) with
  | none =>
    rw [walk_missing hname hnode, if_pos rfl] at h
    cases h
  | some node =>
    cases node with
    | directory =>
      rw [walk_directory hname hnode, walk_nil] at h
      cases h
      rfl
    | file contents =>
      rw [walk_file hname hnode, if_pos rfl] at h
      cases h
      rfl
    | link target => exact absurd hnode (hlink target)

end FileTree

namespace BenchmarkSummary

open FileTree

variable {t t' : FileTree} {folder l : Location} {path : Bytes} {name : FileName}

theorem steps_entryPath (path : Bytes) (name : FileName) :
    steps (entryPath path name) = steps path ++ steps name := by
  unfold entryPath
  split_ifs with hlast
  · obtain ⟨before, rfl⟩ := List.getLast?_eq_some_iff.mp hlast
    rw [List.append_assoc, List.singleton_append, steps_append_slash, steps_append_slash]
    simp [steps]
  · exact steps_append_slash path name

theorem start_entryPath (hpath : path ≠ []) (folder : Location) (name : FileName) :
    start folder (entryPath path name) = start folder path := by
  have hhead : (entryPath path name).head? = path.head? := by
    unfold entryPath
    split_ifs <;> exact List.head?_append_of_ne_nil _ hpath
  rw [start, hhead, start]

theorem endsInSlash_entryPath (hnil : name ≠ []) (hslash : slash ∉ name) :
    endsInSlash (entryPath path name) = false := by
  have hlast : (entryPath path name).getLast? = name.getLast? := by
    unfold entryPath
    split_ifs
    · exact List.getLast?_append_of_ne_nil _ hnil
    · rw [List.getLast?_append_of_ne_nil _ (List.cons_ne_nil _ _),
        List.getLast?_cons_of_ne_nil hnil]
  unfold endsInSlash
  rw [hlast, beq_eq_false_iff_ne]
  exact fun h => hslash (List.mem_of_getLast? h)

/-- An entry that is no link is read exactly if it is a file, and neither its name nor its path is
    too long. -/
theorem readFile_entryPath_iff (hfolder : t.find folder path = .ok (l, .directory))
    (hslash : slash ∉ name) (hnil : name ≠ []) (hhere : name ≠ here) (hup : name ≠ up)
    (hlink : ∀ target, t.get? (l ++ [name]) ≠ some (.link target)) {contents : Bytes} :
    t.readFile folder (entryPath path name) = .ok contents ↔
      checkPath (entryPath path name) = .ok () ∧ name.length ≤ nameLimit ∧
        t.get? (l ++ [name]) = some (.file contents) := by
  obtain ⟨hcheck, hwalk, hl, -⟩ := find_eq_ok_iff.mp hfolder
  have hpath : path ≠ [] := by
    rintro rfl
    cases hcheck
  obtain ⟨j, hj⟩ := walk_append_directory hwalk hl [name]
  have hends : endsInSlash (entryPath path name) = false := endsInSlash_entryPath hnil hslash
  simp only [readFile_eq_ok_iff, find_eq_ok_iff, start_entryPath hpath, steps_entryPath,
    steps_of_not_mem hnil hslash, hj, hends, Bool.false_eq_true, false_implies, and_true]
  rw [exists_and_left]
  refine and_congr_right fun _ => ⟨?_, ?_⟩
  · rintro ⟨o, ho, hfile⟩
    have hlength : name.length ≤ nameLimit := by
      by_contra hlong
      rw [walk_long hhere hup (Nat.not_le.mp hlong)] at ho
      cases ho
    rw [eq_of_walk_name ⟨hhere, hup, Nat.not_lt.mpr hlength⟩ hlink ho] at hfile
    exact ⟨hlength, hfile⟩
  · rintro ⟨hlength, hfile⟩
    refine ⟨l ++ [name], ?_, hfile⟩
    rw [walk_file ⟨hhere, hup, Nat.not_lt.mpr hlength⟩ hfile, if_pos rfl]

/-! ## Artifacts of a folder -/

/-- The artifact that an entry is: its name is UTF-8 and that of an artifact, and what is read from
    it are metrics. -/
def artifactAt? (t : FileTree) (folder : Location) (path : Bytes) (name : FileName) :
    Option (String × BenchmarkMetrics) := do
  let text ← Utf8.decode? name
  let operation ← Artifact.operation? text
  let contents ← (t.readFile folder (entryPath path name)).toOption
  let m ← (BenchmarkMetrics.decode contents).toOption
  return (operation, m)

/-- A file is summed up exactly if it is an artifact. -/
theorem ofFiles_filesIn (t : FileTree) (folder : Location) (path : Bytes)
    (listing : List FileName) : ofFiles (filesIn t folder path listing) =
      ofArtifacts (listing.filterMap (artifactAt? t folder path)) := by
  rw [ofFiles_eq, filesIn, List.filterMap_filterMap]
  congr 1
  refine List.filterMap_congr fun name _ => ?_
  unfold artifactAt? artifact?
  cases (t.readFile folder (entryPath path name)).toOption with
  | none => cases Utf8.decode? name with
    | none => rfl
    | some text => cases Artifact.operation? text <;> simp
  | some contents => rfl

/-- The name of an artifact is that of an entry: it leads nowhere else. -/
theorem isEntry_of_operation? {text operation : String} (htext : Utf8.decode? name = some text)
    (hop : Artifact.operation? text = some operation) : name ≠ [] ∧ name ≠ here ∧ name ≠ up := by
  have hne : ∀ (n : FileName) (text' : String), Utf8.decode? n = some text' →
      Artifact.operation? text' = none → name ≠ n := by
    rintro n text' hdecode hnone rfl
    obtain rfl := Option.some.inj (htext.symm.trans hdecode)
    rw [hnone] at hop
    cases hop
  exact ⟨hne [] "" (by decide +kernel) (by decide +kernel),
    hne here "." (by decide +kernel) (by decide +kernel),
    hne up ".." (by decide +kernel) (by decide +kernel)⟩

theorem toOption_eq_some_iff {ε α : Type} {x : Except ε α} {a : α} :
    x.toOption = some a ↔ x = .ok a := by
  cases x <;> simp [Except.toOption]

/-- What an entry that is no link comes to depends on its node alone. -/
theorem artifactAt?_congr (hfolder : t.find folder path = .ok (l, .directory))
    (hfolder' : t'.find folder path = .ok (l, .directory)) (hslash : slash ∉ name)
    (hnode : t'.get? (l ++ [name]) = t.get? (l ++ [name]))
    (hlink : ∀ target, t.get? (l ++ [name]) ≠ some (.link target)) :
    artifactAt? t' folder path name = artifactAt? t folder path name := by
  unfold artifactAt?
  cases htext : Utf8.decode? name with
  | none => rfl
  | some text =>
    cases hop : Artifact.operation? text with
    | none => simp [hop]
    | some operation =>
      obtain ⟨hnil, hhere, hup⟩ := isEntry_of_operation? htext hop
      have hread : (t'.readFile folder (entryPath path name)).toOption =
          (t.readFile folder (entryPath path name)).toOption := by
        refine Option.ext fun contents => ?_
        rw [toOption_eq_some_iff, toOption_eq_some_iff,
          readFile_entryPath_iff hfolder' hslash hnil hhere hup (hnode ▸ hlink),
          readFile_entryPath_iff hfolder hslash hnil hhere hup hlink, hnode]
      rw [hread]

/-- The folder has one entry more or less, or another one in its place. That entry is no artifact,
    and every link is read as before. -/
structure OtherEntry (t t' : FileTree) (folder l : Location) (path : Bytes) (name : FileName) :
    Prop where
  found : t'.find folder path = .ok (l, .directory)
  same : SameEntriesBut name l t t'
  before : name ∈ t.names l → artifactAt? t folder path name = none
  after : name ∈ t'.names l → artifactAt? t' folder path name = none
  links : ∀ n ∈ t.names l, n ≠ name → ∀ target, t.get? (l ++ [n]) = some (.link target) →
    artifactAt? t' folder path n = artifactAt? t folder path n

theorem filterMap_filter_ne {α : Type} {f : FileName → Option α} {listing : List FileName}
    (h : name ∈ listing → f name = none) :
    (listing.filter (· ≠ name)).filterMap f = listing.filterMap f := by
  rw [List.filterMap_filter]
  refine List.filterMap_congr fun n hn => ?_
  by_cases hname : n = name
  · subst hname
    simp [h hn]
  · simp [hname]

theorem OtherEntry.artifacts_perm (h : OtherEntry t t' folder l path name)
    (hfolder : t.find folder path = .ok (l, .directory)) (hnames : ∀ n ∈ t.names l, slash ∉ n) :
    ((t.names l).filterMap (artifactAt? t folder path)).Perm
      ((t'.names l).filterMap (artifactAt? t' folder path)) := by
  rw [← filterMap_filter_ne h.before, ← filterMap_filter_ne h.after]
  have hcongr : ((t.names l).filter (· ≠ name)).filterMap (artifactAt? t folder path) =
      ((t.names l).filter (· ≠ name)).filterMap (artifactAt? t' folder path) := by
    refine List.filterMap_congr fun n hn => ?_
    obtain ⟨hn, hne⟩ := List.mem_filter.mp hn
    have hne : n ≠ name := by simpa using hne
    by_cases hlink : ∃ target, t.get? (l ++ [n]) = some (.link target)
    · obtain ⟨target, hlink⟩ := hlink
      exact (h.links n hn hne target hlink).symm
    · exact (artifactAt?_congr hfolder h.found (hnames n hn) (h.same.nodes n hn hne)
        (not_exists.mp hlink)).symm
  rw [hcongr]
  exact h.same.names.filterMap _

theorem ofFolder_eq {path : String}
    (hfolder : t.find folder (Utf8.encode path) = .ok (l, .directory)) :
    ofFolder t folder path = .ok (ofArtifacts
      ((t.names l).filterMap (artifactAt? t folder (Utf8.encode path)))) := by
  unfold ofFolder
  rw [hfolder, ← ofFiles_filesIn]
  rfl

/-- The summary of a folder does not depend on the order in which the folder is listed, and it is
    what the artifacts among the entries come to. Any other entry can be added, removed or replaced,
    as long as no link is read differently for it. -/
theorem summary_of_listing {path : String}
    (hfolder : t.find folder (Utf8.encode path) = .ok (l, .directory))
    (hnames : ∀ n ∈ t.names l, slash ∉ n) :
    ∃ s, ofFolder t folder path = .ok s ∧
      (∀ listing, listing.Perm (t.names l) →
        ofFiles (filesIn t folder (Utf8.encode path) listing) = s ∧
        SumsUp (listing.filterMap (artifactAt? t folder (Utf8.encode path))) s) ∧
      ∀ t' name, OtherEntry t t' folder l (Utf8.encode path) name →
        ofFolder t' folder path = .ok s := by
  refine ⟨_, ofFolder_eq hfolder, fun listing hperm => ?_, fun t' name hother => ?_⟩
  · have hartifacts := hperm.filterMap (artifactAt? t folder (Utf8.encode path))
    have hsum := (sumsUp_ofArtifacts _).eq_of_perm (sumsUp_ofArtifacts _) hartifacts
    rw [ofFiles_filesIn]
    exact ⟨hsum, hsum ▸ sumsUp_ofArtifacts _⟩
  · rw [ofFolder_eq hother.found]
    exact congrArg Except.ok ((sumsUp_ofArtifacts _).eq_of_perm (sumsUp_ofArtifacts _)
      (hother.artifacts_perm hfolder hnames).symm)

/-! ## Two folders -/

/-- Two artifacts in a folder: one that ended before it began, and one behind a link. -/
def mixedFolder : FileTree := ⟨[
  ([Utf8.encode "bench"], .directory),
  ([Utf8.encode "bench", Utf8.encode "up_1_benchmark.json"], .file (Utf8.encode "[5,2,7,1]")),
  ([Utf8.encode "bench", Utf8.encode "dl_2_benchmark.json"], .link (Utf8.encode "../data")),
  ([Utf8.encode "data"], .file (Utf8.encode "[0,9,1,1]"))]⟩

/-- The folder is listed backwards, and a directory with an artifact's name is added. -/
theorem summary_of_mixedFolder : ∃ s,
    ofFolder mixedFolder [] "bench" = .ok s ∧
    ofFiles (filesIn mixedFolder [] (Utf8.encode "bench")
      (mixedFolder.names [Utf8.encode "bench"]).reverse) = s ∧
    s.byOperation = [("dl", ⟨1, 1, 1, 9⟩), ("up", ⟨1, 7, 1, 0⟩)] ∧
    (s.totals, s.earliest, s.latest) = (⟨2, 8, 2, 9⟩, some 0, some 9) ∧
    ofFolder (mixedFolder.put [Utf8.encode "bench", Utf8.encode "y_3_benchmark.json"] .directory)
      [] "bench" = .ok s := by
  have hfolder : mixedFolder.find [] (Utf8.encode "bench") =
      .ok ([Utf8.encode "bench"], .directory) := by decide +kernel
  have hlist : mixedFolder.names [Utf8.encode "bench"] =
      [Utf8.encode "up_1_benchmark.json", Utf8.encode "dl_2_benchmark.json"] := by rfl
  have hnames : ∀ n ∈ mixedFolder.names [Utf8.encode "bench"], slash ∉ n := by decide +kernel
  obtain ⟨s, hs, hlisting, hother⟩ := summary_of_listing hfolder hnames
  have hvalue : ofFolder mixedFolder [] "bench" = .ok ⟨⟨2, 8, 2, 9⟩, some 0, some 9,
      [("dl", ⟨1, 1, 1, 9⟩), ("up", ⟨1, 7, 1, 0⟩)]⟩ := by decide +kernel
  obtain rfl := Except.ok.inj (hs.symm.trans hvalue)
  refine ⟨_, hs, (hlisting _ (List.reverse_perm _)).1, rfl, rfl,
    hother _ (Utf8.encode "y_3_benchmark.json")
      ⟨by decide +kernel, sameEntriesBut_put _ [Utf8.encode "bench"] _ _, ?_,
        fun _ => by decide +kernel, ?_⟩⟩
  · rw [hlist]
    decide +kernel
  · intro n hn _ target hlink
    rw [hlist] at hn
    simp only [List.mem_cons, List.not_mem_nil, or_false] at hn
    rcases hn with rfl | rfl
    · cases hlink
    · have hlinked : artifactAt? mixedFolder [] (Utf8.encode "bench")
          (Utf8.encode "dl_2_benchmark.json") = some ("dl", ⟨0, 9, 1, 1⟩) := by decide +kernel
      rw [hlinked]
      decide +kernel

/-- A folder whose one artifact is a link to a place that is empty. -/
def linkedFolder : FileTree := ⟨[
  ([Utf8.encode "bench"], .directory),
  ([Utf8.encode "bench", Utf8.encode "up_1_benchmark.json"], .link (Utf8.encode "data"))]⟩

/-- The folder after another entry was added, just where the link leads to. -/
def filledFolder : FileTree :=
  linkedFolder.put [Utf8.encode "bench", Utf8.encode "data"] (.file (Utf8.encode "[0,9,7,1]"))

/-- An entry with another name counts if an artifact's link leads to it. -/
theorem summary_of_filledFolder :
    SameEntriesBut (Utf8.encode "data") [Utf8.encode "bench"] linkedFolder filledFolder ∧
    Utf8.encode "data" ∉ linkedFolder.names [Utf8.encode "bench"] ∧
    artifactAt? filledFolder [] (Utf8.encode "bench") (Utf8.encode "data") = none ∧
    ofFolder linkedFolder [] "bench" = .ok empty ∧
    ofFolder filledFolder [] "bench" =
      .ok ⟨⟨1, 7, 1, 9⟩, some 0, some 9, [("up", ⟨1, 7, 1, 9⟩)]⟩ :=
  ⟨sameEntriesBut_put _ [Utf8.encode "bench"] _ _, by decide +kernel, by decide +kernel,
    by decide +kernel, by decide +kernel⟩

end BenchmarkSummary

end DataStaging
