import DataStaging.Proofs.Manifest.Footprint
import DataStaging.Proofs.Manifest.Surveyed

/-!
# What the first pass resolves for the second

The first pass tells entries under the hash root by the beginning of their text alone, the second
pass by the bucket that the text names. The two agree unless the root stops inside a bucket's name:
then an entry of a longer name counts as under the root and is never recorded.

Results:
* `contains_iff_not_stranded`: the entries whose base the first pass leaves unknown.
* `result_iff_not_stranded`: the second pass fails exactly if there is such an entry, and it fails
  with one of these.
-/

namespace DataStaging.Manifest

open Survey (underRoot effectiveRoot)

variable {root : Option String} {entries : List ManifestEntry} {table : MountTable}

/-! ## Entries under the hash root -/

theorem underRoot_iff {path : String} :
    underRoot root path = true ↔ ∃ r, root = some r ∧ r.toList <+: path.toList := by
  cases root with
  | none => simp [underRoot]
  | some r => simp [underRoot]

/-- The hash root is the base of a bucket, the entry's path goes on inside the bucket's name, and no
    entry outside the root lies in the bucket of the longer name. -/
def Stranded (root : Option String) (entries : List ManifestEntry) (entry : ManifestEntry) : Prop :=
  ∃ r l c rest, root = some r ∧ Locator.read r = .ok l ∧ r = l.base ∧
    entry.storagePath.toList = r.toList ++ c :: rest ∧ c ≠ '/' ∧
    ¬ Recorded root entries (l.bucket.prolong (c :: (Locator.cutSegment rest).1)).base

/-- A path that begins with a locator is a locator. It has the same base, or the base of the longer
    name where the beginning was a base alone. -/
theorem read_of_prefix {r path : String} {l : Locator} (hr : Locator.read r = .ok l)
    (hp : r.toList <+: path.toList) :
    ∃ l', Locator.read path = .ok l' ∧ (l'.base = l.base ∨
      r = l.base ∧ ∃ c rest, path.toList = r.toList ++ c :: rest ∧ c ≠ '/' ∧
        l'.base = (l.bucket.prolong (c :: (Locator.cutSegment rest).1)).base) := by
  obtain ⟨-, hwf, htext⟩ := Locator.read_spec hr
  obtain ⟨more, hmore⟩ := hp
  rcases htext with ⟨hbase, -⟩ | hkey
  · have hpath : path.toList = l.bucket.base.toList ++ more := by
      rw [← hmore, hbase]
      rfl
    refine ⟨_, Locator.read_append l.bucket hwf hpath, ?_⟩
    cases more with
    | nil => exact Or.inl (congrArg Bucket.base (Bucket.prolong_nil l.bucket))
    | cons c rest =>
      by_cases hc : c = '/'
      · left
        subst hc
        exact congrArg Bucket.base (Bucket.prolong_nil l.bucket)
      · refine Or.inr ⟨String.toList_injective hbase, c, rest, hmore.symm, hc, ?_⟩
        simp only [Locator.cutSegment, if_neg hc]
        rfl
  · have hpath : path.toList = l.bucket.base.toList ++ '/' :: (l.key.toList ++ more) := by
      rw [← hmore, hkey]
      simp [Locator.base]
    exact ⟨_, Locator.read_base_key l.bucket hwf hpath, Or.inl rfl⟩

theorem base_prolong_ne (b : Bucket) (c : Char) (more : List Char) :
    (b.prolong (c :: more)).base ≠ b.base := by
  intro h
  have hlen := congrArg (fun s => s.toList.length) h
  simp only [Bucket.toList_base_prolong, List.length_append, List.length_cons] at hlen
  omega

theorem stranded_iff {r : String} {l : Locator} (hroot : root = some r)
    (hr : Locator.read r = .ok l) {entry : ManifestEntry} :
    Stranded root entries entry ↔ r = l.base ∧ ∃ c rest,
      entry.storagePath.toList = r.toList ++ c :: rest ∧ c ≠ '/' ∧
      ¬ Recorded root entries (l.bucket.prolong (c :: (Locator.cutSegment rest).1)).base := by
  constructor
  · rintro ⟨r', l', c, rest, hroot', hr', hbase, htext, hc, hnot⟩
    rw [hroot] at hroot'
    cases hroot'
    rw [hr] at hr'
    cases hr'
    exact ⟨hbase, c, rest, htext, hc, hnot⟩
  · rintro ⟨hbase, c, rest, htext, hc, hnot⟩
    exact ⟨r, l, c, rest, hroot, hr, hbase, htext, hc, hnot⟩

theorem contains_of_root (h : Surveyed root entries table) {r : String} {l : Locator}
    (hroot : root = some r) (huses : UsesRoot root entries) (hr : Locator.read r = .ok l)
    (b : String) : table.contains b = true ↔ Recorded root entries b ∨ b = l.base := by
  rw [h.contains_iff]
  refine or_congr_right ⟨?_, fun hb => ⟨r, l, hroot, huses, hr, hb.symm⟩⟩
  rintro ⟨r', l', hroot', -, hr', hb⟩
  rw [hroot] at hroot'
  cases hroot'
  rw [hr] at hr'
  cases hr'
  exact hb.symm

/-- An entry with the root's own base is not stranded. -/
theorem not_stranded_of_base {r : String} {l l' : Locator} (hroot : root = some r)
    (hr : Locator.read r = .ok l) {entry : ManifestEntry}
    (hread : Locator.read entry.storagePath = .ok l') (hbase : l'.base = l.base) :
    ¬ Stranded root entries entry := by
  rw [stranded_iff hroot hr]
  rintro ⟨hr', c, rest, htext, hc, -⟩
  have hpath : entry.storagePath.toList = l.bucket.base.toList ++ c :: rest := by
    rw [htext, hr']
    rfl
  have hlong := Locator.read_append l.bucket (Locator.wellFormed_of_read hr) hpath
  rw [hread] at hlong
  cases hlong
  simp only [Locator.cutSegment, if_neg hc] at hbase
  exact base_prolong_ne l.bucket c _ hbase

/-- Every entry is a locator, and its base is known unless the entry is stranded. -/
theorem contains_iff_not_stranded (h : Surveyed root entries table) {entry : ManifestEntry}
    (he : entry ∈ entries) : ∃ l, Locator.read entry.storagePath = .ok l ∧
      (table.contains l.base = true ↔ ¬ Stranded root entries entry) := by
  by_cases hunder : underRoot root entry.storagePath = true
  · obtain ⟨r, hroot, hprefix⟩ := underRoot_iff.mp hunder
    have huses : UsesRoot root entries := ⟨entry, he, hunder⟩
    obtain ⟨lr, hlr⟩ := h.root_readable r hroot huses
    obtain ⟨l, hl, hbase⟩ := read_of_prefix hlr hprefix
    refine ⟨l, hl, ?_⟩
    rw [contains_of_root h hroot huses hlr]
    rcases hbase with hsame | ⟨hr, c, rest, htext, hc, hlong⟩
    · exact iff_of_true (Or.inr hsame) (not_stranded_of_base hroot hlr hl hsame)
    · -- the longer base is not the root's, so it is known only if it was recorded
      have hne : l.base ≠ lr.base := hlong ▸ base_prolong_ne lr.bucket c _
      rw [stranded_iff hroot hlr, or_iff_left hne, hlong]
      constructor
      · rintro hrec ⟨-, c', rest', htext', -, hnot⟩
        rw [htext] at htext'
        cases List.append_cancel_left htext'
        exact hnot hrec
      · intro hnot
        by_contra hrec
        exact hnot ⟨hr, c, rest, htext, hc, hrec⟩
  · have hout : underRoot root entry.storagePath = false := by simpa using hunder
    obtain ⟨l, hl⟩ := h.readable entry he hout
    refine ⟨l, hl, iff_of_true ((h.contains_iff _).mpr (Or.inl ⟨entry, he, hout, l, hl, rfl⟩)) ?_⟩
    rintro ⟨r, _, c, rest, hroot, -, -, htext, -⟩
    exact hunder (underRoot_iff.mpr ⟨r, hroot, ⟨c :: rest, htext.symm⟩⟩)

/-! ## How the second pass ends -/

theorem resolution_of_not_stranded (h : Surveyed root entries table)
    (folders : List (String × String)) {entry : ManifestEntry} (he : entry ∈ entries) :
    ∃ l, Locator.parse entry.storagePath = .ok l ∧
      ((¬ Stranded root entries entry ∧ resolution (table.setFolders folders) entry = .ok ()) ∨
        (Stranded root entries entry ∧ resolution (table.setFolders folders) entry =
          .error (.unresolvedMount l.base entry.storagePath))) := by
  obtain ⟨l, hl, hiff⟩ := contains_iff_not_stranded h he
  have hparse := Locator.parse_eq_ok_iff.mpr hl
  refine ⟨l, hparse, ?_⟩
  unfold resolution
  rw [hparse]
  simp only [MountTable.contains_setFolders]
  by_cases hs : Stranded root entries entry
  · have hno : ¬ table.contains l.base = true := fun hc => hiff.mp hc hs
    exact Or.inr ⟨hs, if_neg hno⟩
  · exact Or.inl ⟨hs, if_pos (hiff.mpr hs)⟩

/-- A second pass over a manifest that could be read fails as the resolution of an entry does. -/
theorem resolution_of_result_error {listing : Listing} {destination : String} {folder : Location}
    {n depth count : Nat} {initial : Linking} {final : Pool Linking} {fault : Fault}
    (hending : listing.2 = .ok count)
    (hruns : Pool.Runs (linkJob table destination folder listing depth)
      (Pool.start (linkJob table destination folder listing depth) n initial) final)
    (hr : final.result = some (.error fault)) :
    ∃ e ∈ listing.1, resolution table e = .error fault := by
  have hended := Pool.ended_of_runs (within_linkJob table destination folder listing depth) hruns
  rcases Pool.fault_of_result_error hruns hr with ⟨e, he⟩ | ⟨hend, -, -⟩
  · exact ⟨e, Pool.mem_entries_of_ended hruns he, (hended _ he).symm⟩
  · rw [show listing.2 = .error fault from hend] at hending
    cases hending

/-- A second pass that succeeds has resolved every entry. -/
theorem resolution_of_result_ok {listing : Listing} {destination : String} {folder : Location}
    {n depth : Nat} {initial : Linking} {final : Pool Linking}
    (hruns : Pool.Runs (linkJob table destination folder listing depth)
      (Pool.start (linkJob table destination folder listing depth) n initial) final)
    (hr : final.result = some (.ok ())) :
    ∀ e ∈ listing.1, resolution table e = .ok () := by
  intro e he
  have hended := Pool.ended_of_runs (within_linkJob table destination folder listing depth) hruns
  obtain ⟨-, hperm, hok⟩ := Pool.ended_of_result_ok hruns hr
  obtain ⟨⟨e', o⟩, hx, rfl⟩ := List.mem_map.mp (hperm.mem_iff.mpr he)
  have ho : o = resolution table e' := hended _ hx
  rw [← ho]
  exact hok _ hx

/-- Over the manifest that was surveyed, whatever folders were set, every entry is a locator; its
    base is known to the table, and the second pass succeeds, if and only if no entry is stranded. A
    second pass that fails says of a stranded entry that its base is unknown. -/
theorem result_iff_not_stranded {listing : Listing} {n depth n' depth' : Nat}
    {destination : String} {folder : Location} {initial : Linking}
    (h : Surveys listing root n depth table) (folders : List (String × String))
    {final : Pool Linking} {r : Except Fault Unit}
    (hruns : Pool.Runs (linkJob (table.setFolders folders) destination folder listing depth')
      (Pool.start (linkJob (table.setFolders folders) destination folder listing depth') n' initial)
      final) (hr : final.result = some r) :
    (∀ e ∈ listing.1, ∃ l, Locator.parse e.storagePath = .ok l ∧
      ((table.setFolders folders).contains l.base = true ↔
        ¬ Stranded (effectiveRoot root) listing.1 e)) ∧
    (r = .ok () ↔ ∀ e ∈ listing.1, ¬ Stranded (effectiveRoot root) listing.1 e) ∧
    ∀ fault, r = .error fault → ∃ e ∈ listing.1, Stranded (effectiveRoot root) listing.1 e ∧
      ∃ l, Locator.parse e.storagePath = .ok l ∧
        fault = .unresolvedMount l.base e.storagePath := by
  obtain ⟨hs, count, hending⟩ := surveyed_of_surveys h
  refine ⟨?_, ⟨?_, ?_⟩, ?_⟩
  · intro e he
    obtain ⟨l, hl, hiff⟩ := contains_iff_not_stranded hs he
    exact ⟨l, Locator.parse_eq_ok_iff.mpr hl, by rw [MountTable.contains_setFolders]; exact hiff⟩
  · rintro rfl e he hstranded
    have hok := resolution_of_result_ok hruns hr e he
    obtain ⟨l, -, ⟨hnot, -⟩ | ⟨-, hfail⟩⟩ := resolution_of_not_stranded hs folders he
    · exact hnot hstranded
    · rw [hfail] at hok
      cases hok
  · intro hall
    cases r with
    | ok u => rfl
    | error fault =>
      obtain ⟨e, he, hfault⟩ := resolution_of_result_error hending hruns hr
      obtain ⟨l, -, ⟨-, hok⟩ | ⟨hstranded, -⟩⟩ := resolution_of_not_stranded hs folders he
      · rw [hok] at hfault
        cases hfault
      · exact absurd hstranded (hall e he)
  · rintro fault rfl
    obtain ⟨e, he, hres⟩ := resolution_of_result_error hending hruns hr
    obtain ⟨l, hl, ⟨-, hok⟩ | ⟨hstranded, hfail⟩⟩ := resolution_of_not_stranded hs folders he
    · rw [hok] at hres
      cases hres
    · rw [hfail] at hres
      exact ⟨e, he, hstranded, l, hl, (Except.error.inj hres).symm⟩

/-! ## A root inside a name -/

/-- The root is the base of one bucket, and the entry is in a bucket whose name begins with it. -/
def longerListing : Listing := ([⟨"x", "s3://bucket/x"⟩], .ok 1)

def shorterTable : MountTable := ⟨[⟨"s3://buck", none, "s3://buck"⟩]⟩

theorem surveys_longerListing : Surveys longerListing (some "s3://buck") 1 64 shorterTable := by
  refine surveys_of_process ⟨.empty, true⟩ ?_ rfl ?_ 1 64
  · decide +kernel
  · decide +kernel

/-- The first pass succeeds and the second one fails, for the entry is stranded. -/
theorem unresolved_under_shorter_root :
    Surveys longerListing (some "s3://buck") 1 64 shorterTable ∧
    ∃ final, Pool.Runs (linkJob (shorterTable.setFolders [("s3://buck", "/mnt")]) "/task" []
          longerListing 64)
        (Pool.start (linkJob (shorterTable.setFolders [("s3://buck", "/mnt")]) "/task" []
          longerListing 64) 1 ⟨.empty, .zero⟩) final ∧
      final.result = some (.error (.unresolvedMount "s3://bucket" "s3://bucket/x")) ∧
      ∃ e ∈ longerListing.1, Stranded (effectiveRoot (some "s3://buck")) longerListing.1 e := by
  obtain ⟨final, hruns, -, hresult⟩ := Pool.exists_run_inOrder
    (linkJob (shorterTable.setFolders [("s3://buck", "/mnt")]) "/task" [] longerListing 64) 1
    ⟨.empty, .zero⟩
  have hfault : final.result = some (.error (.unresolvedMount "s3://bucket" "s3://bucket/x")) := by
    rw [hresult]
    decide +kernel
  obtain ⟨-, -, hstranded⟩ := result_iff_not_stranded surveys_longerListing
    [("s3://buck", "/mnt")] hruns hfault
  obtain ⟨e, he, hs, -⟩ := hstranded _ rfl
  exact ⟨surveys_longerListing, final, hruns, hfault, e, he, hs⟩

end DataStaging.Manifest
