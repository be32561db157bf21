import DataStaging.Proofs.Manifest.Recorded
import DataStaging.Proofs.Manifest.Resolution
import DataStaging.Proofs.Staging.Sources

/-!
# Which entries have a source

The area of a base begins the storage path of every entry of that base, whether the path was
recorded by itself or began with the hash root: what is shared is never longer than a recorded text,
and it is cut back, not filled up. Only that the area is at least the base and a separator can make
it too long, and it does so for a storage path that is the base alone.

Results:
* `cut_shared_isPrefix`: what is shared, cut back, begins every entry of the base.
* `isSome_source_iff`: the entries that the second pass has no source for.
-/

namespace DataStaging.Manifest

open MountTable (recordAll recordAll_spec ofBase isOfBase foldedRow)
open Survey (underRoot effectiveRoot)

variable {root : Option String} {entries : List ManifestEntry} {table : MountTable} {base : String}

/-! ## Recorded texts -/

theorem isOfBase_iff {text : String} :
    isOfBase base text = true ↔ ∃ l, Locator.read text = .ok l ∧ l.base = base := by
  unfold isOfBase
  cases hparse : Locator.parse text with
  | error fault =>
    refine ⟨fun h => (by cases h), ?_⟩
    rintro ⟨l, hl, -⟩
    rw [Locator.parse_eq_ok_iff.mpr hl] at hparse
    cases hparse
  | ok l =>
    simp only [decide_eq_true_eq]
    constructor
    · exact fun h => ⟨l, Locator.parse_eq_ok_iff.mp hparse, h⟩
    · rintro ⟨l', hl', h⟩
      obtain rfl := Except.ok.inj (hparse.symm.trans (Locator.parse_eq_ok_iff.mpr hl'))
      exact h

/-- What is shared, cut back, begins every text that was recorded for the base. -/
theorem cut_shared_isPrefix_of_mem {texts : List String} {row : MountRow}
    (h : foldedRow base (ofBase base texts) = some row) {text : String} (htext : text ∈ texts)
    (hbase : isOfBase base text = true) : Shared.cut row.shared.toList <+: text.toList := by
  have hmem : text ∈ ofBase base texts := List.mem_filter.mpr ⟨htext, hbase⟩
  obtain ⟨u, us, hus⟩ := List.exists_cons_of_ne_nil (List.ne_nil_of_mem hmem)
  rw [hus] at h hmem
  cases h
  rw [String.toList_ofList]
  refine (Shared.prefix_foldl_meet_iff (Shared.isFolder_cut _)).mp (Shared.cut_isPrefix _) _ ?_
  rw [← List.map_cons]
  exact List.mem_map_of_mem hmem

/-- A base that goes on inside a bucket's name after the root is recorded for no entry outside the
    root. -/
theorem not_recorded_of_prolong {r : String} {l : Locator} (hroot : root = some r)
    (hr : r = l.base) (more : List Char) :
    ¬ Recorded root entries (l.bucket.prolong more).base := by
  rintro ⟨e, -, hout, l', hl', hbase⟩
  have hlong : (l.bucket.prolong more).base.toList <+: e.storagePath.toList := by
    rw [← hbase]
    obtain ⟨-, -, ⟨htext, -⟩ | htext⟩ := Locator.read_spec hl'
    · exact htext ▸ List.prefix_rfl
    · exact htext ▸ List.prefix_append _ _
  have hunder : underRoot root e.storagePath = true := by
    refine underRoot_iff.mpr ⟨r, hroot, List.IsPrefix.trans ?_ hlong⟩
    rw [Bucket.toList_base_prolong, hr]
    exact List.prefix_append _ _
  rw [hout] at hunder
  cases hunder

/-- What is shared, cut back, begins the storage path of every entry of the base, be it recorded or
    under the hash root. -/
theorem cut_shared_isPrefix (h : Surveyed root entries table)
    (htable : table = recordAll (recordedTexts root entries) .empty) {e : ManifestEntry}
    (he : e ∈ entries) {l : Locator} (hl : Locator.read e.storagePath = .ok l) {row : MountRow}
    (hrow : table.find? l.base = some row) :
    Shared.cut row.shared.toList <+: e.storagePath.toList := by
  have hfold : foldedRow l.base (ofBase l.base (recordedTexts root entries)) = some row := by
    rw [← (recordAll_spec _).2, ← htable]
    exact hrow
  by_cases hunder : underRoot root e.storagePath = true
  · obtain ⟨r, hroot, hprefix⟩ := underRoot_iff.mp hunder
    have huses : UsesRoot root entries := ⟨e, he, hunder⟩
    obtain ⟨lr, hlr⟩ := h.root_readable r hroot huses
    obtain ⟨l', hl', hbase⟩ := read_of_prefix hlr hprefix
    obtain rfl := Except.ok.inj (hl.symm.trans hl')
    rcases hbase with hsame | ⟨hr, c, rest, -, -, hlong⟩
    · exact (cut_shared_isPrefix_of_mem hfold (mem_recordedTexts.mpr (Or.inr ⟨huses, hroot⟩))
        (isOfBase_iff.mpr ⟨lr, hlr, hsame.symm⟩)).trans hprefix
    · -- the base of a longer name is not in the table
      exfalso
      have hcontains : table.contains l.base = true := by rw [MountTable.contains, hrow]; rfl
      rcases (contains_of_root h hroot huses hlr _).mp hcontains with hrec | hsame
      · rw [hlong] at hrec
        exact not_recorded_of_prolong hroot hr _ hrec
      · exact base_prolong_ne lr.bucket c _ (hlong.symm.trans hsame)
  · have hout : underRoot root e.storagePath = false := by simpa using hunder
    exact cut_shared_isPrefix_of_mem hfold (mem_recordedTexts.mpr (Or.inl ⟨e, he, hout, rfl⟩))
      (isOfBase_iff.mpr ⟨l, hl, rfl⟩)

/-! ## Areas -/

/-- A row's area begins a storage path of its base, if what is shared does, unless the path is the
    base alone. -/
theorem area_isPrefix_iff {row : MountRow} (h : row.Described) {path : String} {l : Locator}
    (hl : Locator.read path = .ok l) (hbase : row.base = l.base)
    (hcut : Shared.cut row.shared.toList <+: path.toList) :
    row.area.toList <+: path.toList ↔ path ≠ l.base := by
  have hwhole : (row.base ++ "/").toList = l.base.toList ++ ['/'] := by
    rw [hbase, String.toList_append]
    rfl
  constructor
  · rintro hprefix rfl
    obtain ⟨area, -, -, -, -, -, harea⟩ := MountRow.area_spec h
    have hlen := hprefix.length_le
    rw [harea, hbase, List.length_append, List.length_cons] at hlen
    omega
  · intro hne
    rw [MountTable.toList_area]
    split_ifs with hlen
    · exact hcut
    · obtain ⟨-, -, ⟨htext, -⟩ | htext⟩ := Locator.read_spec hl
      · exact absurd (String.toList_injective htext) hne
      · rw [hwhole, htext]
        exact ⟨l.key.toList, by simp⟩

/-- A row has a source for a path that begins with its area, if it has a folder. -/
theorem isSome_source?_iff_isPrefix {row : MountRow} (hfolder : row.folder.isSome) (path : String) :
    (row.source? path).isSome ↔ row.area.toList <+: path.toList := by
  obtain ⟨folder, hfolder⟩ := Option.isSome_iff_exists.mp hfolder
  constructor
  · intro h
    obtain ⟨source, hsource⟩ := Option.isSome_iff_exists.mp h
    obtain ⟨rest, -, hpath⟩ := MountRow.source?_spec hfolder hsource
    exact ⟨rest, hpath.symm⟩
  · rintro ⟨rest, hrest⟩
    have hdrop := MountRow.dropStart?_eq_some.mpr hrest.symm
    unfold MountRow.source?
    rw [hfolder]
    simp only [Option.bind_eq_bind, Option.bind_some, hdrop]
    rfl

/-! ## The second pass -/

/-- Whatever folders were set for the table of the first pass, an entry whose base has a folder has
    a source if and only if its storage path is more than the base. An entry of the base alone is
    counted as failed, and nothing else is done about it. -/
theorem isSome_source_iff {listing : Listing} {n depth : Nat}
    (h : Surveys listing root n depth table) (folders : List (String × String))
    {e : ManifestEntry} (he : e ∈ listing.1) {l : Locator}
    (hl : Locator.parse e.storagePath = .ok l) {row : MountRow}
    (hrow : (table.setFolders folders).find? l.base = some row) (hfolder : row.folder.isSome) :
    ((row.source? e.storagePath).isSome ↔ e.storagePath ≠ l.base) ∧
    (e.storagePath = l.base → ∀ destination folder,
      linkTask (table.setFolders folders) destination folder e = countTask .failed) := by
  have hread := Locator.parse_eq_ok_iff.mp hl
  have hsurveyed := (surveyed_of_surveys h).1
  have htable := table_of_surveys h
  have hbase : row.base = l.base := by simpa using List.find?_some hrow
  obtain ⟨row₀, hrow₀, hbase₀, hshared, -⟩ :=
    MountTable.row_of_setFolders (List.mem_of_find?_eq_some hrow)
  have hfind : table.find? l.base = some row₀ := by
    have hascending := (recordAll_spec (recordedTexts (effectiveRoot root) listing.1)).1
    rw [← htable] at hascending
    exact (MountTable.find?_eq_some_iff_of_ascending hascending row₀ l.base).mpr
      ⟨hrow₀, hbase₀.symm.trans hbase⟩
  have harea : row.area = row₀.area := by
    unfold MountRow.area
    rw [hbase₀, hshared]
  have hiff : (row.source? e.storagePath).isSome ↔ e.storagePath ≠ l.base := by
    rw [isSome_source?_iff_isPrefix hfolder, harea]
    exact area_isPrefix_iff (hsurveyed.described row₀ hrow₀) hread (hbase₀.symm.trans hbase)
      (cut_shared_isPrefix hsurveyed htable he hread hfind)
  refine ⟨hiff, fun hsame destination folder => ?_⟩
  have hnone : row.source? e.storagePath = none := by
    rw [← Option.not_isSome_iff_eq_none, hiff]
    exact fun hne => hne hsame
  unfold linkTask
  simp only [hl, hrow, hnone, ite_eq_right_iff, Option.isNone_iff_eq_none]
  intro hno
  rw [hno] at hfolder
  cases hfolder

/-! ## A whole bucket -/

/-- An entry that stands for all of a bucket. -/
def bucketListing : Listing := ([⟨"all", "s3://b"⟩], .ok 1)

def bucketTable : MountTable := ⟨[⟨"s3://b", none, "s3://b"⟩]⟩

theorem surveys_bucketListing : Surveys bucketListing none 1 64 bucketTable := by
  refine surveys_of_process ⟨bucketTable, false⟩ ?_ rfl ?_ 1 64
  · decide +kernel
  · decide +kernel

/-- The bucket is mounted as a whole, and the entry for all of it is not linked. -/
theorem no_source_for_bucket :
    Surveys bucketListing none 1 64 bucketTable ∧
    (bucketTable.setFolders [("s3://b", "/mnt/s3_b")]).find? "s3://b" =
      some ⟨"s3://b", some "/mnt/s3_b", "s3://b"⟩ ∧
    ¬ ((⟨"s3://b", some "/mnt/s3_b", "s3://b"⟩ : MountRow).source? "s3://b").isSome ∧
    linkTask (bucketTable.setFolders [("s3://b", "/mnt/s3_b")]) "/task" [] ⟨"all", "s3://b"⟩ =
      countTask .failed := by
  have hfind : (bucketTable.setFolders [("s3://b", "/mnt/s3_b")]).find? "s3://b" =
      some ⟨"s3://b", some "/mnt/s3_b", "s3://b"⟩ := by decide +kernel
  obtain ⟨hiff, hfails⟩ := isSome_source_iff surveys_bucketListing [("s3://b", "/mnt/s3_b")]
    (e := ⟨"all", "s3://b"⟩) List.mem_cons_self (l := ⟨"s3://b", .s3 "b", ""⟩)
    (by decide +kernel) hfind rfl
  exact ⟨surveys_bucketListing, hfind, fun h => hiff.mp h rfl, hfails rfl "/task" []⟩

end DataStaging.Manifest
