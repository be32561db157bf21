import DataStaging.Proofs.Files.Steps
import DataStaging.Proofs.Mount.Beginnings
import DataStaging.Proofs.Staging.Serving

/-!
# What a link points at

The area that is mounted for a base is the base with the beginning of a key that is a directory. The
text that follows it in an entry's storage path is what is left of the entry's key, so the link
points at the entry's object in the mounted folder.

Results:
* `area_spec`: the area of a row, read as a locator.
* `source_of_reachesLinks`: the object behind the source of an entry's link.
-/

namespace DataStaging

open Utf8 (encode)

/-! ## Areas -/

/-- Of two beginnings of a text, the one that takes as many bytes begins with the other. -/
theorem prefix_of_length_le {a b text : List Char} (ha : a <+: text) (hb : b <+: text)
    (hlen : (Utf8.encodeChars a).length ≤ (Utf8.encodeChars b).length) : a <+: b := by
  rcases List.prefix_or_prefix_of_prefix ha hb with h | ⟨rest, rfl⟩
  · exact h
  · -- `a` is `b` and more, and every character takes a byte
    rw [Utf8.encodeChars_append, List.length_append] at hlen
    have hrest : (Utf8.encodeChars rest).length = 0 := by omega
    rw [List.length_eq_zero_iff, Utf8.encodeChars_eq_nil] at hrest
    subst hrest
    exact (List.append_nil b).symm ▸ List.prefix_rfl

namespace MountRow

variable {row : MountRow}

/-- A beginning of a locator's text with no fewer bytes than its base and a separator goes on after
    that separator. -/
theorem base_prefix {l : Locator} {upto : List Char} (hl : Locator.read l.text = .ok l)
    (hupto : upto <+: l.text.toList)
    (hlen : (Utf8.encodeChars (l.base.toList ++ ['/'])).length ≤ (Utf8.encodeChars upto).length) :
    l.base.toList ++ ['/'] <+: upto := by
  obtain ⟨-, -, ⟨htext, -⟩ | htext⟩ := Locator.read_spec hl
  · -- a base alone has no room for a beginning that is longer than the base
    exfalso
    rw [htext] at hupto
    obtain ⟨rest, hrest⟩ := hupto
    have hbytes := congrArg (fun cs => (Utf8.encodeChars cs).length) hrest
    simp only [Utf8.encodeChars_append, List.length_append] at hbytes hlen
    have hsep : (Utf8.encodeChars ['/']).length = 1 := rfl
    omega
  · have hbase : l.base.toList ++ ['/'] <+: l.text.toList := by
      rw [htext]
      exact ⟨l.key.toList, by simp⟩
    exact prefix_of_length_le hbase hupto hlen

/-- The area is the base, a separator, and a key that is a directory. -/
theorem area_toList (h : row.Described) : ∃ (b : Bucket) (key : List Char), b.WellFormed ∧
    b.base = row.base ∧ row.area.toList = row.base.toList ++ '/' :: key ∧
    (key = [] ∨ key.getLast? = some '/') := by
  obtain ⟨-, l, hl, hbase, hshared⟩ := h
  have hwf := Locator.wellFormed_of_read hl
  have hwhole : (row.base ++ "/").toList = row.base.toList ++ ['/'] := by
    rw [String.toList_append]
    rfl
  unfold area
  simp only [hwhole]
  split_ifs with hlen
  · refine ⟨l.bucket, [], hwf, hbase, ?_, Or.inl rfl⟩
    rw [String.toList_ofList]
  · have hcut : Shared.cut row.shared.toList <+: l.text.toList :=
      (Shared.cut_isPrefix _).trans hshared
    rw [← hbase] at hlen ⊢
    obtain ⟨key, hkey⟩ := base_prefix hl hcut (Nat.not_lt.mp hlen)
    refine ⟨l.bucket, key, hwf, rfl, ?_, ?_⟩
    · rw [String.toList_ofList, ← hkey]
      simp
    · by_cases hnil : key = []
      · exact Or.inl hnil
      · right
        rcases Shared.getLast?_cut row.shared.toList with hc | hc
        · rw [hc] at hkey
          simp at hkey
        · rw [← hkey, List.getLast?_append_of_ne_nil _ hnil] at hc
          exact hc

/-- The area is a locator with the row's base; its key is a directory as it stands. -/
theorem area_spec (h : row.Described) : ∃ area : Locator, Locator.parse row.area = .ok area ∧
    area.text = row.area ∧ area.bucket.WellFormed ∧ area.base = row.base ∧
    area.directory = area.key ∧ row.area.toList = row.base.toList ++ '/' :: area.key.toList := by
  obtain ⟨b, key, hwf, hbase, htext, hkey⟩ := area_toList h
  rw [← hbase] at htext
  have hparse := Locator.parse_eq_ok_iff.mpr (Locator.read_base_key b hwf htext)
  refine ⟨_, hparse, rfl, hwf, hbase, ?_, ?_⟩
  · unfold Locator.directory
    rcases hkey with rfl | hkey
    · rfl
    · rw [if_pos]
      simp [hkey]
  · rw [String.toList_ofList, ← hbase]
    exact htext

theorem dropStart?_eq_some {start text rest : List Char} :
    dropStart? start text = some rest ↔ text = start ++ rest := by
  induction start generalizing text with
  | nil => simp [dropStart?, eq_comm]
  | cons a start ih =>
    cases text with
    | nil => simp [dropStart?]
    | cons b text =>
      rw [dropStart?]
      split_ifs with hab
      · rw [ih, hab]
        simp
      · simp [Ne.symm hab]

theorem source?_spec {path source folder : String} (hfolder : row.folder = some folder)
    (h : row.source? path = some source) : ∃ rest, source = Path.join folder (String.ofList rest) ∧
      path.toList = row.area.toList ++ rest := by
  unfold source? at h
  obtain ⟨folder', hfolder', h⟩ := Option.bind_eq_some_iff.mp h
  rw [hfolder] at hfolder'
  obtain rfl := Option.some.inj hfolder'
  obtain ⟨rest, hrest, hsource⟩ := Option.bind_eq_some_iff.mp h
  exact ⟨rest, (Option.some.inj hsource).symm, dropStart?_eq_some.mp hrest⟩

/-- What follows the area in a path of the same base is the rest of the path's key. -/
theorem key_of_source? {area l : Locator} {path source folder : String}
    (harea : row.area.toList = row.base.toList ++ '/' :: area.key.toList)
    (hread : Locator.read path = .ok l) (hbase : l.base = row.base)
    (hfolder : row.folder = some folder) (h : row.source? path = some source) :
    ∃ rest, source = Path.join folder rest ∧ area.key ++ rest = l.key := by
  obtain ⟨rest, hsource, hpath⟩ := source?_spec hfolder h
  refine ⟨String.ofList rest, hsource, String.toList_injective ?_⟩
  have hwf := Locator.wellFormed_of_read hread
  have htext : path.toList = l.bucket.base.toList ++ '/' :: (area.key.toList ++ rest) := by
    rw [hpath, harea, ← hbase]
    simp [Locator.base]
  have hkey := Locator.read_base_key l.bucket hwf htext
  rw [hread] at hkey
  have := congrArg Locator.key (Except.ok.inj hkey)
  rw [this, String.toList_append, String.toList_ofList, String.toList_ofList]

end MountRow

/-! ## Links -/

namespace Stager

/-- Each row is served by mounting or downloading its area, which is always a locator. An entry of
    the row's base lies in the area's bucket, with all that the bucket decides; the area's key is
    mounted as it stands; and the source of the entry's link is the row's folder, followed by what
    the area's key leaves of the entry's key. A staging that succeeds is among this. -/
theorem source_of_reachesLinks (stager : Stager) (hashRoot : Option String) (root : String) :
    (∀ listing table served, stager.ReachesLinks listing hashRoot root table served →
      (∀ row ∈ table.rows, ∃ area, Locator.parse row.area = .ok area ∧
        stager.serve root row = stager.serveArea root row area) ∧
      ∀ e ∈ listing.1, ∀ l row folder, Locator.parse e.storagePath = .ok l →
        served.find? l.base = some row → row.folder = some folder →
        ∃ area, Locator.parse row.area = .ok area ∧
          (∃ row₀ ∈ table.rows, row₀.base = l.base ∧ row₀.area = row.area ∧
            stager.IsFolderOf root row₀ folder) ∧
          area.bucket = l.bucket ∧ area.directory = area.key ∧
          ∀ source, row.source? e.storagePath = some source →
            ∃ rest, source = Path.join folder rest ∧ area.directory ++ rest = l.key) ∧
    ∀ manifest destination (h h' : Host) report,
      (stager.stage manifest hashRoot destination root).run h = (.ok report, h') →
      ∃ table served, stager.ReachesLinks (Manifest.readPath h.tree h.folder manifest none)
        hashRoot root table served := by
  refine ⟨fun listing table served hreach => ⟨?_, ?_⟩, fun _ _ _ _ _ => reachesLinks_of_stage⟩
  · intro row hrow
    have hdescribed := (Manifest.surveyed_of_surveys hreach.1.choose_spec.choose_spec).1
    obtain ⟨area, hparse, -⟩ := MountRow.area_spec (hdescribed.described row hrow)
    refine ⟨area, hparse, ?_⟩
    rw [serve_eq, hparse]
    rfl
  · intro e he l row folder hl hfind hfolder
    have hrow : row ∈ served.rows := List.mem_of_find?_eq_some hfind
    have hbase : row.base = l.base := by simpa using List.find?_some hfind
    obtain ⟨row₀, hrow₀, hdescribed, hbase₀, hshared, hown⟩ := row_of_reachesLinks hreach hrow
    have harea₀ : row₀.area = row.area := by
      unfold MountRow.area
      rw [hbase₀, hshared]
    obtain ⟨area, hparse, -, hwf, hareabase, hdirectory, htext⟩ := MountRow.area_spec hdescribed
    have hread := Locator.parse_eq_ok_iff.mp hl
    rw [harea₀, ← hbase₀] at htext
    rw [harea₀] at hparse
    refine ⟨area, hparse, ⟨row₀, hrow₀, ?_, harea₀, hown folder hfolder⟩, ?_, hdirectory, ?_⟩
    · rw [← hbase₀, hbase]
    · refine Bucket.base_injective hwf (Locator.wellFormed_of_read hread) ?_
      exact hareabase.trans (hbase₀.symm.trans hbase)
    · intro source hsource
      rw [hdirectory]
      exact MountRow.key_of_source? htext hread hbase.symm hfolder hsource

/-! ## A mounted directory -/

/-- Two objects in one directory of a bucket. -/
def directoryListing : Manifest.Listing :=
  ([⟨"x", "s3://b/d/object"⟩, ⟨"y", "s3://b/d/e/p"⟩], .ok 2)

def directoryTable : MountTable := ⟨[⟨"s3://b", none, "s3://b/d/"⟩]⟩

def directoryServed : MountTable := ⟨[⟨"s3://b", some "/mnt/s3_b", "s3://b/d/"⟩]⟩

/-- Mounts only, with a key pair for the bucket. -/
def directoryStager : Stager := ⟨.standard, .none, .ring ⟨[("s3://b", ⟨"k", "s"⟩)]⟩, none⟩

/-- The files once the bucket is mounted. -/
def directoryTree : FileTree :=
  (Mounting.clientHost.tree.put [encode "mnt", encode "s3_b"] .directory).put
    [encode "mnt", encode "s3_b", encode "object"] (.file [])

theorem reachesLinks_directoryStager :
    directoryStager.ReachesLinks directoryListing none "/mnt" directoryTable directoryServed := by
  obtain ⟨h', hmount, -⟩ : ∃ h', (Mounting.mount .standard directoryStager.credentials
      ⟨"s3://b/d/", .s3 "b", "d/"⟩ "/mnt/s3_b" .none).run Mounting.clientHost = (.ok false, h') ∧
      Mounting.Serves h' directoryTree :=
    Mounting.run_mount_of_objectClient ⟨"k", "s"⟩
      (Mounting.clientHost.tree.put [encode "mnt", encode "s3_b"] .directory) [encode "object"]
      ⟨rfl, rfl, rfl, rfl⟩ rfl rfl rfl rfl rfl (by simp)
  have hserve : (directoryStager.serve "/mnt" ⟨"s3://b", none, "s3://b/d/"⟩).run
      Mounting.clientHost = (.ok (.mounted "/mnt/s3_b"), h') :=
    run_serve_of_mount (by decide +kernel) hmount
  constructor
  · refine ⟨1, 64, Manifest.surveys_of_process ⟨directoryTable, false⟩ ?_ rfl ?_ 1 64⟩
    · decide +kernel
    · decide +kernel
  · refine ⟨Mounting.clientHost, h', (StagingReport.start 1).add (.mounted "/mnt/s3_b"), ?_⟩
    exact run_serveAll_cons _ _ hserve

/-- The link for `x` points at what the client left for the key `d/object`. -/
theorem source_in_mounted_directory :
    directoryStager.ReachesLinks directoryListing none "/mnt" directoryTable directoryServed ∧
    ∃ area, Locator.parse "s3://b/d/" = .ok area ∧ area.directory = area.key ∧
      ∃ rest, "/mnt/s3_b/object" = Path.join "/mnt/s3_b" rest ∧
        area.directory ++ rest = "d/object" := by
  obtain ⟨hreached, -⟩ := source_of_reachesLinks directoryStager none "/mnt"
  obtain ⟨-, hsource⟩ := hreached _ _ _ reachesLinks_directoryStager
  obtain ⟨area, hparse, -, -, hdirectory, hrest⟩ := hsource ⟨"x", "s3://b/d/object"⟩
    List.mem_cons_self ⟨"s3://b/d/object", .s3 "b", "d/object"⟩
    ⟨"s3://b", some "/mnt/s3_b", "s3://b/d/"⟩ "/mnt/s3_b" (by decide +kernel) rfl rfl
  refine ⟨reachesLinks_directoryStager, area, ?_, hdirectory, hrest "/mnt/s3_b/object" ?_⟩
  · rw [← hparse]
    decide +kernel
  · decide +kernel

end Stager

end DataStaging
