import DataStaging.Proofs.Mount.Names
import DataStaging.Proofs.Staging.Serving

/-!
# Bases with one folder

Two bases are served by one folder if their names are the same, and a mount may meet the download of
another base. Bases that are named by letters, digits, `-` and `.` only are kept apart.

Results:
* `folder_eq_iff`: when folders of two bases are the same, in every staging.
-/

namespace DataStaging

open Utf8 (encode)

theorem Path.join_inj {left right right' : String} (h : right.toList.head? ≠ some '/')
    (h' : right'.toList.head? ≠ some '/') :
    join left right = join left right' ↔ right = right' := by
  constructor
  · intro heq
    unfold join at heq
    have hchars := String.ofList_injective heq
    unfold joinChars at hchars
    rw [if_neg h, if_neg h'] at hchars
    split_ifs at hchars with hleft
    · exact String.toList_injective (List.append_cancel_left hchars)
    · exact String.toList_injective (List.cons.inj (List.append_cancel_left hchars)).2
  · rintro rfl
    rfl

namespace Stager

variable {stager : Stager} {listing : Manifest.Listing} {hashRoot : Option String} {root : String}
  {table served : MountTable}

/-- How a row comes to be served. -/
inductive Way
  | mount
  | download
deriving DecidableEq, Repr

namespace Way

/-- What is behind the base's name in the name of the folder. -/
def tail : Way → String
  | mount => ""
  | download => "_download"

/-- The folder of a row that is served this way. -/
def folder (root : String) (row : MountRow) : Way → String
  | mount => mountFolder root row
  | download => downloadFolder root row

theorem folder_eq (root : String) (row : MountRow) (way : Way) :
    way.folder root row = Path.join root (MountTable.folderName row.base ++ way.tail) := by
  cases way with
  | mount =>
    simp only [folder, tail, String.append_empty]
    rfl
  | download => rfl

theorem map_mask_tail (way : Way) : way.tail.toList.map MountTable.mask = way.tail.toList := by
  cases way <;> decide

theorem tail_eq_of_replaced {way way' : Way}
    (h : MountTable.replaced way.tail.toList = MountTable.replaced way'.tail.toList) :
    way.tail = way'.tail := by
  cases way <;> cases way' <;> first | rfl | exact absurd h (by decide)

end Way

/-- The folders of two rows are the same if their names are. -/
theorem folder_eq_iff_name_eq {row row' : MountRow} {b b' : Bucket} (h : b.WellFormed)
    (h' : b'.WellFormed) (hbase : b.base = row.base) (hbase' : b'.base = row'.base)
    (way way' : Way) :
    way.folder root row = way'.folder root row' ↔
      MountTable.folderName b.base ++ way.tail = MountTable.folderName b'.base ++ way'.tail := by
  have hhead : ∀ {b : Bucket} (tail : String), b.WellFormed →
      (MountTable.folderName b.base ++ tail).toList.head? ≠ some '/' := by
    intro b tail h
    rw [String.toList_append, MountTable.toList_folderName h]
    cases b.scheme <;> simp [Scheme.name]
  rw [Way.folder_eq, Way.folder_eq, ← hbase, ← hbase', Path.join_inj (hhead _ h) (hhead _ h')]

/-- A row's folder is that of its mount or its download. The folders of two rows are the same just
    if the schemes of their buckets are, and if the places with their tails are alike, character by
    character; with buckets named by kept characters this does not happen to two bases. -/
theorem folder_eq_iff (hreach : stager.ReachesLinks listing hashRoot root table served) :
    (∀ row ∈ served.rows, ∀ folder, row.folder = some folder →
      folder = Way.mount.folder root row ∨
        stager.courier.isSome = true ∧ folder = Way.download.folder root row) ∧
    ∀ row ∈ served.rows, ∀ row' ∈ served.rows, ∃ b b' : Bucket, b.WellFormed ∧ b'.WellFormed ∧
      b.base = row.base ∧ b'.base = row'.base ∧ ∀ way way' : Way,
        (way.folder root row = way'.folder root row' ↔ b.scheme = b'.scheme ∧
          List.Forall₂ MountTable.Alike (b.place ++ way.tail).toList
            (b'.place ++ way'.tail).toList) ∧
        (b.IsPlain → b'.IsPlain → row.base ≠ row'.base →
          way.folder root row ≠ way'.folder root row') := by
  have hbucket : ∀ row ∈ served.rows, ∃ b : Bucket, b.WellFormed ∧ b.base = row.base := by
    intro row hrow
    obtain ⟨row₀, -, hdescribed, hbase, -⟩ := row_of_reachesLinks hreach hrow
    obtain ⟨-, l, hl, hlbase, -⟩ := hdescribed
    exact ⟨l.bucket, Locator.wellFormed_of_read hl, hlbase.trans hbase.symm⟩
  constructor
  · intro row hrow folder hfolder
    obtain ⟨row₀, -, -, hbase, -, hown⟩ := row_of_reachesLinks hreach hrow
    have hof := hown folder hfolder
    unfold IsFolderOf mountFolder downloadFolder at hof
    rw [← hbase] at hof
    exact hof
  · intro row hrow row' hrow'
    obtain ⟨b, h, hbase⟩ := hbucket row hrow
    obtain ⟨b', h', hbase'⟩ := hbucket row' hrow'
    refine ⟨b, b', h, h', hbase, hbase', fun way way' => ?_⟩
    have hiff : way.folder root row = way'.folder root row' ↔ b.scheme = b'.scheme ∧
        List.Forall₂ MountTable.Alike (b.place ++ way.tail).toList
          (b'.place ++ way'.tail).toList := by
      rw [folder_eq_iff_name_eq h h' hbase hbase']
      exact MountTable.folderName_append_eq_iff h h' way.map_mask_tail way'.map_mask_tail
    refine ⟨hiff, fun hplain hplain' hne hsame => hne ?_⟩
    obtain ⟨hscheme, halike⟩ := hiff.mp hsame
    rw [← hbase, ← hbase']
    exact MountTable.base_eq_of_alike h h' hplain hplain' Way.tail_eq_of_replaced hscheme halike

/-! ## Two namespaces -/

/-- A host name, a namespace and a bucket, cut at other places. -/
def twinListing : Manifest.Listing :=
  ([⟨"x", "swift://h/AUTH/1_b/object"⟩, ⟨"y", "swift://h/AUTH_1/b/object"⟩], .ok 2)

def twinTable : MountTable :=
  ⟨[⟨"swift://h/AUTH/1_b", none, "swift://h/AUTH/1_b/object"⟩,
    ⟨"swift://h/AUTH_1/b", none, "swift://h/AUTH_1/b/object"⟩]⟩

def twinServed : MountTable := twinTable.setFolders
  [("swift://h/AUTH/1_b", "/mnt/swift_h_AUTH_1_b"), ("swift://h/AUTH_1/b", "/mnt/swift_h_AUTH_1_b")]

/-- Mounts only, with a key pair for each namespace. -/
def twinStager : Stager :=
  ⟨.standard, .none, .ring ⟨[("swift://h/AUTH", ⟨"k", "s"⟩), ("swift://h/AUTH_1", ⟨"k", "s"⟩)]⟩,
    none⟩

def twinFolder : Location := [encode "mnt", encode "swift_h_AUTH_1_b"]

/-- The files once either of the buckets is mounted. -/
def twinTree : FileTree :=
  (Mounting.clientHost.tree.put twinFolder .directory).put (twinFolder ++ [encode "object"])
    (.file [])

theorem reachesLinks_twinStager :
    twinStager.ReachesLinks twinListing none "/mnt" twinTable twinServed := by
  obtain ⟨h₁, hmount, hserves⟩ : ∃ h₁, (Mounting.mount .standard twinStager.credentials
      ⟨"swift://h/AUTH/1_b/", .swift "h" "AUTH" "1_b", ""⟩ "/mnt/swift_h_AUTH_1_b" .none).run
        Mounting.clientHost = (.ok false, h₁) ∧ Mounting.Serves h₁ twinTree :=
    Mounting.run_mount_of_objectClient ⟨"k", "s"⟩
      (Mounting.clientHost.tree.put twinFolder .directory) [encode "object"] ⟨rfl, rfl, rfl, rfl⟩
      rfl rfl rfl rfl rfl (by simp)
  obtain ⟨h₂, hmount', -⟩ : ∃ h₂, (Mounting.mount .standard twinStager.credentials
      ⟨"swift://h/AUTH_1/b/", .swift "h" "AUTH_1" "b", ""⟩ "/mnt/swift_h_AUTH_1_b" .none).run h₁ =
        (.ok false, h₂) ∧
      Mounting.Serves h₂ (twinTree.put (twinFolder ++ [encode "object"]) (.file [])) :=
    Mounting.run_mount_of_objectClient ⟨"k", "s"⟩ twinTree [encode "object"] hserves
      rfl rfl rfl rfl rfl (by simp)
  have hserve : (twinStager.serve "/mnt"
      ⟨"swift://h/AUTH/1_b", none, "swift://h/AUTH/1_b/object"⟩).run Mounting.clientHost =
        (.ok (.mounted "/mnt/swift_h_AUTH_1_b"), h₁) :=
    run_serve_of_mount (by decide +kernel) hmount
  have hserve' : (twinStager.serve "/mnt"
      ⟨"swift://h/AUTH_1/b", none, "swift://h/AUTH_1/b/object"⟩).run h₁ =
        (.ok (.mounted "/mnt/swift_h_AUTH_1_b"), h₂) :=
    run_serve_of_mount (by decide +kernel) hmount'
  constructor
  · refine ⟨1, 64, Manifest.surveys_of_process ⟨twinTable, false⟩ ?_ rfl ?_ 1 64⟩
    · decide +kernel
    · decide +kernel
  · refine ⟨Mounting.clientHost, h₂, ((StagingReport.start 2).add
      (.mounted "/mnt/swift_h_AUTH_1_b")).add (.mounted "/mnt/swift_h_AUTH_1_b"), ?_⟩
    refine (run_serveAll_cons _ _ hserve).trans ?_
    exact run_serveAll_cons _ _ hserve'

/-- Two bases are mounted on one folder, for their places are alike. -/
theorem one_folder_for_two_namespaces :
    twinStager.ReachesLinks twinListing none "/mnt" twinTable twinServed ∧
    ∃ row ∈ twinServed.rows, ∃ row' ∈ twinServed.rows, row.base ≠ row'.base ∧
      row.folder = some "/mnt/swift_h_AUTH_1_b" ∧ row'.folder = some "/mnt/swift_h_AUTH_1_b" ∧
      ∃ b b' : Bucket, b.base = row.base ∧ b'.base = row'.base ∧ b.scheme = b'.scheme ∧
        List.Forall₂ MountTable.Alike b.place.toList b'.place.toList := by
  obtain ⟨-, hpairs⟩ := folder_eq_iff reachesLinks_twinStager
  have hrows : twinServed.rows =
      [⟨"swift://h/AUTH/1_b", some "/mnt/swift_h_AUTH_1_b", "swift://h/AUTH/1_b/object"⟩,
        ⟨"swift://h/AUTH_1/b", some "/mnt/swift_h_AUTH_1_b", "swift://h/AUTH_1/b/object"⟩] := by
    decide +kernel
  rw [hrows] at hpairs ⊢
  obtain ⟨b, b', -, -, hbase, hbase', hways⟩ := hpairs _ List.mem_cons_self _
    (List.mem_cons_of_mem _ List.mem_cons_self)
  obtain ⟨hscheme, halike⟩ := (hways .mount .mount).1.mp (by decide +kernel)
  refine ⟨reachesLinks_twinStager, _, List.mem_cons_self, _,
    List.mem_cons_of_mem _ List.mem_cons_self, by decide, rfl, rfl, b, b', hbase, hbase', hscheme,
    ?_⟩
  simpa only [Way.tail, String.append_empty] using halike

end Stager

end DataStaging
