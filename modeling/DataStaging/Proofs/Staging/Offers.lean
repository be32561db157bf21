import DataStaging.Proofs.Manifest.Counts
import DataStaging.Proofs.Mount.Names
import DataStaging.Proofs.Staging.Serving
import DataStaging.Proofs.Staging.Stages
import DataStaging.Proofs.Text.ByteOrder

/-!
# What becomes of the bases

Each row of the table is offered once to be mounted, one after another. What the offers come to is
in the report, in the folders of the table, and so in what the second pass counts as skipped.

Results:
* `offers_of_serveAll`: serving rows offers each of them once.
* `isSegment_folderName`: the name of a mount folder is one component.
* `outcomeOf_eq_skipped_iff`: the entries that are skipped are those of the bases left unstaged.
* `counts_of_links`: the second pass counts each entry once.
* `report_of_stages`: a staging that succeeds accounts for every base and every entry.
-/

namespace DataStaging

open Utf8 (encode)

/-! ## Folder names -/

namespace MountTable

theorem mask_ne_slash (c : Char) : mask c ≠ '/' := by
  intro h
  have hplain := isPlain_mask c
  rw [h] at hplain
  rw [mask_of_not_isPlain (hplain.symm.trans (by decide))] at h
  cases h

/-- The name of a bucket's folder is one component of a path, and neither of the dots. -/
theorem isSegment_folderName {b : Bucket} (h : b.WellFormed) :
    IsSegment (folderName b.base) ∧ folderName b.base ≠ "." ∧ folderName b.base ≠ ".." := by
  have htext := toList_folderName h
  have hbar : '_' ∈ (folderName b.base).toList := by simp [htext]
  refine ⟨⟨List.ne_nil_of_mem hbar, ?_⟩, ?_, ?_⟩
  · rw [htext, List.mem_append, not_or, List.mem_cons, not_or, List.mem_map]
    refine ⟨?_, by decide, ?_⟩
    · cases b.scheme <;> decide
    · rintro ⟨c, -, hc⟩
      exact mask_ne_slash c hc
  · rintro hdot
    rw [hdot] at hbar
    exact absurd hbar (by decide)
  · rintro hdots
    rw [hdots] at hbar
    exact absurd hbar (by decide)

end MountTable

/-! ## Offers -/

/-- A row that is offered to be mounted. -/
structure Offer where
  row : MountRow
  /-- What is mounted. -/
  area : Locator
  /-- Where it is mounted. -/
  folder : String
  before : Host
  /-- Whether the folder was empty after the mount. -/
  empty : Bool
  after : Host
  /-- How the row came to be served. -/
  served : Served

namespace Offer

/-- The bases that no folder serves. -/
def unstagedBases (offers : List Offer) : List String :=
  (offers.filter (·.served = .unstaged)).map (·.row.base)

/-- The report that the offers make of another one. -/
def reportAll (offers : List Offer) (report : StagingReport) : StagingReport :=
  offers.foldl (fun r o => r.add o.served) report

/-- The table that the offers make of another one. -/
def settleAll (offers : List Offer) (table : MountTable) : MountTable :=
  offers.foldl (fun t o => Stager.settle t o.row o.served) table

/-- The folder of a base after the offers. -/
def folderAfter (b : String) (offers : List Offer) (folder : Option String) : Option String :=
  offers.foldl (fun f o => if o.row.base = b then o.served.folder?.or f else f) folder

end Offer

namespace Stager

variable {stager : Stager} {root : String} {h h' : Host} {offers : List Offer}

/-- What follows a mount: a folder that is not empty serves the row; an empty one is downloaded
    beside it, where there is a courier. -/
inductive Follows (stager : Stager) (root : String) (o : Offer) : Host → Prop where
  | mounted : o.empty = false → o.served = .mounted o.folder → Follows stager root o o.after
  | downloaded {courier : Courier} {report : RunReport} {h' : Host} : o.empty = true →
      stager.courier = some courier →
      (courier.download o.row.area (downloadFolder root o.row) none).run
        { o.after with
          notices := o.after.notices ++ [downloadNotice o.row (downloadFolder root o.row)] } =
        (.ok report, h') →
      o.served = .downloaded (downloadFolder root o.row) → Follows stager root o h'
  | unstaged : o.empty = true → stager.courier = none → o.served = .unstaged →
      Follows stager root o
        { o.after with notices := o.after.notices ++ [unstagedNotice o.row] }

/-- One offer after another, each of them to the mounting of the area that its row names. -/
inductive Offers (stager : Stager) (root : String) : Host → List Offer → Host → Prop where
  | done (h : Host) : Offers stager root h [] h
  | more {o : Offer} {rest : List Offer} {h₁ h' : Host} :
      Locator.parse o.row.area = .ok o.area →
      (Mounting.mount stager.client stager.credentials o.area o.folder stager.cache).run o.before =
        (.ok o.empty, o.after) →
      o.folder = mountFolder root o.row → Follows stager root o h₁ →
      Offers stager root h₁ rest h' → Offers stager root o.before (o :: rest) h'

/-- Serving a row offers it to be mounted. -/
theorem offer_of_serve {row : MountRow} {s : Served}
    (hrun : (stager.serve root row).run h = (.ok s, h')) :
    ∃ o : Offer, o.row = row ∧ o.served = s ∧ o.before = h ∧
      Locator.parse o.row.area = .ok o.area ∧
      (Mounting.mount stager.client stager.credentials o.area o.folder stager.cache).run o.before =
        (.ok o.empty, o.after) ∧
      o.folder = mountFolder root o.row ∧ Follows stager root o h' := by
  rw [serve_eq] at hrun
  obtain ⟨area, h₁, hparse, harea⟩ := exists_of_run_bind_ok hrun
  obtain ⟨hparsed, rfl⟩ : Locator.parse row.area = .ok area ∧ h = h₁ := by
    cases hp : Locator.parse row.area with
    | error fault =>
      rw [hp] at hparse
      cases hparse
    | ok area' =>
      rw [hp] at hparse
      obtain ⟨rfl, hsame⟩ := eq_of_run_pure hparse
      exact ⟨rfl, hsame⟩
  unfold serveArea at harea
  obtain ⟨empty, h₂, hmount, hrest⟩ := exists_of_run_bind_ok harea
  refine ⟨⟨row, area, mountFolder root row, h, empty, h₂, s⟩, rfl, rfl, rfl, hparsed, hmount, rfl,
    ?_⟩
  cases empty with
  | false =>
    simp only [Bool.not_false, if_true] at hrest
    obtain ⟨rfl, rfl⟩ := eq_of_run_pure hrest
    exact .mounted rfl rfl
  | true =>
    cases hc : stager.courier with
    | none =>
      simp only [hc] at hrest
      obtain ⟨u, h₃, hnotify, hrest⟩ := exists_of_run_bind_ok hrest
      obtain ⟨rfl, rfl⟩ := eq_of_run_pure hrest
      cases hnotify
      exact .unstaged rfl hc rfl
    | some courier =>
      simp only [hc] at hrest
      obtain ⟨u, h₃, hnotify, hrest⟩ := exists_of_run_bind_ok hrest
      obtain ⟨report, h₄, hdownload, hrest⟩ := exists_of_run_bind_ok hrest
      obtain ⟨rfl, rfl⟩ := eq_of_run_pure hrest
      cases hnotify
      exact .downloaded rfl hc hdownload rfl

/-- Serving rows offers each of them once, in their order. -/
theorem offers_of_serveAll {rows : List MountRow} {report report' : StagingReport}
    {table served : MountTable}
    (hrun : (stager.serveAll root rows report table).run h = (.ok (report', served), h')) :
    ∃ offers, stager.Offers root h offers h' ∧ offers.map (·.row) = rows ∧
      report' = Offer.reportAll offers report ∧ served = Offer.settleAll offers table := by
  induction rows generalizing report table h with
  | nil =>
    obtain ⟨heq, rfl⟩ := eq_of_run_pure hrun
    cases heq
    exact ⟨[], .done _, rfl, rfl, rfl⟩
  | cons row rest ih =>
    obtain ⟨s, h₁, hserve, hrest⟩ := exists_of_run_bind_ok hrun
    obtain ⟨o, rfl, rfl, rfl, hparse, hmount, hfolder, hfollows⟩ := offer_of_serve hserve
    obtain ⟨offers, hoffers, hrows, hreport, hserved⟩ := ih hrest
    exact ⟨o :: offers, .more hparse hmount hfolder hfollows hoffers, by rw [List.map_cons, hrows],
      hreport, hserved⟩

/-- What the offers add to a report. -/
theorem report_of_offers (hoffers : stager.Offers root h offers h') (report : StagingReport) :
    (Offer.reportAll offers report).bases = report.bases ∧
    (Offer.reportAll offers report).served = report.served + offers.length ∧
    (Offer.reportAll offers report).mounted = report.mounted + offers.countP (!·.empty) ∧
    (Offer.reportAll offers report).unstaged =
      report.unstaged + (Offer.unstagedBases offers).length := by
  induction hoffers generalizing report with
  | done h => exact ⟨rfl, rfl, rfl, rfl⟩
  | @more o rest h₁ h' _ _ _ hfollows _ ih =>
    obtain ⟨hbases, hserved, hmounted, hunstaged⟩ := ih (report.add o.served)
    have hone : (report.add o.served).bases = report.bases ∧
        (report.add o.served).mounted = report.mounted + [o].countP (!·.empty) ∧
        (report.add o.served).unstaged = report.unstaged + (Offer.unstagedBases [o]).length := by
      cases hfollows with
      | mounted he hs | downloaded he _ _ hs | unstaged he _ hs =>
        simp [StagingReport.add, Offer.unstagedBases, he, hs]
    have hsplit : (Offer.unstagedBases (o :: rest)).length =
        (Offer.unstagedBases [o]).length + (Offer.unstagedBases rest).length := by
      rw [← List.length_append, Offer.unstagedBases, Offer.unstagedBases, Offer.unstagedBases,
        ← List.map_append, ← List.filter_append, List.singleton_append]
    have hcount : (o :: rest).countP (!·.empty) =
        [o].countP (!·.empty) + rest.countP (!·.empty) := by
      rw [← List.countP_append, List.singleton_append]
    refine ⟨hbases.trans hone.1, hserved.trans ?_, hmounted.trans ?_, hunstaged.trans ?_⟩
    · rw [StagingReport.served_add, List.length_cons]
      omega
    · rw [hone.2.1, hcount, Nat.add_assoc]
    · rw [hone.2.2, hsplit, Nat.add_assoc]

/-- With a courier, no base is left unstaged. -/
theorem unstagedBases_of_courier (hoffers : stager.Offers root h offers h')
    (hcourier : stager.courier.isSome = true) : Offer.unstagedBases offers = [] := by
  have hall : ∀ o ∈ offers, o.served ≠ .unstaged := by
    induction hoffers with
    | done h => exact fun o ho => absurd ho List.not_mem_nil
    | @more o rest h₁ h' _ _ _ hfollows _ ih =>
      intro o' ho'
      rcases List.mem_cons.mp ho' with rfl | ho'
      · cases hfollows with
        | mounted _ hs | downloaded _ _ _ hs =>
          rw [hs]
          exact fun hne => by cases hne
        | unstaged _ hnone _ =>
          rw [hnone] at hcourier
          cases hcourier
      · exact ih o' ho'
  rw [Offer.unstagedBases, List.filter_eq_nil_iff.mpr fun o ho => by simpa using hall o ho,
    List.map_nil]

theorem folder_of_offers (hoffers : stager.Offers root h offers h') :
    ∀ o ∈ offers, o.folder = mountFolder root o.row := by
  induction hoffers with
  | done h => exact fun o ho => absurd ho List.not_mem_nil
  | more _ _ hfolder _ _ ih =>
    intro o' ho'
    rcases List.mem_cons.mp ho' with rfl | ho'
    · exact hfolder
    · exact ih o' ho'

/-! ## Folders of the table -/

theorem find?_settle (table : MountTable) (row : MountRow) (s : Served) (b : String) :
    (settle table row s).find? b = (table.find? b).map (fun r =>
      { r with folder := if row.base = b then s.folder?.or r.folder else r.folder }) := by
  unfold settle
  cases s.folder? with
  | none =>
    simp only [Option.none_or, ite_self]
    exact Option.map_id'.symm
  | some folder =>
    rw [MountTable.find?_setFolder]
    refine Option.map_congr fun r hr => ?_
    obtain rfl : r.base = b := by simpa using List.find?_some hr
    simp only [Option.some_or, eq_comm (a := r.base)]
    split_ifs <;> rfl

/-- What the offers do to the row of a base. -/
theorem find?_settleAll (offers : List Offer) (table : MountTable) (b : String) :
    (Offer.settleAll offers table).find? b = (table.find? b).map (fun r =>
      { r with folder := Offer.folderAfter b offers r.folder }) := by
  induction offers generalizing table with
  | nil => exact Option.map_id'.symm
  | cons o rest ih =>
    refine (ih _).trans ?_
    rw [find?_settle, Option.map_map]
    rfl

theorem folderAfter_eq_none_iff {b : String} {folder : Option String} :
    Offer.folderAfter b offers folder = none ↔
      folder = none ∧ ∀ o ∈ offers, o.row.base = b → o.served = .unstaged := by
  induction offers generalizing folder with
  | nil => simp [Offer.folderAfter]
  | cons o rest ih =>
    refine ih.trans ?_
    rw [List.forall_mem_cons, ← and_assoc]
    refine and_congr_left' ?_
    have hunstaged : o.served.folder? = none ↔ o.served = .unstaged := by
      cases o.served <;> simp [Served.folder?]
    show (if o.row.base = b then o.served.folder?.or folder else folder) = none ↔ _
    split_ifs with hb
    · simp [Option.or_eq_none_iff, hunstaged, hb, and_comm]
    · simp [hb]

/-! ## Skipped entries -/

theorem mem_unstagedBases {b : String} : b ∈ Offer.unstagedBases offers ↔
    ∃ o ∈ offers, o.served = .unstaged ∧ o.row.base = b := by
  simp [Offer.unstagedBases, and_assoc]

/-- A base of the table has no folder after the offers if and only if it was left unstaged. -/
theorem folder_eq_none_iff {table : MountTable} {row : MountRow} {b : String}
    (hascending : MountTable.Ascending table.rows) (hrows : offers.map (·.row) = table.rows)
    (hfind : table.find? b = some row) (hnew : row.folder = none) :
    Offer.folderAfter b offers row.folder = none ↔ b ∈ Offer.unstagedBases offers := by
  obtain ⟨hrow, hbase⟩ := (MountTable.find?_eq_some_iff_of_ascending hascending row b).mp hfind
  rw [← hrows] at hrow hascending
  obtain ⟨o, ho, hoffered⟩ := List.mem_map.mp hrow
  rw [folderAfter_eq_none_iff, mem_unstagedBases]
  constructor
  · rintro ⟨-, hall⟩
    have hobase : o.row.base = b := by rw [hoffered, hbase]
    exact ⟨o, ho, hall o ho hobase, hobase⟩
  · rintro ⟨o', ho', hunstaged, hobase⟩
    refine ⟨hnew, fun o'' ho'' hobase' => ?_⟩
    -- the base has one row, and so one offer
    have hnodup : (offers.map (·.row.base)).Nodup := by
      have hpairwise := List.pairwise_map.mp hascending
      exact List.pairwise_map.mpr (hpairwise.imp fun hlt => hlt.ne)
    rw [List.inj_on_of_nodup_map hnodup ho'' ho' (hobase'.trans hobase.symm), hunstaged]

/-- The entries that are skipped are those of the bases left unstaged. -/
theorem outcomeOf_eq_skipped_iff {table : MountTable}
    (hascending : MountTable.Ascending table.rows) (hrows : offers.map (·.row) = table.rows)
    (hnew : ∀ row ∈ table.rows, row.folder = none) (e : ManifestEntry) :
    Manifest.outcomeOf (Offer.settleAll offers table) e = .skipped ↔
      ∃ b ∈ Offer.unstagedBases offers, MountTable.isOfBase b e.storagePath = true := by
  have hskipped : Manifest.outcomeOf (Offer.settleAll offers table) e = .skipped ↔
      (Manifest.rowOf? (Offer.settleAll offers table) e).any (·.folder.isNone) = true := by
    unfold Manifest.outcomeOf
    split_ifs <;> simp_all
  rw [hskipped]
  unfold Manifest.rowOf? MountTable.isOfBase
  cases hparse : Locator.parse e.storagePath with
  | error fault => simp
  | ok l =>
    simp only [decide_eq_true_eq, exists_eq_right', find?_settleAll]
    cases hfind : table.find? l.base with
    | none =>
      -- no row of another base is offered
      simp only [Option.map_none, Option.any_none, Bool.false_eq_true, false_iff,
        mem_unstagedBases]
      rintro ⟨o, ho, -, hobase⟩
      have hrow : o.row ∈ table.rows := hrows ▸ List.mem_map_of_mem ho
      have hsome := (MountTable.find?_eq_some_iff_of_ascending hascending o.row l.base).mpr
        ⟨hrow, hobase⟩
      cases hfind.symm.trans hsome
    | some row =>
      rw [Option.map_some, Option.any_some, Option.isNone_iff_eq_none]
      exact folder_eq_none_iff hascending hrows hfind (hnew row (List.mem_of_find?_eq_some hfind))

/-! ## Stagings -/

variable {a : Assignment}

/-- A second pass that succeeds has read the manifest to its end, and counts each of its entries
    once; the skipped ones are those whose base has no folder. -/
theorem counts_of_links {table : MountTable} {link : LinkReport} {tree : FileTree}
    (hlinks : a.Links h table (.ok link) tree) : (∃ n, (a.listing h).2 = .ok n) ∧
      link.linked + link.skipped + link.failed = (a.listing h).1.length ∧
      link.skipped = (a.listing h).1.countP
        (fun e => decide (Manifest.outcomeOf table e = .skipped)) := by
  obtain ⟨final, r, hruns, hr, hlink, -⟩ := hlinks
  obtain ⟨⟨⟩, rfl⟩ : ∃ u, r = .ok u := by
    cases r with
    | error fault => cases hlink
    | ok u => exact ⟨u, rfl⟩
  obtain rfl : link = final.shared.report := Except.ok.inj hlink
  exact ⟨(Pool.ended_of_result_ok hruns hr).1, Manifest.counts_of_result_ok hruns hr⟩

/-- Each row is offered on a folder below the root that one component names. -/
theorem segment_of_offers (hoffers : stager.Offers root h offers h') (hdescribed :
    ∀ o ∈ offers, o.row.Described) : ∀ o ∈ offers, ∃ name, o.folder = Path.join root name ∧
      IsSegment name ∧ name ≠ "." ∧ name ≠ ".." := by
  intro o ho
  obtain ⟨-, l, hl, hbase, -⟩ := hdescribed o ho
  have hname := MountTable.isSegment_folderName (Locator.wellFormed_of_read hl)
  rw [show l.bucket.base = o.row.base from hbase] at hname
  exact ⟨_, folder_of_offers hoffers o ho, hname⟩

/-- A staging that succeeds accounts for every base and every entry. The bases of the table that the
    first pass has left are offered to be mounted, each once and in the order of their bytes, on a
    folder below the root that one component names. The report has as many bases as the table, each
    of them mounted, downloaded or unstaged; the counts of the second pass add up to the entries
    that it has read; the skipped ones are those of an unstaged base; and with a courier there are
    none of either. -/
theorem report_of_stages {served : Option MountTable} {report : StagingReport}
    (hstages : stager.Stages a h served (.ok report) h') :
    ∃ table offers h₁, a.Answers h (.ok table) ∧ stager.Offers a.root h offers h₁ ∧
      a.Links h₁ (Offer.settleAll offers table) (.ok report.link) h'.tree ∧
      offers.map (·.row) = table.rows ∧
      (table.bases.map encode).Pairwise (· < ·) ∧
      (∀ o ∈ offers, ∃ name, o.folder = Path.join a.root name ∧ IsSegment name ∧
        name ≠ "." ∧ name ≠ "..") ∧
      report.bases = table.bases.length ∧
      report.bases = report.mounted + report.downloaded + report.unstaged ∧
      report.mounted = offers.countP (!·.empty) ∧
      report.unstaged = (Offer.unstagedBases offers).length ∧
      (∃ n, (a.listing h₁).2 = .ok n) ∧
      report.link.linked + report.link.skipped + report.link.failed = (a.listing h₁).1.length ∧
      report.link.skipped = (a.listing h₁).1.countP (fun e =>
        (Offer.unstagedBases offers).any (fun b => MountTable.isOfBase b e.storagePath)) ∧
      (stager.courier.isSome = true → report.unstaged = 0 ∧ report.link.skipped = 0) := by
  generalize hresult : (Except.ok report : Except Halt StagingReport) = result at hstages
  cases hstages with
  | refused _ | halted _ _ => cases hresult
  | @linked table _ report₀ h₁ o _ hanswers hserve hlinks =>
    obtain ⟨link, rfl, rfl⟩ : ∃ link, o = .ok link ∧ report = { report₀ with link := link } := by
      cases o with
      | error fault => cases hresult
      | ok link => exact ⟨link, rfl, Except.ok.inj hresult⟩
    obtain ⟨offers, hoffers, hrows, rfl, rfl⟩ := offers_of_serveAll hserve
    have hsurveys := Assignment.surveys_of_answers hanswers
    have hdescribed := (Manifest.surveyed_of_surveys hsurveys).1.described
    have hascending : MountTable.Ascending table.rows := by
      rw [Manifest.table_of_surveys hsurveys]
      exact (MountTable.recordAll_spec _).1
    obtain ⟨hread, htotal, hskipped⟩ := counts_of_links hlinks
    obtain ⟨hbases, hserved, hmounted, hunstaged⟩ :=
      report_of_offers hoffers (.start table.size)
    have hsize : table.size = offers.length := by
      rw [MountTable.size, ← hrows, List.length_map]
    have hskips : link.skipped = (a.listing h₁).1.countP (fun e =>
        (Offer.unstagedBases offers).any (fun b => MountTable.isOfBase b e.storagePath)) := by
      rw [hskipped]
      refine List.countP_congr fun e _ => ?_
      rw [decide_eq_true_eq, List.any_eq_true]
      exact outcomeOf_eq_skipped_iff hascending hrows
        (fun row hrow => (hdescribed row hrow).folder_eq) e
    refine ⟨table, offers, h₁, hanswers, hoffers, hlinks, hrows, ?_, ?_, ?_, ?_, ?_, ?_, hread,
      htotal, hskips, ?_⟩
    · exact List.pairwise_map.mpr (List.pairwise_map.mpr
        (hascending.imp fun hlt => Utf8.encode_lt_encode hlt))
    · exact segment_of_offers hoffers fun o ho => hdescribed o.row (hrows ▸ List.mem_map_of_mem ho)
    · show (Offer.reportAll offers _).bases = _
      rw [hbases, MountTable.bases, List.length_map]
      rfl
    · show (Offer.reportAll offers _).bases = (Offer.reportAll offers _).served
      rw [hbases, hserved, ← hsize]
      exact (Nat.zero_add _).symm
    · exact hmounted.trans (Nat.zero_add _)
    · exact hunstaged.trans (Nat.zero_add _)
    · intro hcourier
      rw [unstagedBases_of_courier hoffers hcourier] at hunstaged hskips
      exact ⟨hunstaged, by simpa using hskips⟩

/-! ## Two bases -/

/-- Two entries of two buckets. -/
def pairText : String :=
  "[\x7b\"relative_path\":\"x\",\"storage_path\":\"s3://b/object\"\x7d," ++
    "\x7b\"relative_path\":\"y\",\"storage_path\":\"s3://c/other\"\x7d]"

/-- A manifest beside a folder for mounts. -/
def manifestTree (contents : Bytes) : FileTree :=
  ⟨[([encode "mnt"], .directory), ([encode "m"], .file contents)]⟩

/-- A host with a manifest and a mount client. -/
def manifestHost (contents : Bytes) : Host :=
  { Mounting.clientHost with tree := manifestTree contents }

/-- Two workers, and the usual queue between them and the reader. -/
def pairAssignment : Assignment where
  manifest := "m"
  hashRoot := none
  destination := "/task"
  root := "/mnt"
  workers := 2

/-- Mounts only, with a key pair for the first bucket. -/
def pairStager : Stager := ⟨.standard, .none, .ring ⟨[("s3://b", ⟨"k", "s"⟩)]⟩, none⟩

def pairTable : MountTable :=
  ⟨[⟨"s3://b", none, "s3://b/object"⟩, ⟨"s3://c", none, "s3://c/other"⟩]⟩

def pairServed : MountTable :=
  ⟨[⟨"s3://b", some "/mnt/s3_b", "s3://b/object"⟩, ⟨"s3://c", none, "s3://c/other"⟩]⟩

/-- The files once the first bucket is mounted. -/
def mountedTree (contents : Bytes) : FileTree :=
  ((manifestTree contents).put [encode "mnt", encode "s3_b"] .directory).put
    [encode "mnt", encode "s3_b", encode "object"] (.file [])

theorem run_serve_of_empty {row : MountRow} {area : Locator} (hcourier : stager.courier = none)
    (hparse : Locator.parse row.area = .ok area)
    (hmount : (Mounting.mount stager.client stager.credentials area (mountFolder root row)
      stager.cache).run h = (.ok true, h')) :
    (stager.serve root row).run h =
      (.ok .unstaged, { h' with notices := h'.notices ++ [unstagedNotice row] }) := by
  have hparsed : (Host.orFail (Locator.parse row.area)).run h = (.ok area, h) := by
    rw [hparse]
    rfl
  rw [serve_eq, run_bind_of_ok hparsed]
  unfold serveArea
  rw [run_bind_of_ok hmount]
  simp only [hcourier]
  rfl

theorem read_pairText : Manifest.read (encode pairText) =
    ⟨[⟨"x", "s3://b/object"⟩, ⟨"y", "s3://c/other"⟩], .ok ()⟩ :=
  Manifest.Reading.ext (by decide +kernel) (by decide +kernel)

/-- What is known of a file holds wherever it is. -/
theorem readPath_of_read {t : FileTree} {folder l : Location} {path : String} {contents : Bytes}
    {entries : List ManifestEntry} (hfind : t.find folder (encode path) = .ok (l, .file contents))
    (hread : Manifest.read contents = ⟨entries, .ok ()⟩) :
    Manifest.readPath t folder path none = (entries, .ok entries.length) := by
  unfold Manifest.readPath
  rw [hfind]
  unfold Manifest.read at hread
  simp only [Option.isSome_none, Bool.false_eq_true, if_false, hread]
  rfl

theorem find_manifestTree (contents : Bytes) : (manifestTree contents).find [] (encode "m") =
    .ok ([encode "m"], .file contents) := by
  rfl

theorem find_mountedTree (contents : Bytes) : (mountedTree contents).find [] (encode "m") =
    .ok ([encode "m"], .file contents) := by
  rfl

theorem survey_pairText :
    Manifest.survey (manifestTree (encode pairText)) [] "m" none = .ok pairTable := by
  unfold Manifest.survey
  rw [readPath_of_read (find_manifestTree _) read_pairText]
  decide +kernel

theorem link_pairText : (Manifest.link (mountedTree (encode pairText)) [] pairAssignment.manifest
    pairServed pairAssignment.destination).1 = .ok ⟨1, 1, 0⟩ := by
  unfold Manifest.link
  rw [show pairAssignment.manifest = "m" from rfl,
    readPath_of_read (find_mountedTree _) read_pairText]
  generalize encode pairText = contents
  rfl

/-- The first bucket is mounted, and nothing opens the second one. -/
theorem run_serveTable_pairStager (contents : Bytes) : ∃ h₂,
    (pairStager.serveTable "/mnt" pairTable).run (manifestHost contents) =
      (.ok (⟨2, 1, 0, 1, .zero⟩, pairServed), h₂) ∧
    h₂.tree = mountedTree contents ∧ h₂.folder = [] := by
  obtain ⟨h₁, hmount, hserves⟩ : ∃ h₁, (Mounting.mount .standard pairStager.credentials
      ⟨"s3://b/", .s3 "b", ""⟩ "/mnt/s3_b" .none).run (manifestHost contents) = (.ok false, h₁) ∧
        Mounting.Serves h₁ (mountedTree contents) :=
    Mounting.run_mount_of_objectClient ⟨"k", "s"⟩
      ((manifestTree contents).put [encode "mnt", encode "s3_b"] .directory) [encode "object"]
      ⟨rfl, rfl, rfl, rfl⟩ (by decide +kernel) (by decide +kernel) rfl rfl rfl (by simp)
  have hfirst : (pairStager.serve "/mnt" ⟨"s3://b", none, "s3://b/object"⟩).run
      (manifestHost contents) = (.ok (.mounted "/mnt/s3_b"), h₁) :=
    run_serve_of_mount (by decide +kernel) hmount
  have hempty : (Mounting.mount .standard pairStager.credentials ⟨"s3://c/", .s3 "c", ""⟩
      (mountFolder "/mnt" ⟨"s3://c", none, "s3://c/other"⟩) .none).run h₁ = (.ok true, { h₁ with
        notices := h₁.notices ++
          [Mounting.missingCredentials "s3://c" ⟨"s3://c/", .s3 "c", ""⟩] }) := rfl
  have hsecond : (pairStager.serve "/mnt" ⟨"s3://c", none, "s3://c/other"⟩).run h₁ = _ :=
    run_serve_of_empty rfl (by decide +kernel) hempty
  have hall : (pairStager.serveTable "/mnt" pairTable).run (manifestHost contents) =
      (.ok (⟨2, 1, 0, 1, .zero⟩, pairServed), _) :=
    (run_serveAll_cons _ _ hfirst).trans (run_serveAll_cons _ _ hsecond)
  exact ⟨_, hall, hserves.tree_eq, hserves.folder_eq⟩

theorem stages_pairStager : ∃ served h', pairStager.Stages pairAssignment
    (manifestHost (encode pairText)) served (.ok ⟨2, 1, 0, 1, ⟨1, 1, 0⟩⟩) h' := by
  obtain ⟨h₂, hserve, htree, hfolder⟩ := run_serveTable_pairStager (encode pairText)
  have hanswers : pairAssignment.Answers (manifestHost (encode pairText)) (.ok pairTable) :=
    survey_pairText ▸ pairAssignment.answers_survey
  have hlinks := pairAssignment.links_link (h := h₂) pairServed
  rw [htree, hfolder, link_pairText] at hlinks
  exact ⟨_, _, .linked hanswers hserve hlinks⟩

/-- One base is mounted and one entry linked; the other base has no key pair, so it is unstaged and
    its entry is skipped. -/
theorem report_of_two_bases : (∃ served h', pairStager.Stages pairAssignment
      (manifestHost (encode pairText)) served (.ok ⟨2, 1, 0, 1, ⟨1, 1, 0⟩⟩) h') ∧
    ∃ offers : List Offer, offers.length = 2 ∧ (Offer.unstagedBases offers).length = 1 ∧
      ∀ o ∈ offers, ∃ name, o.folder = Path.join "/mnt" name ∧ IsSegment name := by
  obtain ⟨served, h', hstages⟩ := stages_pairStager
  obtain ⟨table, offers, h₁, -, -, -, hrows, -, hfolders, hbases, -, -, hunstaged, -⟩ :=
    report_of_stages hstages
  refine ⟨⟨served, h', hstages⟩, offers, ?_, hunstaged.symm, fun o ho => ?_⟩
  · rw [MountTable.bases, List.length_map, ← hrows, List.length_map] at hbases
    exact hbases.symm
  · obtain ⟨name, hfolder, hname, -⟩ := hfolders o ho
    exact ⟨name, hfolder, hname⟩

end Stager

end DataStaging
