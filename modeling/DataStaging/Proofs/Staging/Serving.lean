import DataStaging.Proofs.Manifest.Surveyed
import DataStaging.Proofs.Mount.Mounted
import DataStaging.Staging

/-!
# What staging has set when links are made

Between the two passes each row of the table is served: mounted, or downloaded, or neither. So the
table of the second pass is that of the first one with some folders set, each of them a row's own
mount or download folder.

Results:
* `served_of_serveAll`: the table after all rows were served.
* `reachesLinks_of_stage`: a staging that succeeds has come to the second pass that way.
-/

namespace DataStaging.Stager

variable {stager : Stager} {root : String} {row : MountRow} {h h' : Host}

/-! ## One row -/

/-- Mounts or downloads an area, given the locator that names it. -/
def serveArea (stager : Stager) (root : String) (row : MountRow) (area : Locator) :
    Act Host Served := do
  let folder := mountFolder root row
  if !(← Mounting.mount stager.client stager.credentials area folder stager.cache) then
    return .mounted folder
  match stager.courier with
  | some courier =>
    let folder := downloadFolder root row
    Host.notify [downloadNotice row folder]
    let _ ← courier.download row.area folder none
    return .downloaded folder
  | none =>
    Host.notify [unstagedNotice row]
    return .unstaged

theorem serve_eq (stager : Stager) (root : String) (row : MountRow) :
    stager.serve root row =
      Host.orFail (Locator.parse row.area) >>= stager.serveArea root row := rfl

/-- The folder that a row may come to be served by. -/
def IsFolderOf (stager : Stager) (root : String) (row : MountRow) (folder : String) : Prop :=
  folder = mountFolder root row ∨
    stager.courier.isSome = true ∧ folder = downloadFolder root row

theorem folder_of_serve {s : Served} {folder : String}
    (hrun : (stager.serve root row).run h = (.ok s, h')) (hs : s.folder? = some folder) :
    stager.IsFolderOf root row folder := by
  rw [serve_eq] at hrun
  obtain ⟨area, h₁, -, hrun⟩ := exists_of_run_bind_ok hrun
  unfold serveArea at hrun
  obtain ⟨empty, h₂, -, hrun⟩ := exists_of_run_bind_ok hrun
  cases empty with
  | false =>
    simp only [Bool.not_false, if_true] at hrun
    obtain ⟨rfl, -⟩ := eq_of_run_pure hrun
    exact Or.inl (Option.some.inj hs).symm
  | true =>
    cases hc : stager.courier with
    | none =>
      simp only [hc] at hrun
      obtain ⟨u, h₃, -, hrun⟩ := exists_of_run_bind_ok hrun
      obtain ⟨rfl, -⟩ := eq_of_run_pure hrun
      cases hs
    | some courier =>
      simp only [hc] at hrun
      obtain ⟨u, h₃, -, hrun⟩ := exists_of_run_bind_ok hrun
      obtain ⟨u', h₄, -, hrun⟩ := exists_of_run_bind_ok hrun
      obtain ⟨rfl, -⟩ := eq_of_run_pure hrun
      exact Or.inr ⟨by rw [hc]; rfl, (Option.some.inj hs).symm⟩

theorem run_serve_of_mount {area : Locator} (hparse : Locator.parse row.area = .ok area)
    (hmount : (Mounting.mount stager.client stager.credentials area (mountFolder root row)
      stager.cache).run h = (.ok false, h')) :
    (stager.serve root row).run h = (.ok (.mounted (mountFolder root row)), h') := by
  have hparsed : (Host.orFail (Locator.parse row.area)).run h = (.ok area, h) := by
    rw [hparse]
    rfl
  rw [serve_eq, run_bind_of_ok hparsed]
  unfold serveArea
  rw [run_bind_of_ok hmount]
  rfl

/-! ## All rows -/

theorem settle_eq (table : MountTable) (row : MountRow) (s : Served) :
    settle table row s =
      table.setFolders ((s.folder?.map (fun folder => (row.base, folder))).toList) := by
  unfold settle
  cases s.folder? <;> rfl

theorem run_serveAll_cons {rows : List MountRow} {s : Served} (report : StagingReport)
    (table : MountTable) (hserve : (stager.serve root row).run h = (.ok s, h')) :
    (stager.serveAll root (row :: rows) report table).run h =
      (stager.serveAll root rows (report.add s) (settle table row s)).run h' := by
  rw [serveAll, run_bind_of_ok hserve]

/-- Serving rows sets folders of these rows. -/
theorem served_of_serveAll {rows : List MountRow} {report report' : StagingReport}
    {table served : MountTable}
    (hrun : (stager.serveAll root rows report table).run h = (.ok (report', served), h')) :
    ∃ folders, served = table.setFolders folders ∧
      ∀ p ∈ folders, ∃ row ∈ rows, p.1 = row.base ∧ stager.IsFolderOf root row p.2 := by
  induction rows generalizing report table h with
  | nil =>
    obtain ⟨heq, -⟩ := eq_of_run_pure hrun
    cases heq
    exact ⟨[], rfl, fun p hp => by cases hp⟩
  | cons row rest ih =>
    obtain ⟨s, h₁, hserve, hrest⟩ := exists_of_run_bind_ok hrun
    obtain ⟨folders, hserved, hall⟩ := ih hrest
    refine ⟨(s.folder?.map (fun folder => (row.base, folder))).toList ++ folders, ?_, ?_⟩
    · rw [hserved, settle_eq, MountTable.setFolders_append]
    · intro p hp
      rcases List.mem_append.mp hp with hp | hp
      · rw [Option.mem_toList, Option.map_eq_some_iff] at hp
        obtain ⟨folder, hfolder, rfl⟩ := hp
        exact ⟨row, List.mem_cons_self, rfl, folder_of_serve hserve hfolder⟩
      · obtain ⟨row', hrow', hp'⟩ := hall p hp
        exact ⟨row', List.mem_cons_of_mem _ hrow', hp'⟩

/-! ## Stagings -/

/-- A staging comes to its second pass with the table `served`, its survey having left `table`. -/
def ReachesLinks (stager : Stager) (listing : Manifest.Listing) (hashRoot : Option String)
    (root : String) (table served : MountTable) : Prop :=
  (∃ n depth, Manifest.Surveys listing hashRoot n depth table) ∧
    ∃ h h' report, (stager.serveAll root table.rows (.start table.size) table).run h =
      (.ok (report, served), h')

/-- A staging that succeeds has come to its second pass. -/
theorem reachesLinks_of_stage {manifest destination : String} {hashRoot : Option String}
    {report : StagingReport}
    (hrun : (stager.stage manifest hashRoot destination root).run h = (.ok report, h')) :
    ∃ table served, stager.ReachesLinks (Manifest.readPath h.tree h.folder manifest none) hashRoot
      root table served := by
  obtain ⟨h₀, h₁, hget, hrun⟩ := exists_of_run_bind_ok hrun
  cases hget
  obtain ⟨table, h₂, hsurvey, hrun⟩ := exists_of_run_bind_ok hrun
  obtain ⟨⟨report', served⟩, h₃, hserve, -⟩ := exists_of_run_bind_ok hrun
  refine ⟨table, served, ⟨1, 64, Manifest.surveys_of_survey ?_ 1 64⟩, _, _, _, hserve⟩
  cases hs : Manifest.survey h.tree h.folder manifest hashRoot with
  | error fault =>
    rw [hs] at hsurvey
    cases hsurvey
  | ok table' =>
    rw [hs] at hsurvey
    obtain ⟨rfl, -⟩ := eq_of_run_pure hsurvey
    rfl

/-- A row of the second pass is one of the survey, and its folder, if it has one, is its own. -/
theorem row_of_reachesLinks {listing : Manifest.Listing} {hashRoot : Option String}
    {table served : MountTable} (hreach : stager.ReachesLinks listing hashRoot root table served)
    {row : MountRow} (hrow : row ∈ served.rows) :
    ∃ row₀ ∈ table.rows, row₀.Described ∧ row.base = row₀.base ∧ row.shared = row₀.shared ∧
      ∀ folder, row.folder = some folder → stager.IsFolderOf root row₀ folder := by
  obtain ⟨⟨n, depth, hsurveys⟩, h, h', report, hrun⟩ := hreach
  obtain ⟨folders, rfl, hall⟩ := served_of_serveAll hrun
  obtain ⟨row₀, hrow₀, hbase, hshared, hfolder⟩ := MountTable.row_of_setFolders hrow
  have hdescribed := (Manifest.surveyed_of_surveys hsurveys).1.described row₀ hrow₀
  refine ⟨row₀, hrow₀, hdescribed, hbase, hshared, fun folder hf => ?_⟩
  rcases hfolder with hsame | ⟨p, hp, hpbase, hpfolder⟩
  · rw [hsame, hdescribed.folder_eq] at hf
    cases hf
  · obtain ⟨row₁, -, hrow₁, hown⟩ := hall p hp
    rw [hpfolder] at hf
    obtain rfl := Option.some.inj hf
    -- a folder depends on the row's base only
    have hbase₁ : row₁.base = row₀.base := by rw [← hrow₁, hpbase, hbase]
    unfold IsFolderOf mountFolder downloadFolder at hown ⊢
    rwa [hbase₁] at hown

end DataStaging.Stager
