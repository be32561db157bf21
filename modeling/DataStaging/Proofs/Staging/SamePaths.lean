import DataStaging.Proofs.Mount.Areas
import DataStaging.Proofs.Staging.InStep
import DataStaging.Proofs.Staging.Offers
import DataStaging.Proofs.Transfer.Clocks

/-!
# Manifests with the same storage paths

What a staging does before its second pass is told by the set of its manifest's storage paths. Two
manifests that have the same ones, in whatever order and however often, at whatever places of the
task's tree, have the same bases served in the same way.

Results:
* `sameArea_of_surveys`: the tables of two first passes have the same bases and areas.
* `exists_table_of_samePaths`: where one of them has a table, so has the other.
* `alike_of_samePaths`: the programs started, the notices and the folders of two stagings.
-/

namespace DataStaging

open MountTable (recordAll)
open Manifest.Survey (underRoot effectiveRoot)
open Utf8 (encode)

/-! ## First passes -/

namespace Manifest

variable {root : Option String} {entries entries' : List ManifestEntry}

/-- The storage paths of the entries are the same, as a set. -/
def SamePaths (entries entries' : List ManifestEntry) : Prop :=
  ∀ path, path ∈ entries.map (·.storagePath) ↔ path ∈ entries'.map (·.storagePath)

theorem SamePaths.exists_iff (h : SamePaths entries entries') (P : String → Prop) :
    (∃ e ∈ entries, P e.storagePath) ↔ ∃ e ∈ entries', P e.storagePath := by
  have hpaths : ∀ {entries : List ManifestEntry},
      (∃ e ∈ entries, P e.storagePath) ↔ ∃ path ∈ entries.map (·.storagePath), P path := by
    intro entries
    simp
  rw [hpaths, hpaths]
  exact exists_congr fun path => and_congr_left fun _ => h path

theorem SamePaths.mem_recordedTexts (h : SamePaths entries entries') (text : String) :
    text ∈ recordedTexts root entries ↔ text ∈ recordedTexts root entries' := by
  rw [Manifest.mem_recordedTexts, Manifest.mem_recordedTexts]
  unfold UsesRoot
  rw [h.exists_iff (fun path => underRoot root path = false ∧ path = text),
    h.exists_iff (fun path => underRoot root path = true)]

/-- The tables of two first passes have the same bases and areas. -/
theorem sameArea_of_surveys {listing listing' : Listing} {hashRoot : Option String}
    {n n' depth depth' : Nat} {table table' : MountTable}
    (hpaths : SamePaths listing.1 listing'.1) (h : Surveys listing hashRoot n depth table)
    (h' : Surveys listing' hashRoot n' depth' table') :
    List.Forall₂ MountRow.SameArea table.rows table'.rows := by
  rw [table_of_surveys h, table_of_surveys h']
  exact MountTable.areas_recordAll hpaths.mem_recordedTexts

end Manifest

namespace Assignment

variable {a a' : Assignment} {h h' : Host}

/-- Where one manifest has a table, so has one with the same paths that can be read to its end. -/
theorem exists_table_of_samePaths {table : MountTable} {count : Nat} {o : Except Fault MountTable}
    (hroot : a'.hashRoot = a.hashRoot)
    (hpaths : Manifest.SamePaths (a.listing h).1 (a'.listing h').1)
    (hreads : (a'.listing h').2 = .ok count) (hans : a.Answers h (.ok table))
    (hans' : a'.Answers h' o) : ∃ table', o = .ok table' := by
  have hsurvey := (answers_iff_survey hans table).mp rfl
  have hable := Manifest.exists_survey_iff.mp ⟨table, hsurvey⟩
  obtain ⟨table', htable'⟩ : ∃ table',
      Manifest.survey h'.tree h'.folder a'.manifest a'.hashRoot = .ok table' := by
    refine Manifest.exists_survey_iff.mpr ⟨Manifest.exists_count_iff.mp ⟨count, hreads⟩, ?_, ?_⟩
    · intro e' he' hout
      obtain ⟨e, he, hpath⟩ := (hpaths.exists_iff (· = e'.storagePath)).mpr ⟨e', he', rfl⟩
      rw [← hpath] at hout ⊢
      exact hable.readable e he (hroot ▸ hout)
    · intro huses r hr
      rw [hroot] at huses hr
      refine hable.root_readable ?_ r hr
      exact (hpaths.exists_iff (fun path => underRoot _ path = true)).mpr huses
  exact ⟨table', (answers_iff_survey hans' table').mpr htable'⟩

end Assignment

/-! ## Stagings -/

namespace Stager

/-- The artifact of a download that begins at a time, where there is a courier. -/
def artifact? (stager : Stager) (now : Instant) : Option String :=
  stager.courier.bind (·.artifact? now)

/-- The folder of a base is the same in both tables. -/
def SameFolders (t t' : MountTable) : Prop :=
  ∀ b, (t'.find? b).map (·.folder) = (t.find? b).map (·.folder)

theorem sameFolders_settle {row row' : MountRow} {t t' : MountTable} (v : Served)
    (hrow : row.SameArea row') (h : SameFolders t t') :
    SameFolders (settle t row v) (settle t' row' v) := by
  have hfolder : ∀ t row b, ((settle t row v).find? b).map (·.folder) =
      ((t.find? b).map (·.folder)).map
        (fun f => if row.base = b then v.folder?.or f else f) := by
    intro t row b
    rw [find?_settle, Option.map_map, Option.map_map]
    rfl
  intro b
  rw [hfolder, hfolder, h b, hrow.1]

/-- Where no folder is set yet, the tables have the same folders. -/
theorem sameFolders_of_described {t t' : MountTable}
    (h : List.Forall₂ MountRow.SameArea t.rows t'.rows) (hnone : ∀ row ∈ t.rows, row.folder = none)
    (hnone' : ∀ row ∈ t'.rows, row.folder = none) : SameFolders t t' := by
  intro b
  unfold MountTable.find?
  generalize t.rows = rows, t'.rows = rows' at h hnone hnone'
  induction h with
  | nil => rfl
  | @cons row row' rest rest' hrow _ ih =>
    rw [List.find?_cons, List.find?_cons, hrow.1]
    cases row.base == b with
    | true =>
      exact congrArg some ((hnone' row' List.mem_cons_self).trans
        (hnone row List.mem_cons_self).symm)
    | false =>
      exact ih (fun r hr => hnone r (List.mem_cons_of_mem _ hr))
        (fun r hr => hnone' r (List.mem_cons_of_mem _ hr))

variable {stager : Stager} {but : Location → Prop} {shift : Int} {a a' : Assignment}
  {h h' h₁ h₁' : Host} {served served' : Option MountTable} {r r' : Except Halt StagingReport}
  {table table' : MountTable}

/-- A stager is related to itself where clocks differ: the names of artifacts are set apart. -/
theorem stagers_self (stager : Stager) :
    (Kinship.apart but stager.artifact? shift).Stagers stager stager where
  client := rfl
  cache := rfl
  courier := rfl
  mounts profile := by
    cases stager.credentials.lookup profile with
    | none => exact .none
    | some c => exact .some fun _ _ => commands_self _
  unmounts _ := commands_self _
  transfers courier hcourier uri path now := by
    have hartifact : stager.artifact? = courier.artifact? := by
      funext now
      simp [artifact?, hcourier]
    rw [hartifact]
    have hcommand : (Kinship.apart but courier.artifact? shift).Commands _ _ :=
      commands_download courier uri path now []
    rw [Command.withArgs_nil, Command.withArgs_nil] at hcommand
    exact ⟨hcommand, commands_download courier uri path now ["--resume"],
      labels_download courier uri path now⟩

/-- The tables of two first passes are served in step. -/
theorem inStep_serveTable (hroot : a'.hashRoot = a.hashRoot) (hbelow : a'.root = a.root)
    (hpaths : Manifest.SamePaths (a.listing h).1 (a'.listing h').1)
    (hans : a.Answers h (.ok table)) (hans' : a'.Answers h' (.ok table')) :
    InStep (Kinship.apart but stager.artifact? shift)
      (Kinship.apart but stager.artifact? shift).halt
      (fun p p' => p'.1 = p.1 ∧ SameFolders p.2 p'.2) (stager.serveTable a.root table)
      (stager.serveTable a'.root table') := by
  have hsurveys := Assignment.surveys_of_answers hans
  have hsurveys' := Assignment.surveys_of_answers hans'
  have hdescribed := (Manifest.surveyed_of_surveys hsurveys).1.described
  have hdescribed' := (Manifest.surveyed_of_surveys hsurveys').1.described
  rw [hroot] at hsurveys'
  have hrows := Manifest.sameArea_of_surveys hpaths hsurveys hsurveys'
  have hfolders := sameFolders_of_described hrows (fun row hrow => (hdescribed row hrow).folder_eq)
    (fun row hrow => (hdescribed' row hrow).folder_eq)
  unfold serveTable
  rw [hbelow, show table'.size = table.size from hrows.length_eq.symm]
  exact inStep_serveAll sameFolders_settle (stagers_self stager) a.root hrows _ hfolders

/-- Two manifests with the same set of storage paths have their bases served alike, also if one has
    more entries, or has them in another order or at other places, and whatever the numbers of
    workers, the depths of the queues and the orders of the steps. If the first pass over one of
    them leaves a table, both stagings start the same programs, one after another, with the same
    arguments and variables, write the same notices, and come to their second pass with the same
    folder for every base, or do not come to it. Where the wall clocks differ, so may the times in
    the names of benchmark artifacts, and nothing else. -/
theorem alike_of_samePaths {count : Nat} (hroot : a'.hashRoot = a.hashRoot)
    (hbelow : a'.root = a.root) (hkin : (Kinship.apart but stager.artifact? shift).Hosts h h')
    (hpaths : Manifest.SamePaths (a.listing h).1 (a'.listing h').1)
    (hreads : (a'.listing h').2 = .ok count) (hans : a.Answers h (.ok table))
    (hstages : stager.Stages a h served r h₁) (hstages' : stager.Stages a' h' served' r' h₁') :
    List.Forall₂ (StartsApart stager.artifact? shift) h₁.starts h₁'.starts ∧
    List.Forall₂ (Apart stager.artifact? shift) h₁.notices h₁'.notices ∧
    served'.isSome = served.isSome ∧
    (∀ t ∈ served, ∀ t' ∈ served', SameFolders t t') ∧
    (shift = 0 → h₁.starts = h₁'.starts ∧ h₁.notices = h₁'.notices) := by
  obtain ⟨o', ho'⟩ : ∃ o', a'.Answers h' o' := ⟨_, a'.answers_survey⟩
  obtain ⟨table', rfl⟩ := Assignment.exists_table_of_samePaths hroot hpaths hreads hans ho'
  obtain ⟨o, h₂, hrun, rfl, hhost⟩ := serve_of_answers hans hstages
  obtain ⟨o', h₂', hrun', rfl, hhost'⟩ := serve_of_answers ho' hstages'
  obtain ⟨hout, hend⟩ := inStep_serveTable hroot hbelow hpaths hans ho' h h' hkin
  rw [hrun, hrun'] at hout hend
  have hstartsApart : List.Forall₂ (StartsApart stager.artifact? shift) h₁.starts h₁'.starts := by
    rw [hhost, hhost']
    exact hend.starts
  have hnoticesApart : List.Forall₂ (Apart stager.artifact? shift) h₁.notices h₁'.notices := by
    rw [hhost, hhost']
    exact hend.notices
  refine ⟨hstartsApart, hnoticesApart, ?_, ?_, ?_⟩
  · cases hout with
    | ok _ | error _ => rfl
  · cases hout with
    | ok hpair =>
      rintro t ⟨⟩ t' ⟨⟩
      exact hpair.2
    | error _ => exact fun t ht => by cases ht
  · rintro rfl
    have hstartsSame := hstartsApart.imp fun _ _ hs => startsApart_zero hs
    have hnoticesSame := hnoticesApart.imp fun _ _ hl => apart_zero.mp hl
    rw [List.forall₂_eq_eq_eq] at hstartsSame hnoticesSame
    exact ⟨hstartsSame, hnoticesSame⟩

/-! ## Two manifests in one tree -/

/-- The storage paths of `pairText` in the other order, one of them twice, at other places. -/
def tripleText : String :=
  "[\x7b\"relative_path\":\"d/z\",\"storage_path\":\"s3://c/other\"\x7d," ++
    "\x7b\"relative_path\":\"v\",\"storage_path\":\"s3://b/object\"\x7d," ++
    "\x7b\"relative_path\":\"w\",\"storage_path\":\"s3://c/other\"\x7d]"

/-- A host with two manifests, by its wall clock. -/
def twoManifests (contents contents' : Bytes) (epoch : Instant) : Host :=
  { manifestHost contents with
    tree := (manifestTree contents).put [encode "n"] (.file contents')
    epoch := epoch }

/-- The other manifest, with more workers and a shorter queue. -/
def tripleAssignment : Assignment := ⟨"n", none, "/task", "/mnt", 7, 1⟩

theorem read_tripleText : Manifest.read (encode tripleText) =
    ⟨[⟨"d/z", "s3://c/other"⟩, ⟨"v", "s3://b/object"⟩, ⟨"w", "s3://c/other"⟩], .ok ()⟩ :=
  Manifest.Reading.ext (by decide +kernel) (by decide +kernel)

theorem find_twoManifests (contents contents' : Bytes) (epoch : Instant) :
    (twoManifests contents contents' epoch).tree.find [] (encode "m") =
      .ok ([encode "m"], .file contents) ∧
    (twoManifests contents contents' epoch).tree.find [] (encode "n") =
      .ok ([encode "n"], .file contents') :=
  ⟨by rfl, by rfl⟩

theorem listing_pair (contents' : Bytes) (epoch : Instant) :
    pairAssignment.listing (twoManifests (encode pairText) contents' epoch) =
      ([⟨"x", "s3://b/object"⟩, ⟨"y", "s3://c/other"⟩], .ok 2) :=
  readPath_of_read (find_twoManifests _ _ _).1 read_pairText

theorem listing_triple (contents : Bytes) (epoch : Instant) :
    tripleAssignment.listing (twoManifests contents (encode tripleText) epoch) =
      ([⟨"d/z", "s3://c/other"⟩, ⟨"v", "s3://b/object"⟩, ⟨"w", "s3://c/other"⟩], .ok 3) :=
  readPath_of_read (find_twoManifests _ _ _).2 read_tripleText

/-- Where no file and no artifact is set apart, what programs see is the same. -/
theorem eq_of_occasions {artifact : Instant → Option String} (hnone : ∀ now, artifact now = none)
    {o o' : Occasion} (h : (Kinship.apart (fun _ => False) artifact shift).Occasions o o') :
    o = o' := by
  have hstart : ∀ s s', StartsApart artifact shift s s' → s = s' := by
    rintro ⟨program, args, env⟩ ⟨program', args', env'⟩ ⟨hprogram, henv, hargs⟩
    obtain rfl : program' = program := hprogram
    obtain rfl : env' = env := henv
    rcases hargs with hsame | ⟨now, p, -, -, -, hp, -⟩
    · obtain rfl : args = args' := hsame
      rfl
    · rw [hnone] at hp
      cases hp
  obtain ⟨earlier, start, tree, folder⟩ := o
  obtain ⟨earlier', start', tree', folder'⟩ := o'
  have hearlier := h.earlier.imp hstart
  rw [List.forall₂_eq_eq_eq] at hearlier
  obtain rfl : earlier = earlier' := hearlier
  obtain rfl : start = start' := hstart _ _ h.start
  obtain rfl : tree = tree' := FileTree.eq_of_sameBut h.tree
  obtain rfl : folder' = folder := h.folder
  rfl

/-- Hosts whose wall clocks differ are kin. -/
theorem hosts_twoManifests (contents contents' : Bytes) :
    (Kinship.apart (fun _ => False) pairStager.artifact? 5).Hosts
      (twoManifests contents contents' 0) (twoManifests contents contents' 5) where
  tree := FileTree.sameBut_refl _
  folder := rfl
  env := rfl
  programs name := by
    show Option.Rel _ ((manifestHost contents).programs name)
      ((manifestHost contents).programs name)
    cases (manifestHost contents).programs name with
    | none => exact .none
    | some p =>
      refine .some fun o o' ho => ?_
      obtain rfl := eq_of_occasions (fun _ => rfl) ho
      exact ⟨FileTree.sameBut_refl _, rfl, rfl, rfl, rfl, rfl⟩
  clock := rfl
  epoch := rfl
  connection := rfl
  jitter := rfl
  stopAt := rfl
  dropsOnStop := rfl
  patience := rfl
  starts := .nil
  notices := .nil

theorem samePaths_pair_triple : Manifest.SamePaths
    [⟨"x", "s3://b/object"⟩, ⟨"y", "s3://c/other"⟩]
    [⟨"d/z", "s3://c/other"⟩, ⟨"v", "s3://b/object"⟩, ⟨"w", "s3://c/other"⟩] := by
  intro path
  simp only [List.map_cons, List.map_nil, List.mem_cons, List.not_mem_nil, or_false]
  tauto

/-- The other manifest stages the same bases, five milliseconds later. -/
theorem alike_for_other_order : ∃ h₁ h₁' served served' r r',
    pairStager.Stages pairAssignment
      (twoManifests (encode pairText) (encode tripleText) 0) served r h₁ ∧
    pairStager.Stages tripleAssignment
      (twoManifests (encode pairText) (encode tripleText) 5) served' r' h₁' ∧
    List.Forall₂ (StartsApart pairStager.artifact? 5) h₁.starts h₁'.starts ∧
    served'.isSome = served.isSome := by
  have hpair := listing_pair (encode tripleText) 0
  have htriple := listing_triple (encode pairText) 5
  have hpaths : Manifest.SamePaths
      (pairAssignment.listing (twoManifests (encode pairText) (encode tripleText) 0)).1
      (tripleAssignment.listing (twoManifests (encode pairText) (encode tripleText) 5)).1 := by
    rw [hpair, htriple]
    exact samePaths_pair_triple
  have hsurvey : Manifest.survey (twoManifests (encode pairText) (encode tripleText) 0).tree []
      "m" none = .ok pairTable := by
    unfold Manifest.survey
    rw [readPath_of_read (find_twoManifests _ _ _).1 read_pairText]
    decide +kernel
  have hanswers : pairAssignment.Answers
      (twoManifests (encode pairText) (encode tripleText) 0) (.ok pairTable) :=
    hsurvey ▸ pairAssignment.answers_survey
  obtain ⟨served, hstages⟩ := stages_of_stage pairStager pairAssignment
    (twoManifests (encode pairText) (encode tripleText) 0)
  obtain ⟨served', hstages'⟩ := stages_of_stage pairStager tripleAssignment
    (twoManifests (encode pairText) (encode tripleText) 5)
  have hroot : tripleAssignment.hashRoot = pairAssignment.hashRoot := rfl
  have hbelow : tripleAssignment.root = pairAssignment.root := rfl
  obtain ⟨hstarts, -, hserved, -⟩ := alike_of_samePaths hroot hbelow (hosts_twoManifests _ _)
    hpaths (congrArg Prod.snd htriple) hanswers hstages hstages'
  exact ⟨_, _, _, _, _, _, hstages, hstages', hstarts, hserved⟩

end Stager

end DataStaging
