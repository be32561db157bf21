import DataStaging.Proofs.Manifest.Surveyed
import DataStaging.Proofs.Mount.Folding
import DataStaging.Proofs.Pool.Progress
import DataStaging.Proofs.Pool.Verdict

/-!
# What the first pass records

The workers of the first pass race for the table and for the mark that says whether the hash root
was used. All the same, every order of their steps comes to the table that recording the storage
paths one after another gives, or every order comes to a fault.

Results:
* `process_of_result`: the workers leave what handling the entries in order leaves.
* `table_of_surveys`: the table is that of the storage paths outside the root, and of the root if it
  was used.
* `answer_eq_ok_iff`: a run answers with a table exactly where the pass in order does.
* `comes_survey`: when there is an answer, and what it is, for every order of steps.
-/

namespace DataStaging.Manifest

open MountTable (recordAll recordAll_spec recordAll_perm ofBase foldedRow)
open Survey (underRoot effectiveRoot)

variable {root : Option String} {entries order : List ManifestEntry} {s s' : Survey}
  {table : MountTable} {listing : Listing} {n depth : Nat}

/-! ## Texts -/

/-- The storage paths that are recorded one by one: those outside the root. -/
def outside (root : Option String) (entries : List ManifestEntry) : List String :=
  (entries.map (·.storagePath)).filter (fun p => !underRoot root p)

/-- All that is recorded: the storage paths outside the root, and the root if an entry is under
    it. -/
def recordedTexts (root : Option String) (entries : List ManifestEntry) : List String :=
  outside root entries ++
    if entries.any (fun e => underRoot root e.storagePath) then root.toList else []

theorem outside_cons (e : ManifestEntry) (entries : List ManifestEntry) :
    outside root (e :: entries) =
      if underRoot root e.storagePath then outside root entries
      else e.storagePath :: outside root entries := by
  unfold outside
  cases hunder : underRoot root e.storagePath <;> simp [hunder]

theorem mem_recordedTexts {text : String} : text ∈ recordedTexts root entries ↔
    (∃ e ∈ entries, underRoot root e.storagePath = false ∧ e.storagePath = text) ∨
      (UsesRoot root entries ∧ root = some text) := by
  unfold recordedTexts outside UsesRoot
  rw [List.mem_append, List.mem_filter, List.mem_map]
  refine or_congr ?_ ?_
  · constructor
    · rintro ⟨⟨e, he, rfl⟩, hout⟩
      exact ⟨e, he, by simpa using hout, rfl⟩
    · rintro ⟨e, he, hout, rfl⟩
      exact ⟨⟨e, he, rfl⟩, by simpa using hout⟩
  · rw [← List.any_eq_true]
    split_ifs with hany
    · simp [hany]
    · simp [hany]

/-- An entry that is outside the root has a storage path that can be read. -/
def Readable (root : Option String) (entry : ManifestEntry) : Prop :=
  underRoot root entry.storagePath = false → ∃ l, Locator.read entry.storagePath = .ok l

/-! ## Entries in order -/

theorem recordAll_cons {text : String} {l : Locator} (hl : Locator.read text = .ok l)
    (texts : List String) : recordAll (text :: texts) table = recordAll texts (table.record l) := by
  simp only [recordAll, List.foldl_cons, MountTable.recordText, Locator.parse_eq_ok_iff.mpr hl]
  rfl

theorem recordAll_append (texts texts' : List String) :
    recordAll (texts ++ texts') table = recordAll texts' (recordAll texts table) :=
  List.foldl_append

theorem exists_note {entry : ManifestEntry} (h : Readable root entry) (s : Survey) :
    ∃ s', Survey.note root entry s = .ok s' := by
  unfold Survey.note
  split_ifs with hunder
  · exact ⟨_, rfl⟩
  · obtain ⟨l, hl⟩ := h (by simpa using hunder)
    refine ⟨{ s with table := s.table.record l }, ?_⟩
    simp only [MountTable.recordText, Locator.parse_eq_ok_iff.mpr hl]
    rfl

theorem exists_process (h : ∀ e ∈ order, Readable root e) (s : Survey) :
    ∃ s', process (Survey.note root) order s = .ok s' := by
  induction order generalizing s with
  | nil => exact ⟨s, rfl⟩
  | cons e order ih =>
    obtain ⟨s₁, hnote⟩ := exists_note (h e List.mem_cons_self) s
    rw [process_cons, hnote]
    exact ih (fun e' he' => h e' (List.mem_cons_of_mem _ he')) s₁

/-- Entries that are taken in order leave the table of their storage paths outside the root, and the
    mark if one of them is under it. -/
theorem eq_of_process (h : process (Survey.note root) order s = .ok s') :
    s' = ⟨recordAll (outside root order) s.table,
      s.usesRoot || order.any (fun e => underRoot root e.storagePath)⟩ := by
  induction order generalizing s with
  | nil =>
    cases h
    simp [outside, recordAll]
  | cons e order ih =>
    rw [process_cons] at h
    obtain ⟨s₁, hnote, hrest⟩ := exists_of_bind_ok h
    rw [ih hrest]
    rw [outside_cons, List.any_cons]
    rcases note_spec hnote with ⟨hunder, rfl⟩ | ⟨hunder, l, hl, rfl⟩
    · simp [hunder]
    · simp [hunder, recordAll_cons hl]

theorem readable_of_process (h : process (Survey.note root) order s = .ok s') :
    ∀ e ∈ order, Readable root e := by
  induction order generalizing s with
  | nil => exact fun e he => absurd he List.not_mem_nil
  | cons e order ih =>
    rw [process_cons] at h
    obtain ⟨s₁, hnote, hrest⟩ := exists_of_bind_ok h
    intro e' he'
    rcases List.mem_cons.mp he' with rfl | he'
    · intro hout
      rcases note_spec hnote with ⟨hunder, -⟩ | ⟨-, l, hl, -⟩
      · rw [hout] at hunder
        cases hunder
      · exact ⟨l, hl⟩
    · exact ih hrest e' he'

/-- Once the root, if it was used, can be read, it is the last text that is recorded. -/
theorem finish_eq_ok_iff (s : Survey) : s.finish root = .ok table ↔
    (s.usesRoot = true → ∀ r, root = some r → ∃ l, Locator.read r = .ok l) ∧
      table = recordAll (if s.usesRoot then root.toList else []) s.table := by
  unfold Survey.finish
  have hnothing : (.ok s.table : Except Fault MountTable) = .ok table ↔
      table = recordAll [] s.table :=
    ⟨fun h => (Except.ok.inj h).symm, fun h => congrArg Except.ok h.symm⟩
  cases root with
  | none => simpa using hnothing
  | some r =>
    cases s.usesRoot with
    | false => simpa using hnothing
    | true =>
      simp only [if_true, Option.toList_some]
      constructor
      · intro h
        cases hrec : s.table.recordText r with
        | error fault =>
          rw [hrec] at h
          cases h
        | ok p =>
          rw [hrec] at h
          cases h
          obtain ⟨l, hl, htable⟩ := recordText_spec hrec
          refine ⟨fun _ r' hr' => ?_, ?_⟩
          · cases hr'
            exact ⟨l, hl⟩
          · rw [recordAll_cons hl]
            exact htable
      · rintro ⟨hread, rfl⟩
        obtain ⟨l, hl⟩ := hread trivial r rfl
        rw [recordAll_cons hl]
        simp only [MountTable.recordText, Locator.parse_eq_ok_iff.mpr hl]
        rfl

/-! ## Entries in any order -/

theorem outside_perm (h : order.Perm entries) : (outside root order).Perm (outside root entries) :=
  (h.map _).filter _

/-- Workers without a fault leave what handling the entries in order leaves. -/
theorem process_of_result {final : Pool Survey}
    (h : Pool.Runs (surveyJob root listing depth)
      (Pool.start (surveyJob root listing depth) n .start) final)
    (hr : final.result = some (.ok ())) :
    process (Survey.note root) listing.1 .start = .ok final.shared := by
  obtain ⟨order, hperm, hprocess⟩ := Pool.process_of_runs (fun e => rfl) h hr
  replace hperm : order.Perm listing.1 := hperm
  have hread : ∀ e ∈ listing.1, Readable root e :=
    fun e he => readable_of_process hprocess e (hperm.mem_iff.mpr he)
  obtain ⟨s', hs'⟩ := exists_process hread .start
  rw [hs', eq_of_process hs', eq_of_process hprocess]
  simp only [Survey.start, hperm.any_eq, recordAll_perm (outside_perm hperm)]

theorem table_of_process {table : MountTable}
    (h : process (Survey.note root) entries .start = .ok s)
    (hfinish : s.finish root = .ok table) :
    table = recordAll (recordedTexts root entries) .empty := by
  rw [((finish_eq_ok_iff s).mp hfinish).2, eq_of_process h, recordedTexts, recordAll_append]
  rfl

/-- Every run of the first pass leaves the table of what the entries make it record. -/
theorem table_of_surveys (h : Surveys listing root n depth table) :
    table = recordAll (recordedTexts (effectiveRoot root) listing.1) .empty := by
  obtain ⟨final, hruns, hresult, hfinish⟩ := h
  exact table_of_process (process_of_result hruns hresult) hfinish

/-- Where nothing is wrong with an entry or with the manifest, no worker has a fault. -/
theorem result_eq_ok {final : Pool Survey} {count : Nat}
    (h : Pool.Runs (surveyJob root listing depth)
      (Pool.start (surveyJob root listing depth) n .start) final)
    {r : Except Fault Unit} (hr : final.result = some r)
    (hread : ∀ e ∈ listing.1, Readable root e) (hending : listing.2 = .ok count) :
    r = .ok () := by
  cases r with
  | ok u => rfl
  | error fault =>
    have hjob : ∀ e ∈ (surveyJob root listing depth).entries,
        ((surveyJob root listing depth).handle e).Within (fun _ _ => True)
          (fun o => o = .ok ()) := by
      intro e he s
      obtain ⟨s', hs'⟩ := exists_note (hread e he) s
      refine ⟨trivial, ?_⟩
      show (Survey.note root e s).map (fun _ => ()) = .ok ()
      rw [hs']
      rfl
    rcases Pool.fault_of_result_error h hr with ⟨e, he⟩ | ⟨hbad, -, -⟩
    · cases Pool.ended_of_runs (R := fun _ _ _ => True) (Q := fun _ o => o = .ok ()) hjob h _ he
    · cases hending.symm.trans hbad

/-! ## Answers -/

/-- What the first pass answers when its workers have come to a result. -/
def answer (root : Option String) (r : Except Fault Unit) (s : Survey) : Except Fault MountTable :=
  r.bind (fun _ => s.finish root)

variable {t : FileTree} {folder : Location} {path : String}

/-- A run answers with a table exactly where the pass in order does, and with the same. -/
theorem answer_eq_ok_iff {final : Pool Survey} {r : Except Fault Unit}
    (h : Pool.Runs (surveyJob (effectiveRoot root) (readPath t folder path none) depth)
      (Pool.start (surveyJob (effectiveRoot root) (readPath t folder path none) depth) n .start)
      final) (hr : final.result = some r) :
    answer (effectiveRoot root) r final.shared = .ok table ↔
      survey t folder path root = .ok table := by
  unfold survey
  constructor
  · intro hanswer
    obtain ⟨⟨⟩, rfl, hfinish⟩ := exists_of_bind_ok hanswer
    obtain ⟨⟨count, hending⟩, -, -⟩ := Pool.ended_of_result_ok h hr
    simp only [process_of_result h hr, bind, Except.bind]
    rw [show (readPath t folder path none).2 = .ok count from hending]
    exact hfinish
  · intro hsurvey
    obtain ⟨s, hprocess, hsurvey⟩ := exists_of_bind_ok hsurvey
    obtain ⟨count, hending, hfinish⟩ := exists_of_bind_ok hsurvey
    obtain rfl := result_eq_ok h hr (readable_of_process hprocess) hending
    obtain rfl := Except.ok.inj (hprocess.symm.trans (process_of_result h hr))
    exact hfinish

/-- Nothing keeps the first pass from its table: the manifest can be read to its end, and so can
    every storage path outside the root, and the root if an entry is under it. -/
structure Surveyable (t : FileTree) (folder : Location) (path : String) (root : Option String) :
    Prop where
  decodes : ∃ l contents, t.find folder (Utf8.encode path) = .ok (l, .file contents) ∧
    (read contents).outcome = .ok ()
  readable : ∀ e ∈ (readPath t folder path none).1, underRoot root e.storagePath = false →
    ∃ l, Locator.read e.storagePath = .ok l
  root_readable : UsesRoot root (readPath t folder path none).1 → ∀ r, root = some r →
    ∃ l, Locator.read r = .ok l

theorem exists_count_iff : (∃ count, (readPath t folder path none).2 = .ok count) ↔
    ∃ l contents, t.find folder (Utf8.encode path) = .ok (l, .file contents) ∧
      (read contents).outcome = .ok () := by
  constructor
  · rintro ⟨count, hcount⟩
    obtain ⟨l, contents, hfind, hread, -⟩ := readPath_ok hcount
    exact ⟨l, contents, hfind, hread⟩
  · rintro ⟨l, contents, hfind, hread⟩
    refine ⟨(read contents).entries.length, ?_⟩
    unfold readPath
    rw [hfind]
    show (Except.mapError _ (read contents).count) = _
    rw [Reading.count, hread]
    rfl

/-- The pass in order finds a table exactly where nothing keeps it from one. -/
theorem exists_survey_iff : (∃ table, survey t folder path root = .ok table) ↔
    Surveyable t folder path (effectiveRoot root) := by
  constructor
  · rintro ⟨table, hsurvey⟩
    obtain ⟨s, hprocess, hsurvey⟩ := exists_of_bind_ok hsurvey
    obtain ⟨count, hending, hfinish⟩ := exists_of_bind_ok hsurvey
    refine ⟨exists_count_iff.mp ⟨count, hending⟩, readable_of_process hprocess, fun huses => ?_⟩
    refine ((finish_eq_ok_iff s).mp hfinish).1 ?_
    rw [eq_of_process hprocess]
    exact List.any_eq_true.mpr huses
  · rintro ⟨hdecodes, hread, hroot⟩
    obtain ⟨s, hprocess⟩ := exists_process hread .start
    obtain ⟨count, hending⟩ := exists_count_iff.mpr hdecodes
    unfold survey
    simp only [hprocess, hending, bind, Except.bind]
    refine ⟨_, (finish_eq_ok_iff s).mpr ⟨fun huses => hroot ?_, rfl⟩⟩
    rw [eq_of_process hprocess] at huses
    exact List.any_eq_true.mp huses

/-- Whatever the number of workers, the depth of the queue and the order of the steps, the first
    pass comes to a result. It answers with a table if and only if the manifest can be read to its
    end, and so can every storage path outside the root, and the root if an entry is under it. The
    table is then that of the pass in order. It knows, once each, the bases of the entries outside
    the root, and that of the root if an entry is under it, and the row of a base is the fold of the
    texts of that base. -/
theorem comes_survey (t : FileTree) (folder : Location) (path : String) (root : Option String)
    (n depth : Nat) :
    Pool.Comes (surveyJob (effectiveRoot root) (readPath t folder path none) depth)
      (fun r s =>
        ((∃ table, answer (effectiveRoot root) r s.shared = .ok table) ↔
          Surveyable t folder path (effectiveRoot root)) ∧
        ∀ table, answer (effectiveRoot root) r s.shared = .ok table →
          survey t folder path root = .ok table ∧
          table.bases.Nodup ∧
          (∀ b, table.contains b = true ↔
            Recorded (effectiveRoot root) (readPath t folder path none).1 b ∨
            ∃ r l, effectiveRoot root = some r ∧
              UsesRoot (effectiveRoot root) (readPath t folder path none).1 ∧
              Locator.read r = .ok l ∧ l.base = b) ∧
          ∀ b, table.find? b = foldedRow b
            (ofBase b (recordedTexts (effectiveRoot root) (readPath t folder path none).1)))
      (Pool.start (surveyJob (effectiveRoot root) (readPath t folder path none) depth) n
        .start) := by
  refine Pool.comes_of_runs (fun final r h hr => ⟨?_, fun table hanswer => ?_⟩) .refl
  · rw [← exists_survey_iff]
    exact exists_congr fun table => answer_eq_ok_iff h hr
  · have hsurvey := (answer_eq_ok_iff h hr).mp hanswer
    have hsurveys := surveys_of_survey hsurvey n depth
    have htable := table_of_surveys hsurveys
    refine ⟨hsurvey, ?_, (surveyed_of_surveys hsurveys).1.contains_iff, fun b => ?_⟩
    · rw [htable]
      exact List.pairwise_map.mpr ((recordAll_spec _).1.imp fun hlt => hlt.ne)
    · rw [htable]
      exact (recordAll_spec _).2 b

end DataStaging.Manifest
