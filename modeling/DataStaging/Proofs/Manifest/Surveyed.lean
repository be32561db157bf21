import DataStaging.Proofs.Manifest.Passes
import DataStaging.Proofs.Mount.Table

/-!
# What a survey finds

The table that a survey leaves does not depend on the order in which the workers took the entries:
it knows the bases of the entries outside the hash root, and that of the root if an entry was under
it.

Results:
* `surveyed_of_surveys`: every run of the first pass leaves such a table.
* `Surveyed.contains_iff`: the bases that it knows.
-/

namespace DataStaging.Manifest

open Survey (underRoot effectiveRoot)

variable {root : Option String} {entries order : List ManifestEntry} {s s' : Survey}
  {table : MountTable}

theorem recordText_spec {text base : String} {table' : MountTable}
    (h : table.recordText text = .ok (base, table')) :
    ∃ l, Locator.read text = .ok l ∧ table' = table.record l := by
  obtain ⟨l, hl, h⟩ := exists_of_bind_ok h
  cases h
  exact ⟨l, Locator.parse_eq_ok_iff.mp hl, rfl⟩

/-! ## One entry -/

theorem note_spec {entry : ManifestEntry} (h : Survey.note root entry s = .ok s') :
    (underRoot root entry.storagePath = true ∧ s' = { s with usesRoot := true }) ∨
      (underRoot root entry.storagePath = false ∧ ∃ l, Locator.read entry.storagePath = .ok l ∧
        s' = { s with table := s.table.record l }) := by
  unfold Survey.note at h
  split_ifs at h with hunder
  · cases h
    exact Or.inl ⟨hunder, rfl⟩
  · obtain ⟨⟨base, table'⟩, hrec, h⟩ := exists_of_bind_ok h
    cases h
    obtain ⟨l, hl, rfl⟩ := recordText_spec hrec
    exact Or.inr ⟨by simpa using hunder, l, hl, rfl⟩

/-! ## All entries -/

/-- Some entry is under the root. -/
def UsesRoot (root : Option String) (entries : List ManifestEntry) : Prop :=
  ∃ e ∈ entries, underRoot root e.storagePath = true

/-- Some entry outside the root has this base. -/
def Recorded (root : Option String) (entries : List ManifestEntry) (base : String) : Prop :=
  ∃ e ∈ entries, underRoot root e.storagePath = false ∧
    ∃ l, Locator.read e.storagePath = .ok l ∧ l.base = base

/-- What a survey has found in some entries. -/
structure Noted (root : Option String) (entries : List ManifestEntry) (s : Survey) : Prop where
  described : ∀ row ∈ s.table.rows, row.Described
  readable : ∀ e ∈ entries, underRoot root e.storagePath = false →
    ∃ l, Locator.read e.storagePath = .ok l
  usesRoot_iff : s.usesRoot = true ↔ UsesRoot root entries
  contains_iff : ∀ b, s.table.contains b = true ↔ Recorded root entries b

theorem noted_start : Noted root [] .start where
  described := fun row h => by cases h
  readable := fun e h => by cases h
  usesRoot_iff := ⟨fun h => (by cases h), fun ⟨e, h, _⟩ => by cases h⟩
  contains_iff := fun b => ⟨fun h => (by cases h), fun ⟨e, h, _⟩ => by cases h⟩

theorem usesRoot_concat {entry : ManifestEntry} :
    UsesRoot root (entries ++ [entry]) ↔
      UsesRoot root entries ∨ underRoot root entry.storagePath = true := by
  simp [UsesRoot, or_and_right, exists_or]

theorem recorded_concat {entry : ManifestEntry} {base : String} :
    Recorded root (entries ++ [entry]) base ↔ Recorded root entries base ∨
      underRoot root entry.storagePath = false ∧
        ∃ l, Locator.read entry.storagePath = .ok l ∧ l.base = base := by
  simp [Recorded, or_and_right, exists_or]

theorem noted_note {entry : ManifestEntry} (h : Noted root entries s)
    (hnote : Survey.note root entry s = .ok s') : Noted root (entries ++ [entry]) s' := by
  rcases note_spec hnote with ⟨hunder, rfl⟩ | ⟨hunder, l, hl, rfl⟩
  · refine ⟨h.described, ?_, ?_, ?_⟩
    · intro e he hout
      rcases List.mem_append.mp he with he | he
      · exact h.readable e he hout
      · rw [List.mem_singleton.mp he, hunder] at hout
        cases hout
    · rw [usesRoot_concat]
      exact ⟨fun _ => Or.inr hunder, fun _ => rfl⟩
    · intro b
      rw [h.contains_iff, recorded_concat, hunder]
      simp
  · have htext := (Locator.read_spec hl).1
    refine ⟨MountTable.described_record h.described (by rw [htext]; exact hl), ?_, ?_, ?_⟩
    · intro e he hout
      rcases List.mem_append.mp he with he | he
      · exact h.readable e he hout
      · exact ⟨l, by rw [List.mem_singleton.mp he]; exact hl⟩
    · rw [h.usesRoot_iff, usesRoot_concat, hunder]
      simp
    · intro b
      rw [MountTable.contains_record, h.contains_iff, recorded_concat]
      constructor
      · rintro (rfl | hb)
        · exact Or.inr ⟨hunder, l, hl, rfl⟩
        · exact Or.inl hb
      · rintro (hb | ⟨-, l', hl', hb⟩)
        · exact Or.inr hb
        · rw [hl] at hl'
          cases hl'
          exact Or.inl hb.symm

theorem noted_process (h : Noted root entries s)
    (hprocess : process (Survey.note root) order s = .ok s') :
    Noted root (entries ++ order) s' := by
  induction order generalizing entries s with
  | nil =>
    cases hprocess
    rwa [List.append_nil]
  | cons e order ih =>
    rw [process_cons] at hprocess
    obtain ⟨s₁, hnote, hrest⟩ := exists_of_bind_ok hprocess
    have := ih (noted_note h hnote) hrest
    rwa [List.append_assoc] at this

theorem noted_perm (h : Noted root order s) (hperm : order.Perm entries) :
    Noted root entries s where
  described := h.described
  readable := fun e he => h.readable e (hperm.mem_iff.mpr he)
  usesRoot_iff := by
    rw [h.usesRoot_iff]
    exact exists_congr fun e => and_congr_left fun _ => hperm.mem_iff
  contains_iff := fun b => by
    rw [h.contains_iff]
    exact exists_congr fun e => and_congr_left fun _ => hperm.mem_iff

/-! ## The table -/

/-- What a survey leaves in its table, the hash root included. -/
structure Surveyed (root : Option String) (entries : List ManifestEntry) (table : MountTable) :
    Prop where
  described : ∀ row ∈ table.rows, row.Described
  readable : ∀ e ∈ entries, underRoot root e.storagePath = false →
    ∃ l, Locator.read e.storagePath = .ok l
  root_readable : ∀ r, root = some r → UsesRoot root entries → ∃ l, Locator.read r = .ok l
  contains_iff : ∀ b, table.contains b = true ↔ Recorded root entries b ∨
    ∃ r l, root = some r ∧ UsesRoot root entries ∧ Locator.read r = .ok l ∧ l.base = b

/-- Where the root was not used, nothing is added. -/
theorem surveyed_of_unused (h : Noted root entries s)
    (hunused : ∀ r, root = some r → ¬ UsesRoot root entries) : Surveyed root entries s.table where
  described := h.described
  readable := h.readable
  root_readable r hr hu := absurd hu (hunused r hr)
  contains_iff b := by
    rw [h.contains_iff]
    exact ⟨Or.inl, fun hb => hb.resolve_right fun ⟨r, _, hr, hu, _⟩ => hunused r hr hu⟩

/-- Where the root was used, it is recorded as a locator of its own. -/
theorem surveyed_of_used {r : String} {l : Locator} (h : Noted (some r) entries s)
    (hused : UsesRoot (some r) entries) (hl : Locator.read r = .ok l) :
    Surveyed (some r) entries (s.table.record l) where
  described := by
    have htext := (Locator.read_spec hl).1
    exact MountTable.described_record h.described (by rw [htext]; exact hl)
  readable := h.readable
  root_readable := by
    rintro r' hr' -
    cases hr'
    exact ⟨l, hl⟩
  contains_iff b := by
    rw [MountTable.contains_record, h.contains_iff]
    constructor
    · rintro (rfl | hb)
      · exact Or.inr ⟨r, l, rfl, hused, hl, rfl⟩
      · exact Or.inl hb
    · rintro (hb | ⟨r', l', hr', -, hl', hb⟩)
      · exact Or.inr hb
      · cases hr'
        rw [hl] at hl'
        cases hl'
        exact Or.inl hb.symm

theorem surveyed_of_finish (h : Noted root entries s) (hfinish : s.finish root = .ok table) :
    Surveyed root entries table := by
  cases root with
  | none =>
    cases hfinish
    exact surveyed_of_unused h fun r hr => by cases hr
  | some r =>
    unfold Survey.finish at hfinish
    by_cases huses : s.usesRoot = true
    · simp only [if_pos huses] at hfinish
      cases hrec : s.table.recordText r with
      | error fault =>
        rw [hrec] at hfinish
        cases hfinish
      | ok p =>
        rw [hrec] at hfinish
        cases hfinish
        obtain ⟨l, hl, htable⟩ := recordText_spec hrec
        have hsurveyed := surveyed_of_used h (h.usesRoot_iff.mp huses) hl
        rwa [← htable] at hsurveyed
    · simp only [if_neg huses] at hfinish
      cases hfinish
      exact surveyed_of_unused h fun _ _ hu => huses (h.usesRoot_iff.mpr hu)

/-- Every run of the first pass leaves the table of all entries. -/
theorem surveyed_of_surveys {listing : Listing} {n depth : Nat}
    (h : Surveys listing root n depth table) :
    Surveyed (effectiveRoot root) listing.1 table ∧ ∃ count, listing.2 = .ok count := by
  obtain ⟨final, hruns, hresult, hfinish⟩ := h
  obtain ⟨order, hperm, hprocess⟩ := Pool.process_of_runs (fun e => rfl) hruns hresult
  have hnoted := noted_perm (noted_process noted_start hprocess) hperm
  exact ⟨surveyed_of_finish hnoted hfinish, (Pool.ended_of_result_ok hruns hresult).1⟩

end DataStaging.Manifest
