import DataStaging.Proofs.Manifest.Recorded
import DataStaging.Staging

/-!
# Stagings in any order of steps

A staging surveys its manifest, serves the rows of the table that the survey leaves, one after
another, and then links the entries of what the manifest is by then. In both passes the workers take
their steps in any order. A staging that is refused by the survey, or that halts while it serves a
row, does not come to its second pass.

Results:
* `answers_survey`, `links_link`: the passes that take the entries in order are passes in some
  order of steps.
* `answer_unique`: the table of a first pass does not depend on the order of its steps.
* `serve_of_stages`, `serve_of_answers`: when a staging starts programs.
* `stages_of_stage`: the staging that takes the entries in order.
-/

namespace DataStaging

open Manifest (Linking Listing Survey answer)
open Manifest.Survey (effectiveRoot)

/-- What a staging is asked for, and how many workers and what queue its passes have. -/
structure Assignment where
  manifest : String
  hashRoot : Option String
  destination : String
  /-- The folder below which areas are mounted. -/
  root : String
  workers : Nat
  depth : Nat := Defaults.manifestQueueDepth

namespace Assignment

variable (a : Assignment) (h : Host)

/-- What a reader makes of the manifest on a host. -/
def listing : Listing := Manifest.readPath h.tree h.folder a.manifest none

/-- The first pass over the manifest on a host. -/
def surveyJob : Job Survey := Manifest.surveyJob (effectiveRoot a.hashRoot) (a.listing h) a.depth

/-- The second pass over the manifest on a host. -/
def linkJob (table : MountTable) : Job Linking :=
  Manifest.linkJob table a.destination h.folder (a.listing h) a.depth

/-- In some order of its steps, the first pass comes to this answer. -/
def Answers (o : Except Fault MountTable) : Prop :=
  ∃ final r, Pool.Runs (a.surveyJob h) (Pool.start (a.surveyJob h) a.workers .start) final ∧
    final.result = some r ∧ o = answer (effectiveRoot a.hashRoot) r final.shared

/-- In some order of its steps, the second pass comes to this outcome and leaves this tree. -/
def Links (table : MountTable) (o : Except Fault LinkReport) (tree : FileTree) : Prop :=
  ∃ final r, Pool.Runs (a.linkJob h table)
      (Pool.start (a.linkJob h table) a.workers ⟨h.tree, .zero⟩) final ∧
    final.result = some r ∧ o = r.map (fun _ => final.shared.report) ∧ tree = final.shared.tree

end Assignment

namespace Stager

/-- Serves the rows that a survey has left, none of them counted yet. -/
def serveTable (stager : Stager) (root : String) (table : MountTable) :
    Act Host (StagingReport × MountTable) :=
  stager.serveAll root table.rows (.start table.size) table

/-- What a staging on a host may come to: the table of its second pass, if it has come to that, its
    result, and the host that it leaves. -/
inductive Stages (stager : Stager) (a : Assignment) (h : Host) :
    Option MountTable → Except Halt StagingReport → Host → Prop where
  | refused {fault : Fault} : a.Answers h (.error fault) →
      Stages stager a h none (.error (.fault fault)) h
  | halted {table : MountTable} {halt : Halt} {h' : Host} : a.Answers h (.ok table) →
      (stager.serveTable a.root table).run h = (.error halt, h') →
      Stages stager a h none (.error halt) h'
  | linked {table served : MountTable} {report : StagingReport} {h₁ : Host}
      {o : Except Fault LinkReport} {tree : FileTree} : a.Answers h (.ok table) →
      (stager.serveTable a.root table).run h = (.ok (report, served), h₁) →
      a.Links h₁ served o tree →
      Stages stager a h (some served)
        ((o.map (fun link => { report with link := link })).mapError .fault)
        { h₁ with tree := tree }

end Stager

/-! ## Entries in order -/

namespace Manifest

theorem inOrder_atomic_fst {σ : Type} (f : ManifestEntry → σ → Except Fault σ)
    (entries : List ManifestEntry) (s : σ) :
    (Pool.inOrder (fun e => .atomic (f e)) entries s).1 =
      (process f entries s).map (fun _ => ()) := by
  induction entries generalizing s with
  | nil => rfl
  | cons e entries ih =>
    rw [Pool.inOrder, Task.atomic_alone, process_cons]
    cases f e s with
    | error fault => rfl
    | ok s' => exact ih s'

end Manifest

namespace Assignment

variable {a : Assignment} {h : Host}

/-- A first pass that answers with a table surveys the manifest. -/
theorem surveys_of_answers {table : MountTable} (h' : a.Answers h (.ok table)) :
    Manifest.Surveys (a.listing h) a.hashRoot a.workers a.depth table := by
  obtain ⟨final, r, hruns, hresult, hanswer⟩ := h'
  obtain ⟨⟨⟩, rfl, hfinish⟩ := exists_of_bind_ok hanswer.symm
  exact ⟨final, hruns, hresult, hfinish⟩

theorem answers_iff_survey {o : Except Fault MountTable} (hans : a.Answers h o)
    (table : MountTable) :
    o = .ok table ↔ Manifest.survey h.tree h.folder a.manifest a.hashRoot = .ok table := by
  obtain ⟨final, r, hruns, hr, rfl⟩ := hans
  exact Manifest.answer_eq_ok_iff hruns hr

/-- Where one order of steps leaves a table, each of them leaves it. -/
theorem answer_unique {table : MountTable} {o : Except Fault MountTable}
    (hans : a.Answers h (.ok table)) (hans' : a.Answers h o) : o = .ok table :=
  (answers_iff_survey hans' table).mpr ((answers_iff_survey hans table).mp rfl)

/-- The first pass may take the entries in order. -/
theorem answers_survey : a.Answers h (Manifest.survey h.tree h.folder a.manifest a.hashRoot) := by
  obtain ⟨final, hruns, hshared, hresult⟩ :=
    Pool.exists_run_inOrder (a.surveyJob h) a.workers .start
  refine ⟨final, _, hruns, hresult, ?_⟩
  have hfirst := Manifest.inOrder_atomic_fst (Survey.note (effectiveRoot a.hashRoot))
    (a.listing h).1 .start
  unfold Manifest.survey
  rw [hshared, Pool.resultOf]
  cases hprocess : Manifest.process (Survey.note (effectiveRoot a.hashRoot)) (a.listing h).1
      .start with
  | error fault =>
    rw [hprocess] at hfirst
    simp only [surveyJob, Manifest.surveyJob, listing] at hfirst hprocess ⊢
    rw [hfirst]
    simp only [hprocess]
    rfl
  | ok s =>
    have horder := Manifest.inOrder_atomic hprocess
    simp only [surveyJob, Manifest.surveyJob, listing] at horder hprocess ⊢
    rw [horder]
    simp only [hprocess]
    cases (Manifest.readPath h.tree h.folder a.manifest none).2 <;> rfl

/-- The second pass may take the entries in order. -/
theorem links_link (table : MountTable) :
    a.Links h table (Manifest.link h.tree h.folder a.manifest table a.destination).1
      (Manifest.link h.tree h.folder a.manifest table a.destination).2 := by
  obtain ⟨final, r, hruns, hresult, hlink⟩ := Manifest.exists_run_link h.tree h.folder a.manifest
    table a.destination a.workers a.depth
  exact ⟨final, r, hruns, hresult, by rw [hlink], by rw [hlink]⟩

end Assignment

namespace Stager

variable {stager : Stager} {a : Assignment} {h h₁ : Host} {served : Option MountTable}
  {r : Except Halt StagingReport}

/-- A staging starts programs and writes notices while it serves the rows, and at no other time. -/
theorem serve_of_stages (hstages : stager.Stages a h served r h₁) :
    (∃ fault, a.Answers h (.error fault) ∧ served = none ∧ h₁ = h) ∨
    ∃ table o h₂, a.Answers h (.ok table) ∧ (stager.serveTable a.root table).run h = (o, h₂) ∧
      served = o.toOption.map (·.2) ∧ h₁ = { h₂ with tree := h₁.tree } := by
  cases hstages with
  | refused hans => exact Or.inl ⟨_, hans, rfl, rfl⟩
  | halted hans hserve => exact Or.inr ⟨_, _, _, hans, hserve, rfl, rfl⟩
  | linked hans hserve hlinks => exact Or.inr ⟨_, _, _, hans, hserve, rfl, rfl⟩

/-- Where the first pass leaves a table, a staging serves its rows. -/
theorem serve_of_answers {table : MountTable} (hans : a.Answers h (.ok table))
    (hstages : stager.Stages a h served r h₁) :
    ∃ o h₂, (stager.serveTable a.root table).run h = (o, h₂) ∧
      served = o.toOption.map (·.2) ∧ h₁ = { h₂ with tree := h₁.tree } := by
  rcases serve_of_stages hstages with ⟨fault, hrefused, -⟩ | ⟨table', o, h₂, hans', hrest⟩
  · cases Assignment.answer_unique hans hrefused
  · cases Assignment.answer_unique hans hans'
    exact ⟨o, h₂, hrest⟩

/-- A staging may take the entries in order in both of its passes. -/
theorem stages_of_stage (stager : Stager) (a : Assignment) (h : Host) :
    ∃ served, stager.Stages a h served
      ((stager.stage a.manifest a.hashRoot a.destination a.root).run h).1
      ((stager.stage a.manifest a.hashRoot a.destination a.root).run h).2 := by
  have hanswers := a.answers_survey (h := h)
  unfold stage
  rw [run_get_bind]
  cases hsurvey : Manifest.survey h.tree h.folder a.manifest a.hashRoot with
  | error fault =>
    rw [hsurvey] at hanswers
    exact ⟨none, .refused hanswers⟩
  | ok table =>
    rw [hsurvey] at hanswers
    have hfound : (Host.orFail (.ok table)).run h = (.ok table, h) := rfl
    rw [run_bind_of_ok hfound]
    rcases hserve : (stager.serveTable a.root table).run h with ⟨o, h₁⟩
    have hrows : (stager.serveAll a.root table.rows (.start table.size) table).run h = (o, h₁) :=
      hserve
    cases o with
    | error halt =>
      refine ⟨none, ?_⟩
      rw [run_bind_of_error hrows]
      exact .halted hanswers hserve
    | ok p =>
      obtain ⟨report, served⟩ := p
      refine ⟨some served, ?_⟩
      have hlinks := a.links_link (h := h₁) served
      have hlinked := Stages.linked hanswers hserve hlinks
      rw [run_bind_of_ok hrows]
      unfold link
      rcases hlink : Manifest.link h₁.tree h₁.folder a.manifest served a.destination with ⟨o, tree⟩
      rw [hlink] at hlinked
      simp only [bind_assoc]
      rw [run_get_bind, hlink, run_set_bind]
      cases o with
      | error fault => exact hlinked
      | ok link => exact hlinked

end Stager

end DataStaging
