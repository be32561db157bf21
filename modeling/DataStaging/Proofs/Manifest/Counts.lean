import DataStaging.Proofs.Manifest.Places
import DataStaging.Proofs.Pool.Additions

/-!
# What the second pass counts

Each entry is counted once, by the last thing that a worker does with it. Whether it is skipped is
told by the table alone; whether it is linked or has failed depends on the file tree, and so on what
the other workers have done before.

Results:
* `adds_linkTask`: the handling of an entry counts it once.
* `counts_of_result_ok`: the counts of a pass without a fault.
-/

namespace DataStaging.Manifest

variable {table : MountTable} {destination : String} {folder : Location} {listing : Listing}
  {n depth : Nat}

/-- The counts stay as they are. -/
def SameReport (s s' : Linking) : Prop := s'.report = s.report

/-- One more entry is counted, with an outcome of `P`. -/
def CountsOne (P : LinkOutcome → Prop) (s s' : Linking) : Prop :=
  ∃ o, P o ∧ s'.report = s.report.count o

/-! ## The parts of a task -/

section Parts

variable {P : LinkOutcome → Prop} {next : Except IoFault Unit → LinkTask}

theorem adds_countTask {o : LinkOutcome} (ho : P o) :
    (countTask o).Adds SameReport (CountsOne P) := fun _ => Or.inl ⟨rfl, o, ho, rfl⟩

theorem adds_callTask (hnext : ∀ r, (next r).Adds SameReport (CountsOne P))
    (call : FileTree → Except IoFault FileTree) :
    (callTask call next).Adds SameReport (CountsOne P) := fun _ => Or.inr ⟨rfl, hnext _⟩

theorem adds_excuseTask (hnext : ∀ r, (next r).Adds SameReport (CountsOne P)) (path : Bytes)
    (fault : IoFault) : (excuseTask folder path fault next).Adds SameReport (CountsOne P) :=
  fun _ => Or.inr ⟨rfl, hnext _⟩

theorem adds_placeTask (hlinked : P .linked) (hfailed : P .failed) (source : String)
    (target : List Char) : (placeTask folder source target).Adds SameReport (CountsOne P) := by
  refine placeTask_of_parts (fun path next _ hnext => adds_callTask hnext _)
    (fun path fault next hnext => adds_excuseTask hnext path fault)
    (adds_callTask (fun r => ?_) _) (adds_countTask hfailed)
  cases r with
  | ok u => exact adds_countTask hlinked
  | error fault => exact adds_countTask hfailed

end Parts

/-! ## Entries -/

/-- The handling of an entry counts it once, as skipped if and only if its base has no folder. -/
theorem adds_linkTask (table : MountTable) (destination : String) (folder : Location)
    (entry : ManifestEntry) : (linkTask table destination folder entry).Adds SameReport
      (CountsOne fun o => o = .skipped ↔ outcomeOf table entry = .skipped) := by
  cases hres : resolution table entry with
  | error fault =>
    rw [linkTask_of_error hres]
    exact ⟨fault, rfl⟩
  | ok u =>
    rcases linkTask_cases hres destination folder with ⟨-, htask⟩ | ⟨source, -, hout, -, htask⟩
    · rw [htask]
      exact adds_countTask Iff.rfl
    · rw [htask, hout]
      exact adds_placeTask (by simp) (by simp) _ _

/-- The counts are those of some entries, as far as the table tells them. -/
def Counted (table : MountTable) (entries : List ManifestEntry) (s : Linking) : Prop :=
  s.report.total = entries.length ∧
    s.report.skipped = entries.countP (fun e => outcomeOf table e = .skipped)

theorem counted_of_sameReport {entries : List ManifestEntry} {s s' : Linking}
    (h : Counted table entries s) (hsame : SameReport s s') : Counted table entries s' := by
  unfold Counted
  rwa [show s'.report = s.report from hsame]

theorem counted_of_countsOne {entries : List ManifestEntry} {e : ManifestEntry} {s s' : Linking}
    (h : Counted table entries s)
    (hone : CountsOne (fun o => o = .skipped ↔ outcomeOf table e = .skipped) s s') :
    Counted table (entries ++ [e]) s' := by
  obtain ⟨htotal, hskipped⟩ := h
  obtain ⟨o, ho, hreport⟩ := hone
  unfold Counted
  rw [hreport, LinkReport.total_count, htotal, List.length_append, List.countP_append,
    List.countP_singleton, ← hskipped]
  refine ⟨rfl, ?_⟩
  simp only [decide_eq_true_eq, ← ho]
  cases o <;> rfl

/-- However the workers take their steps, a pass without a fault counts each entry once, and counts
    as skipped those whose base has no folder. -/
theorem counts_of_result_ok {t : FileTree} {final : Pool Linking}
    (h : Pool.Runs (linkJob table destination folder listing depth)
      (Pool.start (linkJob table destination folder listing depth) n ⟨t, .zero⟩) final)
    (hr : final.result = some (.ok ())) : Counted table listing.1 final.shared := by
  have hnone : Counted table [] (⟨t, .zero⟩ : Linking) := ⟨rfl, rfl⟩
  have hkeeps : ∀ (e : ManifestEntry) order a b, Counted table order a → SameReport a b →
      Counted table order b := fun _ _ _ _ => counted_of_sameReport
  have hsettles : ∀ (e : ManifestEntry) order a b, Counted table order a →
      CountsOne (fun o => o = .skipped ↔ outcomeOf table e = .skipped) a b →
      Counted table (order ++ [e]) b := fun _ _ _ _ => counted_of_countsOne
  obtain ⟨order, hperm, htotal, hskipped⟩ := Pool.exists_order_of_result_ok
    (fun e _ => adds_linkTask table destination folder e) hkeeps hsettles hnone h hr
  exact ⟨htotal.trans hperm.length_eq, hskipped.trans (hperm.countP_eq _)⟩

end DataStaging.Manifest
