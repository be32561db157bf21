import DataStaging.Benchmark.Summary
import Mathlib.Algebra.BigOperators.Group.List.Basic
import Mathlib.Algebra.Order.Ring.Int
import Mathlib.Data.List.Induction
import Mathlib.Data.String.Basic

/-!
# What a summary says of the artifacts

A summary is built up artifact by artifact, but what it says can be said of all of them at once: it
counts and sums them, in all and for each operation, and its instants are the least start and the
greatest end. Artifacts in another order have the same sums, so they have the same summary.

Results:
* `mem_addTo`: what one artifact does to the rows of the operations.
* `sumsUp_ofArtifacts`: what the summary of a list of artifacts says.
* `SumsUp.eq_of_perm`: artifacts in any order have one summary.
-/

namespace DataStaging

namespace OperationTotals

/-- The sums over metrics. -/
def ofMetrics (ms : List BenchmarkMetrics) : OperationTotals :=
  ⟨ms.length, (ms.map (·.bytes)).sum, (ms.map (·.files)).sum,
    (ms.map (fun m => max (m.finish - m.start) 0)).sum⟩

/-- The sums of several operations, added up. -/
def together (ts : List OperationTotals) : OperationTotals :=
  ⟨(ts.map (·.operations)).sum, (ts.map (·.bytes)).sum, (ts.map (·.files)).sum,
    (ts.map (·.busyMillis)).sum⟩

theorem ofMetrics_concat (ms : List BenchmarkMetrics) (m : BenchmarkMetrics) :
    ofMetrics (ms ++ [m]) = (ofMetrics ms).add m := by
  simp [ofMetrics, add]

theorem ofMetrics_perm {ms ms' : List BenchmarkMetrics} (h : ms.Perm ms') :
    ofMetrics ms = ofMetrics ms' := by
  unfold ofMetrics
  rw [h.length_eq, (h.map _).sum_eq, (h.map _).sum_eq, (h.map _).sum_eq]

theorem together_cons (t : OperationTotals) (ts : List OperationTotals) :
    together (t :: ts) = ⟨t.operations + (together ts).operations, t.bytes + (together ts).bytes,
      t.files + (together ts).files, t.busyMillis + (together ts).busyMillis⟩ := by
  simp [together]

/-- Adding metrics to one operation adds them to all operations together. -/
theorem together_add (t : OperationTotals) (ts : List OperationTotals) (m : BenchmarkMetrics) :
    together (t.add m :: ts) = (together (t :: ts)).add m := by
  simp only [together_cons, add, mk.injEq]
  omega

end OperationTotals

namespace BenchmarkSummary

variable {rows rows' : List (String × OperationTotals)} {operation : String} {m : BenchmarkMetrics}

/-! ## Operations in order -/

/-- Each operation has one row, and the rows ascend. -/
def Ascending (rows : List (String × OperationTotals)) : Prop :=
  rows.Pairwise (fun p p' => p.1 < p'.1)

theorem mem_operations_addTo {o : String} :
    o ∈ (addTo operation m rows).map (·.1) ↔ o = operation ∨ o ∈ rows.map (·.1) := by
  induction rows with
  | nil => simp [addTo]
  | cons first rest ih =>
    rw [addTo]
    split_ifs with h1 h2
    · subst h1
      simp
    · simp
    · rw [List.map_cons, List.mem_cons, ih, List.map_cons, List.mem_cons]
      exact or_left_comm

theorem ascending_addTo (h : Ascending rows) : Ascending (addTo operation m rows) := by
  induction rows with
  | nil => exact List.pairwise_singleton _ _
  | cons first rest ih =>
    obtain ⟨hfirst, hrest⟩ := List.pairwise_cons.mp h
    rw [addTo]
    split_ifs with h1 h2
    · exact List.pairwise_cons.mpr ⟨hfirst, hrest⟩
    · refine List.pairwise_cons.mpr ⟨fun p hp => ?_, h⟩
      rcases List.mem_cons.mp hp with rfl | hp
      · exact h2
      · exact h2.trans (hfirst p hp)
    · refine List.pairwise_cons.mpr ⟨fun p hp => ?_, ih hrest⟩
      rcases mem_operations_addTo.mp (List.mem_map_of_mem hp) with hop | hmem
      · rw [hop]
        exact lt_of_le_of_ne (not_lt.mp h2) h1
      · obtain ⟨p', hp', hop⟩ := List.mem_map.mp hmem
        rw [← hop]
        exact hfirst p' hp'

/-- A row is an old one of another operation, or that of the operation: a new one, or the old one
    with the metrics added. -/
theorem mem_addTo (h : Ascending rows) {p : String × OperationTotals}
    (hp : p ∈ addTo operation m rows) :
    (p ∈ rows ∧ p.1 ≠ operation) ∨
      (p.1 = operation ∧ ((∃ t, (operation, t) ∈ rows ∧ p.2 = t.add m) ∨
        operation ∉ rows.map (·.1) ∧ p.2 = OperationTotals.zero.add m)) := by
  induction rows with
  | nil =>
    rw [addTo, List.mem_singleton] at hp
    subst hp
    exact Or.inr ⟨rfl, Or.inr ⟨by simp, rfl⟩⟩
  | cons first rest ih =>
    obtain ⟨hfirst, hrest⟩ := List.pairwise_cons.mp h
    rw [addTo] at hp
    split_ifs at hp with h1 h2
    · rcases List.mem_cons.mp hp with rfl | hp
      · refine Or.inr ⟨h1, Or.inl ⟨first.2, ?_, rfl⟩⟩
        rw [← h1]
        exact List.mem_cons_self
      · exact Or.inl ⟨List.mem_cons_of_mem _ hp, h1 ▸ (hfirst p hp).ne'⟩
    · -- the operation comes before every row, so it has none yet
      have hless : ∀ q ∈ first :: rest, operation < q.1 := by
        intro q hq
        rcases List.mem_cons.mp hq with rfl | hq
        · exact h2
        · exact h2.trans (hfirst q hq)
      rcases List.mem_cons.mp hp with rfl | hp
      · refine Or.inr ⟨rfl, Or.inr ⟨fun hmem => ?_, rfl⟩⟩
        obtain ⟨q, hq, hop⟩ := List.mem_map.mp hmem
        exact absurd hop (hless q hq).ne'
      · exact Or.inl ⟨hp, (hless p hp).ne'⟩
    · rcases List.mem_cons.mp hp with rfl | hp
      · exact Or.inl ⟨List.mem_cons_self, h1⟩
      · refine (ih hrest hp).imp (fun h => ⟨List.mem_cons_of_mem _ h.1, h.2⟩) fun h => ⟨h.1, ?_⟩
        refine h.2.imp (fun ⟨t, ht, hadd⟩ => ⟨t, List.mem_cons_of_mem _ ht, hadd⟩) fun hnew => ?_
        refine ⟨fun hmem => ?_, hnew.2⟩
        rcases List.mem_cons.mp hmem with hop | hmem
        · exact h1 hop.symm
        · exact hnew.1 hmem

theorem together_addTo (operation : String) (m : BenchmarkMetrics)
    (rows : List (String × OperationTotals)) :
    OperationTotals.together ((addTo operation m rows).map (·.2)) =
      (OperationTotals.together (rows.map (·.2))).add m := by
  induction rows with
  | nil => simp [addTo, OperationTotals.together, OperationTotals.add, OperationTotals.zero]
  | cons first rest ih =>
    rw [addTo]
    split_ifs with h1 h2
    · exact OperationTotals.together_add _ _ _
    · rw [List.map_cons, OperationTotals.together_add, List.map_cons]
      simp [OperationTotals.together, OperationTotals.zero]
    · rw [List.map_cons, OperationTotals.together_cons, ih, List.map_cons,
        OperationTotals.together_cons]
      simp only [OperationTotals.add, OperationTotals.mk.injEq]
      omega

/-! ## Instants -/

theorem earlier_min? (ts : List Instant) (t : Instant) :
    earlier ts.min? t = (ts ++ [t]).min? := by
  cases ts with
  | nil => rfl
  | cons first rest =>
    rw [List.cons_append, List.min?_cons', List.min?_cons', List.foldl_concat]
    rfl

theorem later_max? (ts : List Instant) (t : Instant) : later ts.max? t = (ts ++ [t]).max? := by
  cases ts with
  | nil => rfl
  | cons first rest =>
    rw [List.cons_append, List.max?_cons', List.max?_cons', List.foldl_concat]
    rfl

theorem min?_perm {ts ts' : List Instant} (h : ts.Perm ts') : ts.min? = ts'.min? := by
  refine Option.ext fun t => ?_
  simp only [List.min?_eq_some_iff, h.mem_iff]

theorem max?_perm {ts ts' : List Instant} (h : ts.Perm ts') : ts.max? = ts'.max? := by
  refine Option.ext fun t => ?_
  simp only [List.max?_eq_some_iff, h.mem_iff]

/-! ## Artifacts -/

/-- The summary of artifacts, each the metrics of an operation. -/
def ofArtifacts (artifacts : List (String × BenchmarkMetrics)) : BenchmarkSummary :=
  artifacts.foldl (fun s a => s.add a.1 a.2) empty

/-- The metrics of one operation. -/
def metricsOf (operation : String) (artifacts : List (String × BenchmarkMetrics)) :
    List BenchmarkMetrics := (artifacts.filter (fun a => a.1 = operation)).map (·.2)

/-- Files that are no artifacts add nothing. -/
theorem ofFiles_eq (files : List (Bytes × Bytes)) :
    ofFiles files = ofArtifacts (files.filterMap (fun f => artifact? f.1 f.2)) := by
  induction files using List.reverseRecOn with
  | nil => rfl
  | append_singleton files f ih =>
    unfold ofFiles ofArtifacts at ih ⊢
    rw [List.foldl_concat, ih, List.filterMap_append, List.foldl_append]
    cases h : artifact? f.1 f.2 with
    | none => simp [h]
    | some a => simp [h]

/-- What a summary says of the artifacts. -/
structure SumsUp (artifacts : List (String × BenchmarkMetrics)) (s : BenchmarkSummary) : Prop where
  totals_eq : s.totals = .ofMetrics (artifacts.map (·.2))
  earliest_eq : s.earliest = (artifacts.map (·.2.start)).min?
  latest_eq : s.latest = (artifacts.map (·.2.finish)).max?
  ascending : Ascending s.byOperation
  mem_operations : ∀ o, o ∈ s.byOperation.map (·.1) ↔ o ∈ artifacts.map (·.1)
  each_eq : ∀ p ∈ s.byOperation, p.2 = .ofMetrics (metricsOf p.1 artifacts)
  together_eq : .together (s.byOperation.map (·.2)) = s.totals

variable {artifacts artifacts' : List (String × BenchmarkMetrics)} {s s' : BenchmarkSummary}

theorem metricsOf_concat (o : String) :
    metricsOf o (artifacts ++ [(operation, m)]) =
      metricsOf o artifacts ++ if operation = o then [m] else [] := by
  unfold metricsOf
  rw [List.filter_append, List.map_append]
  split_ifs with h <;> simp [h]

theorem metricsOf_eq_nil {o : String} (h : o ∉ artifacts.map (·.1)) :
    metricsOf o artifacts = [] := by
  unfold metricsOf
  rw [List.map_eq_nil_iff, List.filter_eq_nil_iff]
  rintro a ha hop
  exact h (List.mem_map.mpr ⟨a, ha, by simpa using hop⟩)

theorem sumsUp_empty : SumsUp [] empty where
  totals_eq := rfl
  earliest_eq := rfl
  latest_eq := rfl
  ascending := List.Pairwise.nil
  mem_operations := fun _ => Iff.rfl
  each_eq := fun _ hp => nomatch hp
  together_eq := rfl

/-- One more artifact. -/
theorem SumsUp.add (h : SumsUp artifacts s) (operation : String) (m : BenchmarkMetrics) :
    SumsUp (artifacts ++ [(operation, m)]) (s.add operation m) where
  totals_eq := by
    rw [List.map_append, List.map_singleton, OperationTotals.ofMetrics_concat, ← h.totals_eq]
    rfl
  earliest_eq := by
    rw [List.map_append, List.map_singleton, ← earlier_min?, ← h.earliest_eq]
    rfl
  latest_eq := by
    rw [List.map_append, List.map_singleton, ← later_max?, ← h.latest_eq]
    rfl
  ascending := ascending_addTo h.ascending
  mem_operations := fun o => by
    rw [List.map_append, List.mem_append, ← h.mem_operations]
    exact mem_operations_addTo.trans (by simp [or_comm])
  each_eq := fun p hp => by
    rw [metricsOf_concat]
    rcases mem_addTo h.ascending hp with ⟨hmem, hne⟩ | ⟨hop, ⟨t, ht, hadd⟩ | ⟨hnew, hadd⟩⟩
    · rw [if_neg (Ne.symm hne), List.append_nil]
      exact h.each_eq p hmem
    · have ht : t = .ofMetrics (metricsOf operation artifacts) := h.each_eq _ ht
      rw [if_pos hop.symm, OperationTotals.ofMetrics_concat, hadd, hop, ht]
    · rw [if_pos hop.symm, OperationTotals.ofMetrics_concat, hadd, hop,
        metricsOf_eq_nil (mt (h.mem_operations operation).mpr hnew)]
      rfl
  together_eq := by
    refine (together_addTo operation m s.byOperation).trans ?_
    rw [h.together_eq]
    rfl

/-- The summary of artifacts says what they come to. -/
theorem sumsUp_ofArtifacts (artifacts : List (String × BenchmarkMetrics)) :
    SumsUp artifacts (ofArtifacts artifacts) := by
  induction artifacts using List.reverseRecOn with
  | nil => exact sumsUp_empty
  | append_singleton artifacts a ih =>
    unfold ofArtifacts at ih ⊢
    rw [List.foldl_concat]
    exact ih.add a.1 a.2

/-- Each operation that an artifact has is summed up, and no other one. -/
theorem SumsUp.mem_byOperation (h : SumsUp artifacts s) {p : String × OperationTotals} :
    p ∈ s.byOperation ↔
      p.1 ∈ artifacts.map (·.1) ∧ p.2 = .ofMetrics (metricsOf p.1 artifacts) := by
  constructor
  · exact fun hp => ⟨(h.mem_operations p.1).mp (List.mem_map_of_mem hp), h.each_eq p hp⟩
  · rintro ⟨hop, hsum⟩
    obtain ⟨q, hq, hqop⟩ := List.mem_map.mp ((h.mem_operations p.1).mpr hop)
    have hqp : q = p := Prod.ext hqop (by rw [h.each_eq q hq, hqop, hsum])
    exact hqp ▸ hq

theorem SumsUp.byOperation_eq_of_perm (h : SumsUp artifacts s) (h' : SumsUp artifacts' s')
    (hperm : artifacts.Perm artifacts') : s.byOperation = s'.byOperation := by
  have hmem : ∀ p, p ∈ s.byOperation ↔ p ∈ s'.byOperation := by
    intro p
    have hmetrics : (metricsOf p.1 artifacts).Perm (metricsOf p.1 artifacts') :=
      (hperm.filter _).map _
    rw [h.mem_byOperation, h'.mem_byOperation, (hperm.map _).mem_iff,
      OperationTotals.ofMetrics_perm hmetrics]
  have hnodup : ∀ {rows : List (String × OperationTotals)}, Ascending rows → rows.Nodup :=
    fun hrows => hrows.imp fun hlt heq => absurd (congrArg Prod.fst heq) hlt.ne
  have hrows := (List.perm_ext_iff_of_nodup (hnodup h.ascending) (hnodup h'.ascending)).mpr hmem
  refine hrows.eq_of_pairwise ?_ h.ascending h'.ascending
  intro p p' _ _ hlt hlt'
  exact absurd hlt hlt'.asymm

/-- What a summary says of artifacts does not depend on their order, and it is all there is to a
    summary. -/
theorem SumsUp.eq_of_perm (h : SumsUp artifacts s) (h' : SumsUp artifacts' s')
    (hperm : artifacts.Perm artifacts') : s = s' := by
  have htotals : s.totals = s'.totals := by
    rw [h.totals_eq, h'.totals_eq, OperationTotals.ofMetrics_perm (hperm.map _)]
  have hearliest : s.earliest = s'.earliest := by
    rw [h.earliest_eq, h'.earliest_eq, min?_perm (hperm.map _)]
  have hlatest : s.latest = s'.latest := by
    rw [h.latest_eq, h'.latest_eq, max?_perm (hperm.map _)]
  have hrows := h.byOperation_eq_of_perm h' hperm
  cases s
  cases s'
  congr

end BenchmarkSummary

end DataStaging
