import DataStaging.Proofs.Pool.Sequential
import DataStaging.Proofs.Pool.Tasks

/-!
# What a pool makes of a manifest

A pool that is done has either handled every entry of a manifest that it could read to its end, or
says what went wrong: with an entry, or else with the manifest. Once the mark is set, a worker takes
an entry only if it had already looked.

Results:
* `fault_of_ended`, `fault_of_fails`: where handling an entry fails, the pool's result is the fault
  of an entry.
* `taking_le_pending`: the entries that a worker takes after the mark is set.
* `result_of_runs`: all of this for the manifest that a path leads to.
-/

namespace DataStaging

/-! ## Reading a manifest -/

namespace Manifest

variable {t : FileTree} {folder : Location} {path : String}

/-- A reading without a fault is that of a file that was read to its end. -/
theorem readPath_ok {count : Nat} (h : (readPath t folder path none).2 = .ok count) :
    ∃ l contents, t.find folder (Utf8.encode path) = .ok (l, .file contents) ∧
      (read contents).outcome = .ok () ∧
      (readPath t folder path none).1 = (read contents).entries := by
  unfold readPath at h ⊢
  split at h
  · cases h
  · rename_i l contents hfind
    refine ⟨l, contents, hfind, ?_, rfl⟩
    cases hread : (readFor none contents).outcome with
    | ok u => exact hread
    | error problem =>
      simp only [Option.isSome_none, Bool.false_eq_true, if_false, Reading.count, hread] at h
      cases h
  · cases h

/-- A fault of the reading names the manifest. -/
theorem readPath_error {fault : Fault} (h : (readPath t folder path none).2 = .error fault) :
    ∃ message, fault = .manifest path message := by
  unfold readPath at h
  split at h
  · exact ⟨_, (Except.error.inj h).symm⟩
  · simp only [Option.isSome_none, Bool.false_eq_true, if_false] at h
    cases hcount : (readFor none _).count with
    | ok count =>
      rw [hcount] at h
      cases h
    | error problem =>
      rw [hcount] at h
      exact ⟨_, (Except.error.inj h).symm⟩
  · exact ⟨_, (Except.error.inj h).symm⟩

/-- The job of handling the entries of the manifest that a path leads to. -/
def job {σ : Type} (t : FileTree) (folder : Location) (path : String) (depth : Nat)
    (handle : ManifestEntry → Task σ) : Job σ where
  entries := (readPath t folder path none).1
  ending := (readPath t folder path none).2
  depth := depth
  handle := handle

end Manifest

/-! ## Tasks that fail -/

namespace Task

variable {σ : Type} {Q Q' : Except Fault Unit → Prop}

theorem within_mono (hQ : ∀ o, Q o → Q' o) {task : Task σ}
    (h : task.Within (fun _ _ => True) Q) : task.Within (fun _ _ => True) Q' := by
  induction task with
  | done o => exact hQ o h
  | act change next ih => exact fun s => ⟨trivial, ih s (h s).2⟩

theorem within_true (task : Task σ) : task.Within (fun _ _ => True) (fun _ => True) := by
  induction task with
  | done o => trivial
  | act change next ih => exact fun s => ⟨trivial, ih s⟩

/-- Whatever a task sees, it ends with a fault. -/
def Fails (task : Task σ) : Prop :=
  task.Within (fun _ _ => True) (fun o => ∃ fault, o = .error fault)

end Task

/-- The entries that a worker may take before it looks at the mark again. -/
def Worker.mayTake {σ : Type} : Worker σ → Nat
  | queueing | receiving => 1
  | _ => 0

namespace Pool

variable {σ : Type} {job : Job σ} {n : Nat} {s s' : Pool σ} {shared : σ}

/-! ## The fault of an entry -/

/-- Where the handling of an entry ended with a fault, the pool's result is such a fault. -/
theorem fault_of_ended (h : Runs job (start job n shared) s) {r : Except Fault Unit}
    (hr : s.result = some r) {e : ManifestEntry} {fault : Fault}
    (he : (e, .error fault) ∈ s.ended) :
    ∃ e' fault', (e', .error fault') ∈ s.ended ∧ r = .error fault' := by
  cases r with
  | ok u =>
    obtain ⟨-, -, hok⟩ := ended_of_result_ok h hr
    cases hok _ he
  | error fault' =>
    rcases fault_of_result_error h hr with ⟨e', he'⟩ | ⟨-, -, hok⟩
    · exact ⟨e', fault', he', rfl⟩
    · cases hok _ he

/-- A pool that has its result, and in which no entry's handling ended with a fault, has handled
    every entry. -/
theorem ended_of_result (h : Runs job (start job n shared) s) {r : Except Fault Unit}
    (hr : s.result = some r) (hok : ∀ x ∈ s.ended, x.2 = .ok ()) :
    (s.ended.map Prod.fst).Perm job.entries ∧ r = job.ending.map (fun _ => ()) := by
  have acc := account_of_runs h
  obtain ⟨hclosed, o, hread, hv⟩ := acc.concluded _ hr
  have hno : ∀ w ∈ s.workers, w.fault? = none := by
    have hkept := acc.faultsKept
    have hnil : s.ended.filterMap fault? = [] := by
      rw [List.filterMap_eq_nil_iff]
      rintro ⟨e, o⟩ hx
      obtain rfl : o = .ok () := hok _ hx
      rfl
    rw [FaultsKept, hnil] at hkept
    exact List.filterMap_eq_nil_iff.mp (List.nil_perm.mp hkept)
  obtain ⟨htaken, hend⟩ := drained_of_no_fault h hclosed hno
  constructor
  · have hperm := acc.handledOnce
    rw [HandledOnce, entries_of_left (acc.staffed.left_of_closed hclosed), List.append_nil,
      htaken] at hperm
    exact hperm
  · rw [hend] at hread
    obtain rfl := Reader.finished.inj hread
    rw [hv, verdict, List.findSome?_eq_none_iff.mpr hno]

/-- Where the handling of an entry cannot but fail, the pool's result is the fault of an entry. -/
theorem fault_of_fails (h : Runs job (start job n shared) s) {r : Except Fault Unit}
    (hr : s.result = some r) {e : ManifestEntry} (he : e ∈ job.entries)
    (hfails : (job.handle e).Fails) :
    ∃ e' fault, (e', .error fault) ∈ s.ended ∧ r = .error fault := by
  by_cases hok : ∀ x ∈ s.ended, x.2 = .ok ()
  · -- then the entry has been handled, and cannot have been handled without a fault
    exfalso
    obtain ⟨⟨e', o⟩, hx, rfl⟩ := List.mem_map.mp ((ended_of_result h hr hok).1.mem_iff.mpr he)
    have hends := ended_of_runs (R := fun _ _ _ => True)
      (Q := fun e o => (job.handle e).Fails → ∃ fault, o = .error fault) (fun e' _ => ?_) h _ hx
    · obtain ⟨fault, ho⟩ := hends hfails
      cases ho.symm.trans (hok _ hx)
    · by_cases hf : (job.handle e').Fails
      · exact Task.within_mono (fun o ho _ => ho) hf
      · exact Task.within_mono (fun o _ hf' => absurd hf' hf) (Task.within_true _)
  · obtain ⟨⟨e', o⟩, hx⟩ := not_forall.mp hok
    obtain ⟨hx, ho⟩ := Classical.not_imp.mp hx
    cases o with
    | ok u => exact absurd rfl ho
    | error fault => exact fault_of_ended h hr hx

/-! ## After the mark is set -/

/-- The `i`-th worker takes an entry from the queue. -/
def Takes (i : Nat) (s s' : Pool σ) : Prop :=
  s.workers[i]? = some .receiving ∧ ∃ e task, s'.workers[i]? = some (.handling e task)

/-- Some steps, among which are `k` by which the `i`-th worker takes an entry. -/
inductive Taking (job : Job σ) (i : Nat) (s : Pool σ) : Nat → Pool σ → Prop where
  | refl : Taking job i s 0 s
  | pass {k : Nat} {s₁ s₂ : Pool σ} : Taking job i s k s₁ → Step job s₁ s₂ → ¬Takes i s₁ s₂ →
      Taking job i s k s₂
  | take {k : Nat} {s₁ s₂ : Pool σ} : Taking job i s k s₁ → Step job s₁ s₂ → Takes i s₁ s₂ →
      Taking job i s (k + 1) s₂

/-- The entries that any steps take can be counted. -/
theorem exists_taking (i : Nat) (h : Runs job s s') : ∃ k, Taking job i s k s' := by
  induction h with
  | refl => exact ⟨0, .refl⟩
  | @tail s₁ s₂ _ hstep ih =>
    obtain ⟨k, hk⟩ := ih
    by_cases htakes : Takes i s₁ s₂
    · exact ⟨k + 1, .take hk hstep htakes⟩
    · exact ⟨k, .pass hk hstep htakes⟩

/-- The entries that the `i`-th worker may take before it looks at the mark again. -/
def pending (i : Nat) (workers : List (Worker σ)) : Nat :=
  (workers[i]?.map Worker.mayTake).getD 0

theorem pending_le_one (i : Nat) (workers : List (Worker σ)) : pending i workers ≤ 1 := by
  unfold pending
  cases workers[i]? with
  | none => exact Nat.zero_le 1
  | some w => cases w <;> simp [Worker.mayTake]

theorem pending_replace {before after : List (Worker σ)} {w w' : Worker σ} (i : Nat)
    (h : w'.mayTake ≤ w.mayTake) :
    pending i (before ++ w' :: after) ≤ pending i (before ++ w :: after) := by
  unfold pending
  rcases Nat.lt_or_ge i before.length with hi | hi
  · exact Nat.le_of_eq (by rw [List.getElem?_append_left hi, List.getElem?_append_left hi])
  · rw [List.getElem?_append_right hi, List.getElem?_append_right hi]
    cases i - before.length with
    | zero => exact h
    | succ j => exact Nat.le_refl _

/-- Once the mark is set, no step lets a worker take more entries, and taking one uses it up. -/
theorem pending_step (ha : s.aborted = true) (h : Step job s s') (i : Nat) :
    s'.aborted = true ∧ pending i s'.workers ≤ pending i s.workers ∧
      (Takes i s s' → pending i s'.workers < pending i s.workers) := by
  refine ⟨?_, ?_, ?_⟩
  · cases h <;> first | exact ha | rfl
  · cases h with
    | send | turnAway | finish | close | conclude => exact Nat.le_refl _
    | look hw =>
      rw [hw, ha]
      exact pending_replace i (Nat.le_refl _)
    | grasp hw _ | starve hw _ _ | act hw | take hw _ | succeed hw | fail hw =>
      rw [hw]
      exact pending_replace i (by simp [Worker.mayTake])
  · rintro ⟨hbefore, e, task, hafter⟩
    unfold pending
    rw [hbefore, hafter]
    exact Nat.zero_lt_one

/-- After the mark is set, a worker takes the entry that it has already asked for, and no other. -/
theorem taking_le_pending {i k : Nat} (ha : s.aborted = true) (h : Taking job i s k s') :
    s'.aborted = true ∧ k + pending i s'.workers ≤ pending i s.workers := by
  induction h with
  | refl => exact ⟨ha, Nat.le_of_eq (Nat.zero_add _)⟩
  | pass _ hstep _ ih =>
    obtain ⟨ha', hle⟩ := ih
    obtain ⟨ha'', hstep, -⟩ := pending_step ha' hstep i
    exact ⟨ha'', Nat.le_trans (Nat.add_le_add_left hstep _) hle⟩
  | take _ hstep htakes ih =>
    obtain ⟨ha', hle⟩ := ih
    obtain ⟨ha'', -, hlt⟩ := pending_step ha' hstep i
    have := hlt htakes
    exact ⟨ha'', by omega⟩

/-! ## The manifest that a path leads to -/

/-- However the steps of the reader and the workers follow each other: no entry is handed to two
    workers or twice to one; without a fault the manifest was read to its end and every entry
    handled once; where handling an entry fails, the result is the fault of an entry; where none
    fails, it is that of the manifest, if that has one; and once a fault has set the mark, a worker
    takes one more entry at most. -/
theorem result_of_runs (t : FileTree) (folder : Location) (path : String) (depth : Nat)
    (handle : ManifestEntry → Task σ) (n : Nat) (shared : σ) (s : Pool σ)
    (h : Runs (Manifest.job t folder path depth handle)
      (start (Manifest.job t folder path depth handle) n shared) s) :
    (s.taken <+: (Manifest.readPath t folder path none).1 ∧
      (s.ended.map Prod.fst ++ s.workers.filterMap Worker.entry?).Perm s.taken) ∧
    (s.result = some (.ok ()) →
      (∃ l contents, t.find folder (Utf8.encode path) = .ok (l, .file contents) ∧
        (Manifest.read contents).outcome = .ok () ∧
        (s.ended.map Prod.fst).Perm (Manifest.read contents).entries) ∧
      ∀ x ∈ s.ended, x.2 = .ok ()) ∧
    (∀ r, s.result = some r →
      ((∃ e fault, (e, .error fault) ∈ s.ended) ∨
        ∃ e ∈ (Manifest.readPath t folder path none).1, (handle e).Fails) →
      ∃ e fault, (e, .error fault) ∈ s.ended ∧ r = .error fault) ∧
    (∀ r fault, s.result = some r → (∀ x ∈ s.ended, x.2 = .ok ()) →
      (Manifest.readPath t folder path none).2 = .error fault →
      r = .error fault ∧ ∃ message, fault = .manifest path message) ∧
    (s.aborted = true →
      (∀ i k s', Taking (Manifest.job t folder path depth handle) i s k s' → k ≤ 1) ∧
      ∀ i s', Runs (Manifest.job t folder path depth handle) s s' →
        ∃ k ≤ 1, Taking (Manifest.job t folder path depth handle) i s k s') := by
  have acc := account_of_runs h
  refine ⟨⟨?_, acc.handledOnce⟩, ?_, ?_, ?_, ?_⟩
  · obtain ⟨ahead, hall, -⟩ := acc.inOrder
    exact ⟨s.queue ++ ahead, (List.append_assoc _ _ _).symm.trans hall⟩
  · intro hr
    obtain ⟨⟨count, hcount⟩, hperm, hok⟩ := ended_of_result_ok h hr
    obtain ⟨l, contents, hfind, hread, hentries⟩ := Manifest.readPath_ok hcount
    exact ⟨⟨l, contents, hfind, hread, hentries ▸ hperm⟩, hok⟩
  · rintro r hr (⟨e, fault, he⟩ | ⟨e, he, hfails⟩)
    · exact fault_of_ended h hr he
    · exact fault_of_fails h hr he hfails
  · intro r fault hr hok hending
    refine ⟨?_, Manifest.readPath_error hending⟩
    rw [(ended_of_result h hr hok).2]
    exact congrArg (Except.map fun _ => ()) hending
  · intro ha
    have hone : ∀ i k s', Taking (Manifest.job t folder path depth handle) i s k s' → k ≤ 1 := by
      intro i k s' htaking
      have hle := (taking_le_pending ha htaking).2
      have hpending := pending_le_one i s.workers
      omega
    refine ⟨hone, fun i s' hruns => ?_⟩
    obtain ⟨k, htaking⟩ := exists_taking i hruns
    exact ⟨k, hone i k s' htaking, htaking⟩

/-- A manifest of two entries without its end. -/
def brokenOff : FileTree :=
  ⟨[([Utf8.encode "m"], .file (Utf8.encode
    ("[\x7b\"relative_path\":\"a\",\"storage_path\":\"s3://b/a\"\x7d," ++
      "\x7b\"relative_path\":\"b\",\"storage_path\":\"s3://b/b\"\x7d")))]⟩

/-- Handles every entry but the one at `b`. -/
def refuseB (e : ManifestEntry) : Task Unit :=
  .done (if e.relativePath = "b" then .error (.io .notFound) else .ok ())

/-- The fault of an entry comes before that of the manifest. -/
theorem entry_fault_before_flaw : ∃ final r,
    Runs (Manifest.job brokenOff [] "m" 1 refuseB)
      (start (Manifest.job brokenOff [] "m" 1 refuseB) 2 ()) final ∧
    (Manifest.readPath brokenOff [] "m" none).2 =
      .error (.manifest "m" "EOF while parsing a list at line 1 column 96") ∧
    final.result = some r ∧ ∃ e fault, (e, .error fault) ∈ final.ended ∧ r = .error fault := by
  obtain ⟨final, hruns, -, hresult⟩ :=
    exists_run_inOrder (Manifest.job brokenOff [] "m" 1 refuseB) 2 ()
  have hentry : (⟨"b", "s3://b/b"⟩ : ManifestEntry) ∈
      (Manifest.readPath brokenOff [] "m" none).1 := by
    have hread : (Manifest.readPath brokenOff [] "m" none).1 =
        [⟨"a", "s3://b/a"⟩, ⟨"b", "s3://b/b"⟩] := by decide +kernel
    rw [hread]
    exact List.mem_cons_of_mem _ List.mem_cons_self
  have hfails : (refuseB ⟨"b", "s3://b/b"⟩).Fails := ⟨_, if_pos rfl⟩
  exact ⟨final, _, hruns, by decide +kernel, hresult,
    (result_of_runs brokenOff [] "m" 1 refuseB 2 () final hruns).2.2.1 _ hresult
      (Or.inr ⟨_, hentry, hfails⟩)⟩

end Pool

end DataStaging
