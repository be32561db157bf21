import DataStaging.Proofs.Pool.Account
import Mathlib.Data.List.Basic

/-!
# What the workers' tasks keep

A worker's task is what is left of the handling of its entry. Whatever holds of the handling of an
entry and stays true as it goes on holds of every task in a worker's hands. So a property of one
entry's handling, read off by itself, holds of it in every pool.

Results:
* `quiet_or_act`: what a step does to the shared state and to the entries in the workers' hands.
* `changed_of_step`: the shared state changes only as the tasks of the job's entries change it.
* `ended_of_runs`: the handling of an entry ends only as its task may end.
-/

namespace DataStaging.Pool

variable {σ : Type} {job : Job σ} {n : Nat} {s s' : Pool σ}

/-- Every task in a worker's hands has the property `P` with respect to its entry. -/
def Held (P : ManifestEntry → Task σ → Prop) (s : Pool σ) : Prop :=
  ∀ e task, Worker.handling e task ∈ s.workers → P e task

theorem held_start (P : ManifestEntry → Task σ → Prop) (shared : σ) :
    Held P (start job n shared) := by
  intro e task hw
  have := List.eq_of_mem_replicate hw
  cases this

/-- A task may be replaced by one with the property, and a worker may let go of its task. -/
theorem held_replace {P : ManifestEntry → Task σ → Prop} {before after : List (Worker σ)}
    {w w' : Worker σ} (hs : ∀ e task, .handling e task ∈ before ++ w :: after → P e task)
    (hw' : ∀ e task, w' = .handling e task → P e task) :
    ∀ e task, .handling e task ∈ before ++ w' :: after → P e task := by
  intro e task hmem
  rw [List.mem_append, List.mem_cons] at hmem
  rcases hmem with hb | heq | ha
  · exact hs e task (List.mem_append_left _ hb)
  · exact hw' e task heq.symm
  · exact hs e task (List.mem_append_right _ (List.mem_cons_of_mem _ ha))

/-! ## Entries handled so far -/

/-- The entry of a worker that has handled it without a fault and has not said so yet. -/
def heldOk? : Worker σ → Option ManifestEntry
  | .handling e (.done (.ok ())) => some e
  | _ => none

/-- The entry of a handling that ended without a fault. -/
def endedOk? : ManifestEntry × Except Fault Unit → Option ManifestEntry
  | (e, .ok ()) => some e
  | _ => none

theorem heldOk?_receiving : heldOk? (.receiving : Worker σ) = none := rfl

theorem heldOk?_act (e : ManifestEntry) (change : σ → σ) (next : σ → Task σ) :
    heldOk? (.handling e (.act change next)) = none := rfl

/-- The entries handled without a fault, as far as their tasks go. -/
def settled (s : Pool σ) : List ManifestEntry :=
  s.ended.filterMap endedOk? ++ s.workers.filterMap heldOk?

theorem settled_start (shared : σ) : (start job n shared).settled = [] := by
  simp [settled, start, heldOk?]

/-- When a pool has its result, no worker has an entry in hand. So if no handling ended with a
    fault, the entries settled are those whose handling has ended. -/
theorem settled_of_result {shared : σ} (h : Runs job (start job n shared) s)
    {r : Except Fault Unit} (hr : s.result = some r) (hok : ∀ x ∈ s.ended, x.2 = .ok ()) :
    s.settled = s.ended.map Prod.fst := by
  have acc := account_of_runs h
  have hended : s.ended.filterMap endedOk? = s.ended.map Prod.fst := by
    rw [← List.filterMap_eq_map]
    refine List.filterMap_congr ?_
    rintro ⟨e, o⟩ hx
    obtain rfl : o = .ok () := hok _ hx
    rfl
  have hheld : s.workers.filterMap heldOk? = [] := by
    rw [List.filterMap_eq_nil_iff]
    intro w hw
    have hleft := acc.staffed.left_of_closed (acc.concluded _ hr).1 w hw
    cases w with
    | left o => rfl
    | _ => cases hleft
  rw [settled, hended, hheld, List.append_nil]

/-- A task that goes on settles its entry if it is done then, without a fault. -/
theorem settled_act {before after : List (Worker σ)} {e : ManifestEntry} {change : σ → σ}
    {next : σ → Task σ} (hw : s.workers = before ++ .handling e (.act change next) :: after) :
    (settled { s with
      workers := before ++ .handling e (next s.shared) :: after
      shared := change s.shared }).Perm
      (s.settled ++ (heldOk? (.handling e (next s.shared))).toList) := by
  unfold settled
  simp only [hw, List.filterMap_append, List.filterMap_cons, heldOk?_act]
  rw [List.perm_iff_count]
  intro a
  cases heldOk? (.handling e (next s.shared)) <;>
  · simp only [List.count_append, List.count_cons, Option.toList, List.count_nil]
    omega

/-! ## What a step does -/

/-- A quiet step leaves the shared state as it is, and settles no entry. A worker may take an entry
    from the queue, or let go of one that is done. -/
structure Quiet (job : Job σ) (s s' : Pool σ) : Prop where
  shared : s'.shared = s.shared
  taken : s.taken ⊆ s'.taken
  held : ∀ e task, .handling e task ∈ s'.workers →
    .handling e task ∈ s.workers ∨ e ∈ s.queue ∧ task = job.handle e
  ended : ∀ x ∈ s'.ended, x ∈ s.ended ∨ .handling x.1 (.done x.2) ∈ s.workers
  settled : (∀ e ∈ s.queue, heldOk? (.handling e (job.handle e)) = none) →
    s'.settled.Perm s.settled

theorem mem_ended_of_concat {before after : List (Worker σ)} {e : ManifestEntry}
    {o : Except Fault Unit} (hw : s.workers = before ++ .handling e (.done o) :: after) :
    ∀ x ∈ s.ended ++ [(e, o)], x ∈ s.ended ∨ .handling x.1 (.done x.2) ∈ s.workers := by
  intro x hx
  rcases List.mem_append.mp hx with hx | hx
  · exact Or.inl hx
  · rw [List.mem_singleton.mp hx]
    exact Or.inr (hw ▸ List.mem_append_cons_self)

/-- A step is quiet, or a task goes on. -/
theorem quiet_or_act (h : Step job s s') : Quiet job s s' ∨
    ∃ before after e change next,
      s.workers = before ++ .handling e (.act change next) :: after ∧
      s' = { s with
        workers := before ++ .handling e (next s.shared) :: after
        shared := change s.shared } := by
  cases h with
  | act hw => exact Or.inr ⟨_, _, _, _, _, hw, rfl⟩
  | send | turnAway | finish | close | conclude =>
    exact Or.inl ⟨rfl, List.Subset.refl _, fun _ _ => Or.inl, fun _ => Or.inl, fun _ => .refl _⟩
  | look hw =>
    refine Or.inl ⟨rfl, List.Subset.refl _, ?_, fun _ => Or.inl, fun _ => ?_⟩
    · refine held_replace (fun e task hmem => Or.inl (hw ▸ hmem)) fun e task heq => ?_
      split at heq <;> cases heq
    · unfold settled
      cases ha : s.aborted <;> simp [hw, List.filterMap_cons, heldOk?]
  | grasp hw _ | starve hw _ _ =>
    refine Or.inl ⟨rfl, List.Subset.refl _, ?_, fun _ => Or.inl, fun _ => ?_⟩
    · exact held_replace (fun e task hmem => Or.inl (hw ▸ hmem)) fun e task heq => by cases heq
    · unfold settled
      simp [hw, List.filterMap_cons, heldOk?]
  | take hw hq =>
    refine Or.inl ⟨rfl, List.subset_append_left _ _, ?_, fun _ => Or.inl, fun hfresh => ?_⟩
    · refine held_replace (fun e task hmem => Or.inl (hw ▸ hmem)) fun e task heq => ?_
      obtain ⟨rfl, rfl⟩ := Worker.handling.inj heq
      exact Or.inr ⟨hq ▸ List.mem_cons_self, rfl⟩
    · unfold settled
      simp [hw, hfresh _ (hq ▸ List.mem_cons_self), List.filterMap_cons, heldOk?_receiving]
  | succeed hw =>
    refine Or.inl ⟨rfl, List.Subset.refl _, ?_, mem_ended_of_concat hw, fun _ => ?_⟩
    · exact held_replace (fun e task hmem => Or.inl (hw ▸ hmem)) fun e task heq => by cases heq
    · -- the entry is settled already, in the worker's hands
      unfold settled
      simp only [hw, List.filterMap_append, List.filterMap_cons, List.filterMap_nil, heldOk?,
        endedOk?]
      rw [List.append_assoc, List.singleton_append]
      exact List.perm_middle.symm.append_left _
  | fail hw =>
    refine Or.inl ⟨rfl, List.Subset.refl _, ?_, mem_ended_of_concat hw, fun _ => ?_⟩
    · exact held_replace (fun e task hmem => Or.inl (hw ▸ hmem)) fun e task heq => by cases heq
    · unfold settled
      simp [hw, List.filterMap_cons, heldOk?, endedOk?]

/-! ## What a task keeps -/

theorem mem_entries_of_queue (ho : InOrder job s) {e : ManifestEntry} (he : e ∈ s.queue) :
    e ∈ job.entries := by
  obtain ⟨ahead, hall, -⟩ := ho
  rw [← hall]
  exact List.mem_append_left _ (List.mem_append_right _ he)

/-- A property of the job's handling that lasts while a task goes on is kept by every step. -/
theorem held_step {P : ManifestEntry → Task σ → Prop}
    (htake : ∀ e ∈ job.entries, P e (job.handle e))
    (hnext : ∀ e change next s, P e (.act change next) → P e (next s))
    (ho : InOrder job s) (h : Step job s s') (hs : Held P s) : Held P s' := by
  rcases quiet_or_act h with hquiet | ⟨before, after, e, change, next, hw, rfl⟩
  · intro e task hw
    rcases hquiet.held e task hw with hw | ⟨he, rfl⟩
    · exact hs e task hw
    · exact htake e (mem_entries_of_queue ho he)
  · unfold Held at hs
    rw [hw] at hs
    refine held_replace hs fun e' task heq => ?_
    obtain ⟨rfl, rfl⟩ := Worker.handling.inj heq
    exact hnext _ _ _ _ (hs _ _ List.mem_append_cons_self)

theorem held_of_runs {P : ManifestEntry → Task σ → Prop}
    (htake : ∀ e ∈ job.entries, P e (job.handle e))
    (hnext : ∀ e change next s, P e (.act change next) → P e (next s)) {shared : σ}
    (h : Runs job (start job n shared) s) : Held P s := by
  induction h with
  | refl => exact held_start P shared
  | tail hruns hstep ih => exact held_step htake hnext (account_of_runs hruns).inOrder hstep ih

theorem mem_taken_of_held (acc : Account job n s) {e : ManifestEntry} {task : Task σ}
    (hw : .handling e task ∈ s.workers) : e ∈ s.taken :=
  acc.handledOnce.mem_iff.mp (List.mem_append_right _ (List.mem_filterMap.mpr ⟨_, hw, rfl⟩))

theorem mem_taken_of_ended (acc : Account job n s) {e : ManifestEntry} {o : Except Fault Unit}
    (hx : (e, o) ∈ s.ended) : e ∈ s.taken :=
  acc.handledOnce.mem_iff.mp (List.mem_append_left _ (List.mem_map.mpr ⟨_, hx, rfl⟩))

theorem mem_entries_of_taken (acc : Account job n s) {e : ManifestEntry} (he : e ∈ s.taken) :
    e ∈ job.entries := by
  obtain ⟨ahead, hall, -⟩ := acc.inOrder
  rw [← hall, List.append_assoc]
  exact List.mem_append_left _ he

/-- The entries in the workers' hands and those whose handling has ended are the job's. -/
theorem mem_entries_of_held {shared : σ} (h : Runs job (start job n shared) s)
    {e : ManifestEntry} {task : Task σ} (hw : .handling e task ∈ s.workers) : e ∈ job.entries :=
  mem_entries_of_taken (account_of_runs h) (mem_taken_of_held (account_of_runs h) hw)

theorem mem_entries_of_ended {shared : σ} (h : Runs job (start job n shared) s)
    {e : ManifestEntry} {o : Except Fault Unit} (hx : (e, o) ∈ s.ended) : e ∈ job.entries :=
  mem_entries_of_taken (account_of_runs h) (mem_taken_of_ended (account_of_runs h) hx)

/-! ## Changes and outcomes -/

section Within

variable {R : ManifestEntry → σ → σ → Prop} {Q : ManifestEntry → Except Fault Unit → Prop}
  {shared : σ}

theorem held_within (hjob : ∀ e ∈ job.entries, (job.handle e).Within (R e) (Q e))
    (h : Runs job (start job n shared) s) : Held (fun e task => task.Within (R e) (Q e)) s :=
  held_of_runs hjob (fun _ _ _ s hact => (hact s).2) h

/-- A step leaves the shared state alone, or it is a change that an entry's handling makes. -/
theorem changed_of_step (hjob : ∀ e ∈ job.entries, (job.handle e).Within (R e) (Q e))
    (hruns : Runs job (start job n shared) s) (h : Step job s s') :
    s'.shared = s.shared ∨ ∃ e ∈ job.entries, R e s.shared s'.shared := by
  rcases quiet_or_act h with hquiet | ⟨before, after, e, change, next, hw, rfl⟩
  · exact Or.inl hquiet.shared
  · have hmem : .handling e (.act change next) ∈ s.workers := hw ▸ List.mem_append_cons_self
    exact Or.inr ⟨e, mem_entries_of_held hruns hmem, (held_within hjob hruns e _ hmem s.shared).1⟩

/-- The handling of an entry ends as its task may end, whatever the other workers do. -/
theorem ended_of_runs (hjob : ∀ e ∈ job.entries, (job.handle e).Within (R e) (Q e))
    (h : Runs job (start job n shared) s) : ∀ x ∈ s.ended, Q x.1 x.2 := by
  induction h with
  | refl =>
    intro x hx
    cases hx
  | tail hruns hstep ih =>
    rcases quiet_or_act hstep with hquiet | ⟨before, after, e, change, next, hw, rfl⟩
    · intro x hx
      rcases hquiet.ended x hx with hx | hx
      · exact ih x hx
      · exact held_within hjob hruns _ _ hx
    · exact ih

end Within

end DataStaging.Pool
