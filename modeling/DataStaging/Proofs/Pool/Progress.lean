import DataStaging.Proofs.Pool.System
import Mathlib.Logic.Hydra
import Mathlib.Tactic.Common

/-!
# A pool comes to its result

Nothing waits for ever. As long as a pool has no result, the reader, a worker or the pool itself can
take a step; and no pool goes on without end, since an entry is put into the queue, taken and let go
once, and a task that goes on is a smaller one. So what holds of a pool whenever it has a result is
what every order of steps comes to.

Results:
* `exists_step`: a pool without a result can take a step.
* `wellFounded_step`: no pool takes steps without end.
* `comes_of_runs`: every order of steps comes to a result.
-/

namespace DataStaging

/-! ## Tasks that go on -/

namespace Task

variable {σ : Type}

/-- The task `t'` is what is left of `t` when its first change has been made. -/
def Follows (t' t : Task σ) : Prop := ∃ change next s, t = .act change next ∧ t' = next s

theorem wellFounded_follows : WellFounded (Follows (σ := σ)) := by
  refine ⟨fun t => ?_⟩
  induction t with
  | done o =>
    refine ⟨_, ?_⟩
    rintro t' ⟨change, next, s, hact, -⟩
    cases hact
  | act change next ih =>
    refine ⟨_, ?_⟩
    rintro t' ⟨change', next', s, hact, rfl⟩
    cases hact
    exact ih s

end Task

namespace Worker

variable {σ : Type}

/-- The task in a worker's hands. -/
def task? : Worker σ → Option (Task σ)
  | handling _ task => some task
  | _ => none

/-- The stages that a worker has before it, until it leaves or takes another entry. -/
def stages : Worker σ → Nat
  | handling _ _ => 4
  | idle => 3
  | queueing => 2
  | receiving => 1
  | left _ => 0

end Worker

namespace Reader

/-- The entries still ahead, counted by all that happens to an entry, and the end. -/
def toDo : Reader → Nat
  | reading ahead => 5 * ahead.length + 1
  | finished _ => 0

end Reader

namespace Pool

variable {σ : Type} {job : Job σ} {n : Nat} {s s' : Pool σ}

/-! ## A step can be taken -/

/-- A worker that has not left can take a step, or waits for one that has the queue, or waits for an
    entry. -/
theorem exists_step_of_worker {w : Worker σ} (hw : w ∈ s.workers) (hleft : w.hasLeft = false) :
    (∃ s', Step job s s') ∨ .receiving ∈ s.workers := by
  obtain ⟨before, after, hsplit⟩ := List.append_of_mem hw
  cases w with
  | idle => exact Or.inl ⟨_, .look hsplit⟩
  | queueing =>
    by_cases hfree : ∀ w ∈ s.workers, w.isReceiving = false
    · exact Or.inl ⟨_, .grasp hsplit hfree⟩
    · obtain ⟨w', hw'⟩ := not_forall.mp hfree
      obtain ⟨hmem, hrec⟩ := Classical.not_imp.mp hw'
      cases w' with
      | receiving => exact Or.inr hmem
      | _ => exact absurd rfl hrec
  | receiving => exact Or.inr hw
  | handling e task =>
    left
    cases task with
    | act change next => exact ⟨_, .act hsplit⟩
    | done o =>
      cases o with
      | ok u => exact ⟨_, .succeed hsplit⟩
      | error fault => exact ⟨_, .fail hsplit⟩
  | left o => cases hleft

/-- While the queue is open and no worker waits in vain, the workers or the pool can take a step. -/
theorem exists_step_of_open (hopen : s.closed = false)
    (hentry : s.queue ≠ [] ∨ ∃ o, s.reader = .finished o) : ∃ s', Step job s s' := by
  by_cases hall : ∀ w ∈ s.workers, w.hasLeft = true
  · exact ⟨_, .close hopen hall⟩
  · obtain ⟨w, hw⟩ := not_forall.mp hall
    obtain ⟨hmem, hleft⟩ := Classical.not_imp.mp hw
    rcases exists_step_of_worker hmem (by simpa using hleft) with h | hrec
    · exact h
    · obtain ⟨before, after, hsplit⟩ := List.append_of_mem hrec
      cases hq : s.queue with
      | nil => exact ⟨_, .starve hsplit hq (Or.inr (hentry.resolve_left (absurd hq)))⟩
      | cons e rest => exact ⟨_, .take hsplit hq⟩

/-- A pool without a result can take a step. -/
theorem exists_step (h : s.result = none) : ∃ s', Step job s s' := by
  cases hr : s.reader with
  | finished o =>
    cases hc : s.closed with
    | true => exact ⟨_, .conclude hc h hr⟩
    | false => exact exists_step_of_open hc (Or.inr ⟨o, hr⟩)
  | reading ahead =>
    cases ahead with
    | nil => exact ⟨_, .finish hr⟩
    | cons e ahead =>
      cases hc : s.closed with
      | true => exact ⟨_, .turnAway hr hc⟩
      | false =>
        by_cases hroom : s.queue.length < max job.depth 1
        · exact ⟨_, .send hr hc hroom⟩
        · -- the queue is full, so a worker finds an entry in it
          refine exists_step_of_open hc (Or.inl fun hnil => hroom ?_)
          rw [hnil]
          exact Nat.lt_of_lt_of_le Nat.zero_lt_one (Nat.le_max_right _ _)

/-! ## Steps come to an end -/

/-- The steps still to be taken, apart from those of the tasks. -/
def toDo (s : Pool σ) : Nat :=
  s.reader.toDo + 4 * s.queue.length + (s.workers.map Worker.stages).sum +
    (if s.closed then 0 else 1) + (if s.result.isSome then 0 else 1)

/-- The tasks in the workers' hands. -/
def tasks (s : Pool σ) : Multiset (Task σ) := s.workers.filterMap Worker.task?

/-- A step leaves less to do, or as much and one of the tasks a smaller one. -/
theorem toDo_step (h : Step job s s') :
    s'.toDo < s.toDo ∨ s'.toDo = s.toDo ∧ Relation.CutExpand Task.Follows s'.tasks s.tasks := by
  cases h with
  | act hw =>
    right
    constructor
    · simp [toDo, hw, Worker.stages]
    · simp only [tasks, hw, List.filterMap_append, List.filterMap_cons, Worker.task?,
        ← Multiset.coe_add, ← Multiset.cons_coe]
      simp only [← Multiset.singleton_add]
      refine (Relation.cutExpand_add_left _).mpr ?_
      exact Relation.cutExpand_single_add ⟨_, _, _, rfl, rfl⟩ _
  | send hr hc hroom | turnAway hr hc | finish hr =>
    left
    simp only [toDo, hr, Reader.toDo, List.length_append, List.length_cons, List.length_nil]
    omega
  | look hw =>
    left
    cases ha : s.aborted <;>
    · simp only [toDo, hw, List.map_append, List.map_cons, List.sum_append, List.sum_cons,
        Worker.stages]
      simp
  | take hw hq =>
    left
    simp only [toDo, hw, hq, List.map_append, List.map_cons, List.sum_append, List.sum_cons,
      List.length_cons, Worker.stages]
    omega
  | grasp hw _ | starve hw _ _ | succeed hw | fail hw =>
    left
    simp only [toDo, hw, List.map_append, List.map_cons, List.sum_append, List.sum_cons,
      Worker.stages]
    omega
  | close hc hall =>
    left
    simp [toDo, hc]
  | conclude hc hres hr =>
    left
    simp [toDo, hres]

/-- No pool takes steps without end. -/
theorem wellFounded_step (job : Job σ) : WellFounded (fun s' s => Step job s s') := by
  refine Subrelation.wf ?_ (InvImage.wf (fun s : Pool σ => (s.toDo, s.tasks))
    (WellFounded.prod_lex Nat.lt_wfRel.wf (WellFounded.cutExpand Task.wellFounded_follows)))
  intro s' s h
  exact Prod.lex_def.mpr (toDo_step h)

/-! ## Results to come -/

/-- Whatever steps are taken, the pool comes to a result, and then `Q` holds. -/
inductive Comes (job : Job σ) (Q : Except Fault Unit → Pool σ → Prop) : Pool σ → Prop where
  | here {s : Pool σ} {r : Except Fault Unit} : s.result = some r → Q r s → Comes job Q s
  | later {s : Pool σ} : (∃ s', Step job s s') → (∀ s', Step job s s' → Comes job Q s') →
      Comes job Q s

variable {Q : Except Fault Unit → Pool σ → Prop} {s₀ : Pool σ}

theorem Comes.mono {Q' : Except Fault Unit → Pool σ → Prop} (hQ : ∀ r s, Q r s → Q' r s)
    (h : Comes job Q s) : Comes job Q' s := by
  induction h with
  | here hr hq => exact .here hr (hQ _ _ hq)
  | later hstep _ ih => exact .later hstep ih

/-- What holds whenever a run has its result is what every run comes to. -/
theorem comes_of_runs (hQ : ∀ s r, Runs job s₀ s → s.result = some r → Q r s)
    (h : Runs job s₀ s) : Comes job Q s := by
  induction s using (wellFounded_step job).induction with
  | _ s ih =>
    cases hr : s.result with
    | some r => exact .here hr (hQ s r h hr)
    | none => exact .later (exists_step hr) fun s' hstep => ih s' hstep (h.tail hstep)

end Pool

end DataStaging
