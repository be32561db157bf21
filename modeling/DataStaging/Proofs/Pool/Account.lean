import DataStaging.Proofs.Pool.System
import Mathlib.Tactic.Common

/-!
# What a pool has done so far

Whatever the order of the steps, the entries taken from the queue are a beginning of the manifest,
each of them is in one worker's hands or has been handled once, and the result of the pool follows
from how the handling of the entries ended.

Results:
* `account_of_runs`: no entry is skipped, repeated or put before an earlier one, each entry taken is
  handled once, and the workers have left with the faults of their entries.
* `ended_of_result_ok`: a pool without a fault has read the whole manifest and handled every entry
  without a fault.
* `fault_of_result_error`: a pool's fault is one of its entries', or that of the reading.
-/

namespace DataStaging.Pool

variable {σ : Type} {job : Job σ} {n : Nat} {s s' : Pool σ}

/-! ## Entries in order -/

/-- The entries taken, those in the queue and those still ahead of the reader are all entries, in
    order. A reader that finished before the queue was closed has none ahead of it. -/
def InOrder (job : Job σ) (s : Pool σ) : Prop :=
  ∃ ahead, s.taken ++ s.queue ++ ahead = job.entries ∧
    (s.reader = .reading ahead ∨
      ∃ o, s.reader = .finished o ∧ (s.closed = false → ahead = [] ∧ o = job.ending))

theorem inOrder_step (h : Step job s s') (hs : InOrder job s) : InOrder job s' := by
  obtain ⟨ahead, hall, hr⟩ := hs
  cases h with
  | send hread _ _ =>
    rcases hr with hr | ⟨o, hr, -⟩
    · rw [hread] at hr
      cases hr
      exact ⟨_, by simpa using hall, Or.inl rfl⟩
    · rw [hread] at hr
      cases hr
  | turnAway hread hclosed =>
    refine ⟨ahead, hall, Or.inr ⟨_, rfl, fun hc => ?_⟩⟩
    rw [show s.closed = true from hclosed] at hc
    cases hc
  | finish hread =>
    rcases hr with hr | ⟨o, hr, -⟩
    · rw [hread] at hr
      cases hr
      refine ⟨[], hall, Or.inr ⟨_, rfl, fun hc => ⟨rfl, ?_⟩⟩⟩
      rw [if_neg (by rw [show s.closed = false from hc]; simp)]
    · rw [hread] at hr
      cases hr
  | take _ hq =>
    refine ⟨ahead, ?_, hr⟩
    rw [hq] at hall
    simpa using hall
  | close _ _ =>
    refine ⟨ahead, hall, ?_⟩
    rcases hr with hr | ⟨o, hr, -⟩
    · exact Or.inl hr
    · exact Or.inr ⟨o, hr, fun hc => by cases hc⟩
  | look | grasp | starve | act | succeed | fail | conclude => exact ⟨ahead, hall, hr⟩

theorem inOrder_start (shared : σ) : InOrder job (start job n shared) :=
  ⟨job.entries, rfl, Or.inl rfl⟩

/-! ## Entries in the workers' hands -/

/-- The entries taken are those whose handling has ended and those that are being handled. -/
def HandledOnce (s : Pool σ) : Prop :=
  (s.ended.map Prod.fst ++ s.workers.filterMap Worker.entry?).Perm s.taken

theorem handledOnce_step (h : Step job s s') (hs : HandledOnce s) : HandledOnce s' := by
  unfold HandledOnce at *
  cases h with
  | send | turnAway | finish | close | conclude => exact hs
  | look hw =>
    rw [hw] at hs
    cases ha : s.aborted <;> simpa [List.filterMap_cons, Worker.entry?, ha] using hs
  | grasp hw _ | starve hw _ _ | act hw =>
    rw [hw] at hs
    simpa [List.filterMap_cons, Worker.entry?] using hs
  | take hw _ | succeed hw | fail hw =>
    -- one entry moves, from the queue to a worker or from a worker to those that have ended
    rw [hw] at hs
    rw [List.perm_iff_count] at hs ⊢
    intro a
    have := hs a
    simp only [List.filterMap_append, List.filterMap_cons, Worker.entry?, List.map_append,
      List.map_cons, List.map_nil, List.count_append, List.count_cons, List.count_nil] at this ⊢
    omega

theorem handledOnce_start (shared : σ) : HandledOnce (start job n shared) := by
  simp [HandledOnce, start, Worker.entry?]

/-! ## Workers that have left -/

/-- The mark is set exactly when a worker has left with a fault. -/
def Marked (s : Pool σ) : Prop := s.aborted = s.workers.any (fun w => w.fault?.isSome)

theorem marked_step (h : Step job s s') (hs : Marked s) : Marked s' := by
  unfold Marked at *
  cases h with
  | send | turnAway | finish | close | conclude => exact hs
  | look hw =>
    rw [hw] at hs
    cases ha : s.aborted <;> simpa [Worker.fault?, ha] using hs
  | grasp hw _ | starve hw _ _ | act hw | take hw _ | succeed hw =>
    rw [hw] at hs
    simpa [Worker.fault?] using hs
  | fail hw => simp [Worker.fault?]

theorem marked_start (shared : σ) : Marked (start job n shared) := by
  simp [Marked, start, Worker.fault?]

/-- The fault that the handling of an entry ended with. -/
def fault? : ManifestEntry × Except Fault Unit → Option Fault
  | (_, .error fault) => some fault
  | _ => none

/-- The workers have left with the faults of the entries whose handling ended with one. -/
def FaultsKept (s : Pool σ) : Prop :=
  (s.ended.filterMap fault?).Perm (s.workers.filterMap Worker.fault?)

theorem faultsKept_step (h : Step job s s') (hs : FaultsKept s) : FaultsKept s' := by
  unfold FaultsKept at *
  cases h with
  | send | turnAway | finish | close | conclude => exact hs
  | look hw =>
    rw [hw] at hs
    cases ha : s.aborted <;> simpa [List.filterMap_cons, Worker.fault?, ha] using hs
  | grasp hw _ | starve hw _ _ | act hw | take hw _ | succeed hw =>
    rw [hw] at hs
    simpa [List.filterMap_cons, Worker.fault?, fault?] using hs
  | fail hw =>
    rw [hw] at hs
    rw [List.perm_iff_count] at hs ⊢
    intro a
    have := hs a
    simp only [List.filterMap_append, List.filterMap_cons, List.filterMap_nil, Worker.fault?,
      fault?, List.count_append, List.count_cons, List.count_nil] at this ⊢
    omega

theorem faultsKept_start (shared : σ) : FaultsKept (start job n shared) := by
  simp [FaultsKept, start, Worker.fault?]

/-- Once the queue is closed, all workers have left; there are always as many as at the start. -/
structure Staffed (n : Nat) (s : Pool σ) : Prop where
  length_eq : s.workers.length = Manifest.workers n
  left_of_closed : s.closed = true → ∀ w ∈ s.workers, w.hasLeft = true

theorem staffed_step (h : Step job s s') (hs : Staffed n s) : Staffed n s' := by
  obtain ⟨h1, h2⟩ := hs
  -- a worker that takes a step has not left, so the queue is not closed
  have hopen : ∀ {before after : List (Worker σ)} {w w' : Worker σ}, w.hasLeft = false →
      s.workers = before ++ w :: after → Staffed n { s with workers := before ++ w' :: after } := by
    intro before after w w' hl hw
    refine ⟨by simpa [hw] using h1, fun hc => ?_⟩
    have := h2 hc w (by simp [hw])
    rw [hl] at this
    cases this
  cases h with
  | send | turnAway | finish | conclude => exact ⟨h1, h2⟩
  | close _ hall => exact ⟨h1, fun _ => hall⟩
  | look hw | grasp hw _ | starve hw _ _ | act hw | take hw _ | succeed hw | fail hw =>
    obtain ⟨g1, g2⟩ := hopen rfl hw
    exact ⟨g1, g2⟩

theorem staffed_start (shared : σ) : Staffed n (start job n shared) :=
  ⟨by simp [start], fun h => by cases h⟩

/-- A worker that has left without a fault was told so by the mark, or there was nothing more to
    take: every entry has been taken, and the reading has ended by itself. -/
def Drained (job : Job σ) (s : Pool σ) : Prop :=
  Worker.left (.ok ()) ∈ s.workers →
    s.aborted = true ∨ (s.taken = job.entries ∧ s.reader = .finished job.ending)

theorem drained_step (h : Step job s s') (ho : InOrder job s) (hn : Staffed n s)
    (hs : Drained job s) : Drained job s' := by
  obtain ⟨ahead, hall, hr⟩ := ho
  unfold Drained at *
  intro hmem
  cases h with
  | send hread _ _ | turnAway hread _ | finish hread =>
    rcases hs hmem with ha | ⟨-, hf⟩
    · exact Or.inl ha
    · rw [hread] at hf
      cases hf
  | look hw =>
    by_cases ha : s.aborted = true
    · exact Or.inl ha
    · exact hs (by rw [hw]; simpa [ha] using hmem)
  | take hw hq =>
    rcases hs (by rw [hw]; simpa using hmem) with ha | ⟨ht, -⟩
    · exact Or.inl ha
    · -- an entry in the queue is one that has not been taken
      rw [hq, ← ht] at hall
      simp at hall
  | starve hw hq hend =>
    right
    have hopen : s.closed = false := by
      cases hc : s.closed with
      | false => rfl
      | true =>
        have := hn.left_of_closed hc .receiving (by simp [hw])
        cases this
    obtain ⟨o, ho⟩ : ∃ o, s.reader = .finished o := by
      rcases hend with hc | ho
      · rw [hopen] at hc
        cases hc
      · exact ho
    rcases hr with hr | ⟨o', hr, hdone⟩
    · rw [ho] at hr
      cases hr
    · obtain ⟨rfl, rfl⟩ := hdone hopen
      rw [hq] at hall
      exact ⟨by simpa using hall, hr⟩
  | grasp hw _ | act hw | succeed hw =>
    exact hs (by rw [hw]; simpa using hmem)
  | fail hw => exact Or.inl rfl
  | close | conclude => exact hs hmem

theorem drained_start (shared : σ) : Drained job (start job n shared) := by
  simp [Drained, start]

/-- The result follows from the workers' faults and from the reading, which has finished. -/
def Concluded (s : Pool σ) : Prop :=
  ∀ r, s.result = some r →
    s.closed = true ∧ ∃ o, s.reader = .finished o ∧ r = verdict s.workers o

theorem concluded_step (h : Step job s s') (hn : Staffed n s) (hs : Concluded s) :
    Concluded s' := by
  unfold Concluded at *
  intro r hres
  have hleft : ∀ {before after : List (Worker σ)} {w : Worker σ}, w.hasLeft = false →
      s.workers = before ++ w :: after → s.result = some r → False := by
    intro before after w hl hw hr
    have := hn.left_of_closed (hs r hr).1 w (by simp [hw])
    rw [hl] at this
    cases this
  cases h with
  | send hread _ _ | turnAway hread _ | finish hread =>
    obtain ⟨-, o, ho, -⟩ := hs r hres
    rw [hread] at ho
    cases ho
  | look hw | grasp hw _ | starve hw _ _ | act hw | take hw _ | succeed hw | fail hw =>
    exact (hleft rfl hw hres).elim
  | close hopen _ =>
    rw [hopen] at hs
    exact absurd (hs r hres).1 (by simp)
  | conclude hc _ hread =>
    cases hres
    exact ⟨hc, _, hread, rfl⟩

/-! ## Runs -/

/-- All that is kept of a pool's past. -/
structure Account (job : Job σ) (n : Nat) (s : Pool σ) : Prop where
  inOrder : InOrder job s
  handledOnce : HandledOnce s
  marked : Marked s
  faultsKept : FaultsKept s
  staffed : Staffed n s
  drained : Drained job s
  concluded : Concluded s

theorem account_start (job : Job σ) (n : Nat) (shared : σ) :
    Account job n (start job n shared) where
  inOrder := inOrder_start shared
  handledOnce := handledOnce_start shared
  marked := marked_start shared
  faultsKept := faultsKept_start shared
  staffed := staffed_start shared
  drained := drained_start shared
  concluded := fun _ h => by cases h

theorem account_step (h : Step job s s') (hs : Account job n s) : Account job n s' where
  inOrder := inOrder_step h hs.inOrder
  handledOnce := handledOnce_step h hs.handledOnce
  marked := marked_step h hs.marked
  faultsKept := faultsKept_step h hs.faultsKept
  staffed := staffed_step h hs.staffed
  drained := drained_step h hs.inOrder hs.staffed hs.drained
  concluded := concluded_step h hs.staffed hs.concluded

theorem account_of_runs {shared : σ} (h : Runs job (start job n shared) s) : Account job n s := by
  induction h with
  | refl => exact account_start job n shared
  | tail _ hstep ih => exact account_step hstep ih

/-! ## Results -/

theorem one_le_workers (n : Nat) : 1 ≤ Manifest.workers n := Nat.le_max_right _ _

/-- No worker handles an entry once all have left. -/
theorem entries_of_left {workers : List (Worker σ)} (h : ∀ w ∈ workers, w.hasLeft = true) :
    workers.filterMap Worker.entry? = [] := by
  rw [List.filterMap_eq_nil_iff]
  intro w hw
  have := h w hw
  cases w <;> simp_all [Worker.hasLeft, Worker.entry?]

theorem mem_left_of_hasLeft {w : Worker σ} (h : w.hasLeft = true) (hf : w.fault? = none) :
    w = .left (.ok ()) := by
  cases w with
  | left o =>
    cases o with
    | ok u => rfl
    | error f => cases hf
  | _ => cases h

theorem verdict_eq_ok_iff {workers : List (Worker σ)} {o : Except Fault Nat} :
    verdict workers o = .ok () ↔ (∀ w ∈ workers, w.fault? = none) ∧ ∃ count, o = .ok count := by
  unfold verdict
  cases hf : workers.findSome? Worker.fault? with
  | none =>
    have hno := List.findSome?_eq_none_iff.mp hf
    cases o with
    | ok count => exact ⟨fun _ => ⟨hno, count, rfl⟩, fun _ => rfl⟩
    | error f =>
      constructor
      · intro h
        cases h
      · rintro ⟨-, count, hc⟩
        cases hc
  | some f =>
    obtain ⟨w, hw, hwf⟩ := List.exists_of_findSome?_eq_some hf
    constructor
    · intro h
      cases h
    · rintro ⟨h, -⟩
      rw [h w hw] at hwf
      cases hwf

theorem verdict_eq_error {workers : List (Worker σ)} {o : Except Fault Nat} {f : Fault}
    (h : verdict workers o = .error f) :
    (∃ w ∈ workers, w.fault? = some f) ∨ ((∀ w ∈ workers, w.fault? = none) ∧ o = .error f) := by
  unfold verdict at h
  cases hf0 : workers.findSome? Worker.fault? with
  | none =>
    have hf := List.findSome?_eq_none_iff.mp hf0
    rw [hf0] at h
    cases o with
    | ok count => cases h
    | error f' =>
      cases h
      exact Or.inr ⟨hf, rfl⟩
  | some f' =>
    rw [hf0] at h
    cases h
    exact Or.inl (List.exists_of_findSome?_eq_some hf0)

/-- Without a fault of a worker, the whole manifest has been read and every entry taken. -/
theorem drained_of_no_fault {shared : σ} (h : Runs job (start job n shared) s)
    (hclosed : s.closed = true) (hno : ∀ w ∈ s.workers, w.fault? = none) :
    s.taken = job.entries ∧ s.reader = .finished job.ending := by
  have acc := account_of_runs h
  have hpos : 0 < s.workers.length := by
    rw [acc.staffed.length_eq]
    exact one_le_workers n
  obtain ⟨w, hw⟩ := List.exists_mem_of_length_pos hpos
  have hleft := mem_left_of_hasLeft (acc.staffed.left_of_closed hclosed w hw) (hno w hw)
  have hmark : s.aborted = false := by
    rw [acc.marked, List.any_eq_false]
    intro w hw
    simp [hno w hw]
  rcases acc.drained (hleft ▸ hw) with ha | hd
  · rw [hmark] at ha
    cases ha
  · exact hd

/-- Without a fault of a worker, no entry's handling ended with a fault. -/
theorem ended_ok_of_no_fault {shared : σ} (h : Runs job (start job n shared) s)
    (hno : ∀ w ∈ s.workers, w.fault? = none) : ∀ x ∈ s.ended, x.2 = .ok () := by
  have hkept := (account_of_runs h).faultsKept
  rw [FaultsKept, List.filterMap_eq_nil_iff.mpr hno, List.perm_nil,
    List.filterMap_eq_nil_iff] at hkept
  rintro ⟨e, o⟩ hx
  have := hkept _ hx
  cases o with
  | ok u => rfl
  | error f => cases this

/-- A pool without a fault has read the whole manifest, and every entry has been handled once and
    without a fault. -/
theorem ended_of_result_ok {shared : σ} (h : Runs job (start job n shared) s)
    (hr : s.result = some (.ok ())) :
    (∃ count, job.ending = .ok count) ∧ (s.ended.map Prod.fst).Perm job.entries ∧
      ∀ x ∈ s.ended, x.2 = .ok () := by
  have acc := account_of_runs h
  obtain ⟨hclosed, o, hread, hv⟩ := acc.concluded _ hr
  obtain ⟨hno, hcount⟩ := verdict_eq_ok_iff.mp hv.symm
  obtain ⟨htaken, hend⟩ := drained_of_no_fault h hclosed hno
  rw [hend] at hread
  cases hread
  have hperm := acc.handledOnce
  rw [HandledOnce, entries_of_left (acc.staffed.left_of_closed hclosed), List.append_nil,
    htaken] at hperm
  exact ⟨hcount, hperm, ended_ok_of_no_fault h hno⟩

/-- A pool's fault is that of an entry, or else that of the reading, which all entries precede. -/
theorem fault_of_result_error {shared : σ} {f : Fault} (h : Runs job (start job n shared) s)
    (hr : s.result = some (.error f)) :
    (∃ e, (e, .error f) ∈ s.ended) ∨
      (job.ending = .error f ∧ s.taken = job.entries ∧ ∀ x ∈ s.ended, x.2 = .ok ()) := by
  have acc := account_of_runs h
  obtain ⟨hclosed, o, hread, hv⟩ := acc.concluded _ hr
  rcases verdict_eq_error hv.symm with ⟨w, hw, hf⟩ | ⟨hno, ho⟩
  · left
    have hmem : f ∈ s.workers.filterMap Worker.fault? := List.mem_filterMap.mpr ⟨w, hw, hf⟩
    obtain ⟨⟨e, o⟩, hx, hxf⟩ := List.mem_filterMap.mp (acc.faultsKept.mem_iff.mpr hmem)
    cases o with
    | ok u => cases hxf
    | error f' =>
      cases hxf
      exact ⟨e, hx⟩
  · right
    obtain ⟨htaken, hend⟩ := drained_of_no_fault h hclosed hno
    rw [hend] at hread
    have hend' : job.ending = o := Reader.finished.inj hread
    exact ⟨hend'.trans ho, htaken, ended_ok_of_no_fault h hno⟩

end DataStaging.Pool
