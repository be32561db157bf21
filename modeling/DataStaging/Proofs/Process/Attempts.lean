import DataStaging.Process.Retry
import DataStaging.Proofs.Outcome
import Mathlib.Tactic.Common

/-!
# Attempts and their outcomes

An attempt ends with a success, with a wait, or charged. What a run has in its report is counted off
the outcomes so far, and so is whether it goes on.

Results:
* `Attempt.kinds`: the three kinds of outcomes.
* `report_advance`: the report after one outcome more.
* `run_succ`: one attempt of a run that nothing disturbs.
-/

namespace DataStaging

/-! ## Outcomes -/

namespace Attempt

variable {α : Type}

def isSuccess : Attempt α → Bool
  | succeeded _ => true
  | _ => false

/-- The attempt could not reach its service. -/
def isUnreachable : Attempt α → Bool
  | exited status => status = some ExitStatus.serviceUnreachable
  | _ => false

/-- The attempt was told to slow down. -/
def isRateLimited : Attempt α → Bool
  | exited status => status = some ExitStatus.rateLimited
  | _ => false

/-- The attempt stayed silent for too long. -/
def isSilence : Attempt α → Bool
  | timedOut => true
  | _ => false

/-- The run waits and tries again. -/
def isWait (o : Attempt α) : Bool := o.isUnreachable || o.isRateLimited

/-- A silence, a signal, or an exit with a status that asks for no wait. A program that exits with
    status zero has succeeded and is no `exited`. -/
def isCharged : Attempt α → Bool
  | succeeded _ => false
  | exited status =>
    status ≠ some ExitStatus.serviceUnreachable && status ≠ some ExitStatus.rateLimited
  | timedOut => true

/-- Every outcome is a success, a wait or charged. -/
theorem kinds (o : Attempt α) :
    (∃ value, o = succeeded value) ∨ (o.isWait = true ∧ o.isCharged = false) ∨
      (o.isCharged = true ∧ o.isWait = false) := by
  cases o with
  | succeeded value => exact Or.inl ⟨value, rfl⟩
  | timedOut => exact Or.inr (Or.inr ⟨rfl, rfl⟩)
  | exited status =>
    right
    by_cases h1 : status = some ExitStatus.serviceUnreachable
    · simp [isWait, isUnreachable, isRateLimited, isCharged, h1]
    · by_cases h2 : status = some ExitStatus.rateLimited
      · simp [isWait, isUnreachable, isRateLimited, isCharged, h2]
      · simp [isWait, isUnreachable, isRateLimited, isCharged, h1, h2]

theorem exists_of_isSuccess {o : Attempt α} (h : o.isSuccess = true) :
    ∃ value, o = succeeded value := by
  cases o with
  | succeeded value => exact ⟨value, rfl⟩
  | exited status => cases h
  | timedOut => cases h

theorem isSuccess_of_isWait {o : Attempt α} (h : o.isWait = true) : o.isSuccess = false := by
  cases o with
  | succeeded value => cases h
  | exited status => rfl
  | timedOut => rfl

theorem isSuccess_of_isCharged {o : Attempt α} (h : o.isCharged = true) : o.isSuccess = false := by
  cases o with
  | succeeded value => cases h
  | exited status => rfl
  | timedOut => rfl

theorem isCharged_of_isWait {o : Attempt α} (h : o.isWait = true) : o.isCharged = false := by
  rcases o.kinds with ⟨value, rfl⟩ | ⟨-, hcharged⟩ | ⟨-, hwait⟩
  · rfl
  · exact hcharged
  · rw [h] at hwait
    cases hwait

theorem isWait_of_isSuccess {o : Attempt α} (h : o.isSuccess = true) : o.isWait = false := by
  cases o with
  | succeeded value => rfl
  | exited status => cases h
  | timedOut => cases h

theorem isWait_of_isCharged {o : Attempt α} (h : o.isCharged = true) : o.isWait = false := by
  rcases o.kinds with ⟨value, rfl⟩ | ⟨-, hcharged⟩ | ⟨-, hwait⟩
  · rfl
  · rw [h] at hcharged
    cases hcharged
  · exact hwait

theorem isWait_of_isSilence {o : Attempt α} (h : o.isSilence = true) : o.isWait = false := by
  cases o with
  | succeeded value => rfl
  | exited status => cases h
  | timedOut => rfl

theorem counted_once {o : Attempt α} (h : o.isSuccess = false) :
    (if o.isCharged = true then 1 else 0) + (if o.isRateLimited = true then 1 else 0) +
      (if o.isUnreachable = true then 1 else 0) = 1 := by
  cases o with
  | succeeded value => cases h
  | timedOut => rfl
  | exited status =>
    by_cases hservice : status = some ExitStatus.serviceUnreachable
    · rw [hservice]
      rfl
    · by_cases hquota : status = some ExitStatus.rateLimited
      · rw [hquota]
        rfl
      · simp [isCharged, isRateLimited, isUnreachable, hservice, hquota]

end Attempt

/-- The first outcomes of a sequence. -/
def first {α : Type} (f : Nat → Attempt α) (n : Nat) : List (Attempt α) := (List.range n).map f

theorem first_succ {α : Type} (f : Nat → Attempt α) (n : Nat) :
    first f (n + 1) = first f n ++ [f n] := by
  rw [first, first, List.range_succ, List.map_append, List.map_singleton]

/-- The report of a run that has met these outcomes, none of them a success. -/
def RunReport.ofOutcomes {α : Type} (hasVariant : Bool) (os : List (Attempt α)) : RunReport where
  failedAttempts := os.countP Attempt.isCharged
  rateLimited := os.countP Attempt.isRateLimited
  serviceWaits := os.countP Attempt.isUnreachable
  timeouts := os.countP Attempt.isSilence
  usedVariant := hasVariant && os.any Attempt.isSilence

theorem RunReport.ofOutcomes_nil {α : Type} (hasVariant : Bool) :
    ofOutcomes hasVariant ([] : List (Attempt α)) = .start := by
  cases hasVariant <;> rfl

theorem RunReport.ofOutcomes_concat {α : Type} (hasVariant : Bool) (os : List (Attempt α))
    (o : Attempt α) : ofOutcomes hasVariant (os ++ [o]) =
      { failedAttempts := os.countP Attempt.isCharged + o.isCharged.toNat
        rateLimited := os.countP Attempt.isRateLimited + o.isRateLimited.toNat
        serviceWaits := os.countP Attempt.isUnreachable + o.isUnreachable.toNat
        timeouts := os.countP Attempt.isSilence + o.isSilence.toNat
        usedVariant := hasVariant && (os.any Attempt.isSilence || o.isSilence) } := by
  have hcount : ∀ p : Attempt α → Bool, (os ++ [o]).countP p = os.countP p + (p o).toNat := by
    intro p
    rw [List.countP_append, List.countP_singleton]
    cases p o <;> rfl
  simp only [ofOutcomes, hcount, List.any_append, List.any_cons, List.any_nil, Bool.or_false]

/-- Every outcome but a success is counted once: charged, or as one of the two waits. -/
theorem RunReport.total_ofOutcomes {α : Type} (hasVariant : Bool) {os : List (Attempt α)}
    (h : ∀ o ∈ os, o.isSuccess = false) :
    (ofOutcomes hasVariant os).failedAttempts + (ofOutcomes hasVariant os).rateLimited +
      (ofOutcomes hasVariant os).serviceWaits = os.length := by
  induction os with
  | nil => rfl
  | cons o os ih =>
    obtain ⟨ho, hos⟩ := List.forall_mem_cons.mp h
    have hone := Attempt.counted_once ho
    have hrest := ih hos
    simp only [ofOutcomes, List.countP_cons, List.length_cons] at hrest ⊢
    omega

namespace Retry

variable {σ α : Type} {policy : RetryPolicy} {label : String} {hasVariant : Bool} {status : Int}

/-! ## One outcome -/

theorem charge_report (report : RunReport) (notice : String) :
    (charge (α := α) policy label report notice).1 = report := by
  unfold charge
  split_ifs <;> rfl

theorem charge_next (report : RunReport) (notice : String) :
    (charge (α := α) policy label report notice).2.2 =
      if policy.maxRetries ≤ report.failedAttempts then .spent else .again := by
  unfold charge
  split_ifs <;> rfl

section

variable {os : List (Attempt α)} {o : Attempt α} (jitter : Float)

theorem report_advance (h : o.isSuccess = false) :
    (advance policy label hasVariant jitter (.ofOutcomes hasVariant os) o).1 =
      .ofOutcomes hasVariant (os ++ [o]) := by
  rw [RunReport.ofOutcomes_concat]
  cases o with
  | succeeded value => cases h
  | timedOut =>
    simp only [advance, charge_report, RunReport.ofOutcomes]
    cases hasVariant <;> simp [Attempt.isCharged, Attempt.isSilence, Attempt.isUnreachable,
      Attempt.isRateLimited]
  | exited exit =>
    by_cases h1 : exit = some ExitStatus.serviceUnreachable
    · simp [advance, h1, RunReport.ofOutcomes, Attempt.isCharged, Attempt.isSilence,
        Attempt.isUnreachable, Attempt.isRateLimited, ExitStatus.rateLimited,
        ExitStatus.serviceUnreachable]
    · by_cases h2 : exit = some ExitStatus.rateLimited
      · simp [advance, h2, RunReport.ofOutcomes, Attempt.isCharged, Attempt.isSilence,
          Attempt.isUnreachable, Attempt.isRateLimited, ExitStatus.rateLimited,
          ExitStatus.serviceUnreachable]
      · simp only [advance, h1, h2, if_false, charge_report, RunReport.ofOutcomes]
        simp [Attempt.isCharged, Attempt.isSilence, Attempt.isUnreachable, Attempt.isRateLimited,
          h1, h2]

/-- A wait is followed by another attempt, whatever has been charged. -/
theorem next_advance_of_wait (report : RunReport) (h : o.isWait = true) :
    (advance policy label hasVariant jitter report o).2.2 = .awaitService ∨
      ∃ delay, (advance policy label hasVariant jitter report o).2.2 = .awaitQuota delay := by
  cases o with
  | succeeded value => cases h
  | timedOut => cases h
  | exited exit =>
    by_cases h1 : exit = some ExitStatus.serviceUnreachable
    · left
      simp [advance, h1]
    · by_cases h2 : exit = some ExitStatus.rateLimited
      · right
        simp [advance, h2, ExitStatus.rateLimited, ExitStatus.serviceUnreachable]
      · simp [Attempt.isWait, Attempt.isUnreachable, Attempt.isRateLimited, h1, h2] at h

/-- A charged outcome is followed by another attempt until the charges reach the limit. -/
theorem next_advance_of_charged (h : o.isCharged = true) :
    (advance policy label hasVariant jitter (.ofOutcomes hasVariant os) o).2.2 =
      if policy.maxRetries ≤ (os ++ [o]).countP Attempt.isCharged then .spent else .again := by
  have hcount : (os ++ [o]).countP Attempt.isCharged = os.countP Attempt.isCharged + 1 := by
    rw [List.countP_append, List.countP_singleton, h, if_pos rfl]
  rw [hcount]
  cases o with
  | succeeded value => cases h
  | timedOut => simp only [advance, charge_next, RunReport.ofOutcomes]
  | exited exit =>
    have h1 : exit ≠ some ExitStatus.serviceUnreachable := by
      rintro rfl
      cases h
    have h2 : exit ≠ some ExitStatus.rateLimited := by
      rintro rfl
      cases h
    simp only [advance, h1, h2, if_false, charge_next, RunReport.ofOutcomes]

/-- Only a success ends a run that succeeds. -/
theorem eq_succeeded_of_done {report : RunReport} {value : α}
    (h : (advance policy label hasVariant jitter report o).2.2 = .done value) :
    o = .succeeded value := by
  cases o with
  | succeeded value' =>
    cases h
    rfl
  | timedOut =>
    simp only [advance, charge_next] at h
    split_ifs at h
  | exited exit =>
    simp only [advance] at h
    split_ifs at h
    simp only [charge_next] at h
    split_ifs at h

/-- Only a charged outcome ends a run that fails. -/
theorem isCharged_of_spent {report : RunReport}
    (h : (advance policy label hasVariant jitter report o).2.2 = .spent) : o.isCharged = true := by
  rcases o.kinds with ⟨value, rfl⟩ | ⟨hwait, -⟩ | ⟨hcharged, -⟩
  · cases h
  · rcases next_advance_of_wait jitter report hwait with hnext | ⟨delay, hnext⟩ <;>
      cases hnext.symm.trans h
  · exact hcharged

end

/-! ## Runs that meet a sequence of outcomes -/

/-- What a run comes to with outcome `o` after the outcomes `os`, if it comes to anything yet. -/
def settled? (policy : RetryPolicy) (label : String) (hasVariant : Bool) (status : Int)
    (os : List (Attempt α)) : Attempt α → Option (Except Fault (α × RunReport))
  | .succeeded value => some (.ok (value, .ofOutcomes hasVariant os))
  | o =>
    if o.isCharged && policy.maxRetries ≤ (os ++ [o]).countP Attempt.isCharged then
      some (.error (.retriesExhausted label policy.maxRetries status))
    else none

/-- An action that does not fail where a run is ready, and makes no attempt. -/
def Quiet {β : Type} (made : σ → Nat) (ready : σ → Prop) (x : Act σ β) : Prop :=
  ∀ s, ready s → ∃ b s', x.run s = (.ok b, s') ∧ ready s' ∧ made s' = made s

/-- The connection is good and every command can be started, so that nothing fails while a run is
    `ready`, and the attempts, of which `made` counts those so far, end with the outcomes `f`. -/
structure Means.Meets (means : Means σ α) (hasVariant : Bool) (f : Nat → Attempt α)
    (made : σ → Nat) (ready : σ → Prop) : Prop where
  gate : Quiet made ready means.gate
  attempt : ∀ s, ready s → ∃ s',
    (means.attempt (RunReport.ofOutcomes hasVariant (first f (made s))).usedVariant).run s =
      (.ok (f (made s)), s') ∧ ready s' ∧ made s' = made s + 1
  jitter : Quiet made ready means.jitter
  notify : ∀ lines, Quiet made ready (means.notify lines)
  awaitService : Quiet made ready means.awaitService
  pause : ∀ delay, Quiet made ready (means.pause delay)

section

variable {means : Means σ α} {f : Nat → Attempt α} {made : σ → Nat} {ready : σ → Prop} {s : σ}

theorem settled?_of_isWait {os : List (Attempt α)} {o : Attempt α} (h : o.isWait = true) :
    settled? policy label hasVariant status os o = none := by
  cases o with
  | succeeded value => cases h
  | timedOut => cases h
  | exited exit =>
    rw [settled?, Attempt.isCharged_of_isWait h]
    · rfl
    · rintro v ⟨⟩

theorem settled?_of_isCharged {os : List (Attempt α)} {o : Attempt α} (h : o.isCharged = true) :
    settled? policy label hasVariant status os o =
      if policy.maxRetries ≤ (os ++ [o]).countP Attempt.isCharged then
        some (.error (.retriesExhausted label policy.maxRetries status))
      else none := by
  rw [settled?, h]
  · simp only [Bool.true_and, decide_eq_true_eq]
  · rintro v rfl
    cases h

variable (policy label status) in
/-- One attempt settles the run, or the run goes on as one that has met one outcome more. -/
theorem run_succ (h : means.Meets hasVariant f made ready) (hs : ready s) (patience : Nat) :
    ∃ s', ready s' ∧ made s' = made s + 1 ∧
      (run means policy label hasVariant status (patience + 1)
        (.ofOutcomes hasVariant (first f (made s)))).run s =
      match settled? policy label hasVariant status (first f (made s)) (f (made s)) with
      | some r => (r.mapError Halt.fault, s')
      | none => (run means policy label hasVariant status patience
          (.ofOutcomes hasVariant (first f (made s + 1)))).run s' := by
  obtain ⟨⟨⟩, s₁, hgate, hs₁, hm₁⟩ := h.gate s hs
  obtain ⟨s₂, hattempt, hs₂, hm₂⟩ := h.attempt s₁ hs₁
  obtain ⟨jitter, s₃, hjitter, hs₃, hm₃⟩ := h.jitter s₂ hs₂
  rw [hm₁] at hattempt
  rw [run, run_bind_of_ok hgate, run_bind_of_ok hattempt, run_bind_of_ok hjitter]
  rcases hadvance : advance policy label hasVariant jitter
    (.ofOutcomes hasVariant (first f (made s))) (f (made s)) with ⟨report, notices, next⟩
  have hreport : (f (made s)).isSuccess = false →
      report = .ofOutcomes hasVariant (first f (made s + 1)) := by
    intro ho
    rw [first_succ, ← report_advance jitter ho, hadvance]
  have hnext : (advance policy label hasVariant jitter
      (.ofOutcomes hasVariant (first f (made s))) (f (made s))).2.2 = next := by rw [hadvance]
  obtain ⟨⟨⟩, s₄, hnotify, hs₄, hm₄⟩ := h.notify notices s₃ hs₃
  have hmade : made s₄ = made s + 1 := by rw [hm₄, hm₃, hm₂, hm₁]
  simp only [run_bind_of_ok hnotify]
  rcases (f (made s)).kinds with ⟨value, ho⟩ | ⟨hwait, -⟩ | ⟨hcharged, -⟩
  · rw [ho] at hadvance ⊢
    cases hadvance
    exact ⟨s₄, hs₄, hmade, rfl⟩
  · obtain rfl := hreport (Attempt.isSuccess_of_isWait hwait)
    rw [settled?_of_isWait hwait]
    rcases next_advance_of_wait jitter _ hwait with hafter | ⟨delay, hafter⟩ <;>
      obtain rfl := hnext.symm.trans hafter
    · obtain ⟨⟨⟩, s₅, hpause, hs₅, hm₅⟩ := h.awaitService s₄ hs₄
      exact ⟨s₅, hs₅, hm₅.trans hmade, run_bind_of_ok hpause _⟩
    · obtain ⟨⟨⟩, s₅, hpause, hs₅, hm₅⟩ := h.pause delay s₄ hs₄
      exact ⟨s₅, hs₅, hm₅.trans hmade, run_bind_of_ok hpause _⟩
  · obtain rfl := hreport (Attempt.isSuccess_of_isCharged hcharged)
    obtain rfl := hnext.symm.trans (next_advance_of_charged jitter hcharged)
    rw [settled?_of_isCharged hcharged]
    refine ⟨s₄, hs₄, hmade, ?_⟩
    split_ifs <;> rfl

end

end Retry

end DataStaging
