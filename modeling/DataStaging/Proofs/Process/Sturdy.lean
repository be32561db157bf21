import DataStaging.Proofs.Process.Starts
import DataStaging.Process.Run
import Mathlib.Tactic.SplitIfs

/-!
# Computations that do not break down

Only the clock can break a computation down. One that never asks it for a time that does not exist
is *sturdy*: whatever the state it runs in, it has a result, or fails, or is dropped, or never ends.
What is made of sturdy parts is sturdy, so this is told by the parts alone, and how long anything
takes has no part in it.

Results:
* `Sturdy.bind`, `Sturdy.tryCatch`: computations in parts.
* `Sturdy.breaksDown_bind_iff`: where only the second part can break down.
* `Retry.sturdy_run`: a run is as sturdy as its means.
* `Run.sturdy_once`, `Run.sturdy_streaming`: commands, for any idle timeout.
-/

namespace DataStaging

/-- The computation breaks down, and this is the state it leaves. -/
def BreaksDown {σ α : Type} (x : Act σ α) (s s' : σ) : Prop :=
  ∃ reason, x.run s = (.error (.crash reason), s')

/-- Whatever the state, the computation does not break down. -/
def Sturdy {σ α : Type} (x : Act σ α) : Prop := ∀ s s', ¬ BreaksDown x s s'

variable {σ α β : Type} {x : Act σ α}

/-! ## Computations in parts -/

namespace Sturdy

theorem pure (a : α) : Sturdy (Pure.pure a : Act σ α) := by
  rintro s s' ⟨reason, hrun⟩
  cases hrun

theorem throw {halt : Halt} (h : ∀ reason, halt ≠ .crash reason) :
    Sturdy (MonadExcept.throw halt : Act σ α) := by
  rintro s s' ⟨reason, hrun⟩
  cases hrun
  exact h reason rfl

/-- What never ends does not break down. -/
theorem stuck : Sturdy (MonadExcept.throw Halt.stuck : Act σ α) := by
  apply throw
  intro reason h
  cases h

theorem get : Sturdy (MonadState.get : Act σ σ) := by
  rintro s s' ⟨reason, hrun⟩
  cases hrun

theorem set (s₀ : σ) : Sturdy (MonadStateOf.set s₀ : Act σ PUnit) := by
  rintro s s' ⟨reason, hrun⟩
  cases hrun

theorem modify (f : σ → σ) : Sturdy (modifyThe σ f : Act σ PUnit) := by
  rintro s s' ⟨reason, hrun⟩
  cases hrun

/-- Behind a sturdy part, a computation breaks down where the other part does. -/
theorem breaksDown_bind_iff (hx : Sturdy x) {f : α → Act σ β} {s s' : σ} :
    BreaksDown (x >>= f) s s' ↔ ∃ a s₁, x.run s = (.ok a, s₁) ∧ BreaksDown (f a) s₁ s' := by
  rcases hfirst : x.run s with ⟨halt | a, s₁⟩
  · constructor
    · rintro ⟨reason, hrun⟩
      rw [run_bind_of_error hfirst] at hrun
      cases hrun
      exact absurd ⟨reason, hfirst⟩ (hx s s')
    · rintro ⟨a, s₂, hok, -⟩
      cases hok
  · constructor
    · rintro ⟨reason, hrun⟩
      rw [run_bind_of_ok hfirst] at hrun
      exact ⟨a, s₁, rfl, reason, hrun⟩
    · rintro ⟨a', s₂, hok, reason, hrun⟩
      cases hok
      exact ⟨reason, (run_bind_of_ok hfirst f).trans hrun⟩

theorem bind {f : α → Act σ β} (hx : Sturdy x) (hf : ∀ a, Sturdy (f a)) : Sturdy (x >>= f) := by
  intro s s' hdown
  obtain ⟨a, s₁, -, hrest⟩ := hx.breaksDown_bind_iff.mp hdown
  exact hf a s₁ s' hrest

/-- What is caught is no breakdown. -/
theorem tryCatch {f : Halt → Act σ α} (hx : Sturdy x)
    (hf : ∀ halt, (∀ reason, halt ≠ .crash reason) → Sturdy (f halt)) :
    Sturdy (MonadExcept.tryCatch x f) := by
  rintro s s' ⟨reason, hrun⟩
  rcases hfirst : x.run s with ⟨halt | a, s₁⟩
  · rw [run_tryCatch_of_error hfirst] at hrun
    have hhalt : ∀ reason, halt ≠ .crash reason := by
      intro reason' hcrash
      exact hx s s₁ ⟨reason', hcrash ▸ hfirst⟩
    exact hf halt hhalt s₁ s' ⟨reason, hrun⟩
  · rw [run_tryCatch_of_ok hfirst] at hrun
    cases hrun

end Sturdy

theorem breaksDown_get_bind_iff {f : σ → Act σ β} {s s' : σ} :
    BreaksDown (MonadState.get >>= f) s s' ↔ BreaksDown (f s) s s' := Iff.rfl

/-- In front of a sturdy part, a computation breaks down where the other part does. -/
theorem breaksDown_bind_iff_left {f : α → Act σ β} (hf : ∀ a, Sturdy (f a)) {s s' : σ} :
    BreaksDown (x >>= f) s s' ↔ BreaksDown x s s' := by
  rcases hfirst : x.run s with ⟨halt | a, s₁⟩
  · unfold BreaksDown
    rw [run_bind_of_error hfirst, hfirst]
    constructor <;> rintro ⟨reason, hrun⟩ <;> cases hrun <;> exact ⟨reason, rfl⟩
  · constructor
    · rintro ⟨reason, hrun⟩
      rw [run_bind_of_ok hfirst] at hrun
      exact absurd ⟨reason, hrun⟩ (hf a s₁ s')
    · rintro ⟨reason, hrun⟩
      cases hfirst.symm.trans hrun

/-! ## Hosts -/

/-- Waiting for a connection ends well, by its limit, or never. -/
theorem Connection.awaitGood_ne_crash (c : Connection) (now : Nat) (reason : String) :
    c.awaitGood now ≠ .error (.crash reason) := by
  have hawait : ∀ fuel now, c.await fuel now ≠ .error (.crash reason) := by
    intro fuel
    induction fuel with
    | zero =>
      intro now h
      cases h
    | succ fuel ih =>
      intro now h
      rw [await] at h
      split at h
      · cases h
      · split at h
        · split_ifs at h
          · cases h
          · exact ih _ h
        · exact ih _ h
  unfold awaitGood
  split
  · intro h
    cases h
  · exact hawait _ _

namespace Host

theorem sturdy_moveTo (target : Nat) : Sturdy (moveTo target) := by
  rintro h h' ⟨reason, hrun⟩
  rcases run_moveTo h target with ⟨hmoved, -⟩ | ⟨h'', hdropped⟩
  · cases hrun.symm.trans hmoved
  · cases hrun.symm.trans hdropped

theorem sturdy_elapse (micros : Nat) : Sturdy (elapse micros) :=
  Sturdy.get.bind fun _ => sturdy_moveTo _

theorem sturdy_notify (lines : Notices) : Sturdy (notify lines) := Sturdy.modify _

theorem sturdy_fail (fault : Fault) : Sturdy (fail fault : Act Host α) := by
  apply Sturdy.throw
  intro reason h
  cases h

theorem sturdy_orFail (r : Except Fault α) : Sturdy (orFail r) := by
  cases r with
  | ok value => exact Sturdy.pure value
  | error fault => exact sturdy_fail fault

theorem sturdy_begin (command : Command) : Sturdy (begin command) := by
  apply Sturdy.get.bind
  intro h
  split_ifs
  · exact sturdy_fail _
  · split
    · exact sturdy_fail _
    · exact (Sturdy.set _).bind fun _ => Sturdy.pure _

theorem sturdy_ensureDirectory (path : String) : Sturdy (ensureDirectory path) := by
  apply Sturdy.get.bind
  intro h
  apply (Sturdy.set _).bind
  intro _
  split
  · exact Sturdy.pure _
  · exact sturdy_fail _

theorem sturdy_awaitConnection : Sturdy awaitConnection := by
  apply Sturdy.get.bind
  intro h
  split
  · exact sturdy_moveTo _
  · rename_i halt hwait
    have hhalt : ∀ reason, halt ≠ .crash reason := by
      intro reason hcrash
      exact h.connection.awaitGood_ne_crash h.clock reason (hcrash ▸ hwait)
    split
    · split_ifs
      · exact sturdy_moveTo _
      · exact Sturdy.throw hhalt
    · exact Sturdy.throw hhalt

end Host

/-! ## Runs -/

/-- None of the means of a run breaks down. -/
structure Retry.Means.AreSturdy (means : Retry.Means σ α) : Prop where
  gate : Sturdy means.gate
  attempt : ∀ useVariant, Sturdy (means.attempt useVariant)
  notify : ∀ lines, Sturdy (means.notify lines)
  awaitService : Sturdy means.awaitService
  pause : ∀ delay, Sturdy (means.pause delay)
  jitter : Sturdy means.jitter

theorem Retry.sturdy_run {means : Retry.Means σ α} (hmeans : means.AreSturdy)
    (policy : RetryPolicy) (label : String) (hasVariant : Bool) (status : Int) (patience : Nat)
    (report : RunReport) :
    Sturdy (Retry.run means policy label hasVariant status patience report) := by
  induction patience generalizing report with
  | zero => exact Sturdy.stuck
  | succ patience ih =>
    apply hmeans.gate.bind
    intro _
    apply (hmeans.attempt _).bind
    intro outcome
    apply hmeans.jitter.bind
    intro jitter
    generalize advance policy label hasVariant jitter report outcome = p
    obtain ⟨report', lines, next⟩ := p
    apply (hmeans.notify lines).bind
    intro _
    cases next with
    | done value => exact Sturdy.pure _
    | awaitService => exact hmeans.awaitService.bind fun _ => ih report'
    | awaitQuota delay => exact (hmeans.pause delay).bind fun _ => ih report'
    | again => exact ih report'
    | spent =>
      apply Sturdy.throw
      intro reason h
      cases h

namespace Run

theorem areSturdy_means {attempt : Bool → Act Host (Attempt α)}
    (h : ∀ useVariant, Sturdy (attempt useVariant)) : (means attempt).AreSturdy where
  gate := Host.sturdy_awaitConnection
  attempt := h
  notify := Host.sturdy_notify
  awaitService := Sturdy.get.bind fun _ => Host.sturdy_elapse _
  pause := fun _ => Host.sturdy_elapse _
  jitter := Sturdy.get.bind fun _ => Sturdy.pure _

theorem sturdy_once (command : Command) : Sturdy (once command) := by
  apply (Host.sturdy_begin command).bind
  intro b
  split
  · exact Sturdy.stuck
  · exact (Host.sturdy_elapse _).bind fun _ => Sturdy.pure _

theorem sturdy_streamingAttempt (command : Command) (idle : Duration) :
    Sturdy (streamingAttempt command idle) := by
  apply (Host.sturdy_begin command).bind
  intro b
  split
  · exact (Host.sturdy_notify _).bind fun _ => (Host.sturdy_elapse _).bind fun _ => Sturdy.pure _
  · refine (Host.sturdy_notify _).bind fun _ => (Host.sturdy_elapse _).bind fun _ => ?_
    split
    · exact Sturdy.stuck
    · simp only
      split_ifs
      · exact (Host.sturdy_elapse _).bind fun _ => Sturdy.pure _
      · exact (Host.sturdy_elapse _).bind fun _ => Sturdy.pure _
      · exact Sturdy.pure _
      · exact Sturdy.pure _

theorem sturdy_streaming (policy : RetryPolicy) (command : Command) (variant : Option Command)
    (status : Int) : Sturdy (streaming policy command variant status) := by
  apply Sturdy.get.bind
  intro h
  have hattempt : ∀ useVariant : Bool, Sturdy (streamingAttempt
      (if useVariant then variant.getD command else command) policy.idleTimeout) :=
    fun useVariant => sturdy_streamingAttempt _ _
  exact (Retry.sturdy_run (areSturdy_means hattempt) policy _ _ status _ _).bind
    fun _ => Sturdy.pure _

end Run

end DataStaging
