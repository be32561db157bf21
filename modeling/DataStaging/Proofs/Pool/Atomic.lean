import DataStaging.Proofs.Pool.Tasks
import Mathlib.Data.List.Basic

/-!
# Pools that handle an entry at once

If the handling of an entry is a single look at the shared state, then a pool that has ended without
a fault has left what handling the entries one after another leaves, in some order.

Results:
* `process_of_runs`: the shared state of a pool without a fault.
-/

namespace DataStaging

namespace Task

variable {σ : Type}

/-- Handling that may fail, and changes the state where it does not, in one step. -/
def atomic (f : σ → Except Fault σ) : Task σ :=
  .act (fun s => match f s with | .ok s' => s' | .error _ => s)
    (fun s => .done ((f s).map (fun _ => ())))

theorem atomic_alone (f : σ → Except Fault σ) (s : σ) :
    (atomic f).alone s = ((f s).map (fun _ => ()),
      match f s with | .ok s' => s' | .error _ => s) := rfl

end Task

namespace Manifest

theorem process_append {σ : Type} (handle : ManifestEntry → σ → Except Fault σ)
    (l l' : List ManifestEntry) (s : σ) :
    process handle (l ++ l') s = (process handle l s).bind (process handle l') := by
  induction l generalizing s with
  | nil => rfl
  | cons e l ih =>
    rw [List.cons_append, process_cons, process_cons]
    cases handle e s with
    | error fault => rfl
    | ok s' => exact ih s'

end Manifest

namespace Pool

variable {σ : Type} {job : Job σ} {n : Nat} {s s' : Pool σ}

/-! ## One after another -/

/-- The shared state is what the entries handled so far without a fault have made of `initial`, one
    after another. -/
def Linear (f : ManifestEntry → σ → Except Fault σ) (initial : σ) (s : Pool σ) : Prop :=
  ∃ order, Manifest.process f order initial = .ok s.shared ∧
    order.Perm (s.ended.filterMap endedOk? ++ s.workers.filterMap heldOk?)

theorem linear_start {f : ManifestEntry → σ → Except Fault σ} (initial : σ) :
    Linear f initial (start job n initial) :=
  ⟨[], rfl, .of_eq (settled_start initial).symm⟩

/-- An entry that is handled without a fault is the last one handled; one with a fault leaves the
    shared state as it was. -/
theorem linear_act {f : ManifestEntry → σ → Except Fault σ} {initial : σ}
    {before after : List (Worker σ)} {e : ManifestEntry}
    (hw : s.workers = before ++ .handling e (.atomic (f e)) :: after) (hs : Linear f initial s) :
    Linear f initial { s with
      workers := before ++ .handling e (.done ((f e s.shared).map (fun _ => ()))) :: after
      shared := match f e s.shared with | .ok s' => s' | .error _ => s.shared } := by
  obtain ⟨order, hprocess, hperm⟩ := hs
  have hsettled := settled_act hw
  cases hf : f e s.shared with
  | error fault =>
    rw [hf] at hsettled
    exact ⟨order, hprocess, hperm.trans (hsettled.trans (.of_eq (List.append_nil _))).symm⟩
  | ok shared =>
    rw [hf] at hsettled
    refine ⟨order ++ [e], ?_, (hperm.append_right [e]).trans hsettled.symm⟩
    rw [Manifest.process_append, hprocess]
    show Manifest.process f [e] s.shared = _
    rw [Manifest.process_cons, hf]
    rfl

theorem linear_step {f : ManifestEntry → σ → Except Fault σ} {initial : σ}
    (hjob : ∀ e, job.handle e = .atomic (f e))
    (hheld : Held (fun e task => task = .atomic (f e) ∨ ∃ o, task = .done o) s)
    (h : Step job s s') (hs : Linear f initial s) : Linear f initial s' := by
  rcases quiet_or_act h with hquiet | ⟨before, after, e, change, next, hw, rfl⟩
  · obtain ⟨order, hprocess, hperm⟩ := hs
    refine ⟨order, by rw [hquiet.shared, hprocess], hperm.trans (hquiet.settled fun e _ => ?_).symm⟩
    rw [hjob]
    rfl
  · rcases hheld e _ (hw ▸ List.mem_append_cons_self) with htask | ⟨o, htask⟩
    · obtain ⟨rfl, rfl⟩ := Task.act.inj htask
      exact linear_act hw hs
    · cases htask

theorem linear_of_runs {f : ManifestEntry → σ → Except Fault σ} {initial : σ}
    (hjob : ∀ e, job.handle e = .atomic (f e)) (h : Runs job (start job n initial) s) :
    Linear f initial s := by
  induction h with
  | refl => exact linear_start initial
  | tail hruns hstep ih =>
    refine linear_step hjob (held_of_runs (fun e _ => Or.inl (hjob e)) ?_ hruns) hstep ih
    rintro e change next s (htask | ⟨o, htask⟩)
    · obtain ⟨rfl, rfl⟩ := Task.act.inj htask
      exact Or.inr ⟨_, rfl⟩
    · cases htask

/-- A pool that handles every entry at once and ends without a fault has handled the entries one
    after another, in some order. -/
theorem process_of_runs {f : ManifestEntry → σ → Except Fault σ} {initial : σ}
    (hjob : ∀ e, job.handle e = .atomic (f e)) (h : Runs job (start job n initial) s)
    (hr : s.result = some (.ok ())) :
    ∃ order, order.Perm job.entries ∧ Manifest.process f order initial = .ok s.shared := by
  obtain ⟨order, hprocess, hperm⟩ := linear_of_runs hjob h
  obtain ⟨-, hall, hok⟩ := ended_of_result_ok h hr
  change order.Perm s.settled at hperm
  rw [settled_of_result h hr hok] at hperm
  exact ⟨order, hperm.trans hall, hprocess⟩

end Pool

end DataStaging
