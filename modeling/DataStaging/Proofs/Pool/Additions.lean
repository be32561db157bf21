import DataStaging.Proofs.Pool.Tasks

/-!
# What each entry adds

Where the handling of an entry makes one change that counts, as its last one, the shared state tells
what the entries handled so far have added to it, whatever the order in which the workers made their
changes, and also if an entry occurs more than once.

Results:
* `exists_order_of_runs`: what the entries settled so far have added.
* `exists_order_of_result_ok`: a pool without a fault has all that its entries add.
-/

namespace DataStaging

namespace Task

variable {σ : Type}

/-- Whatever the task sees, it makes changes of `G`, and as its last one a change of `F`, after
    which it is done without a fault; or it ends with a fault. -/
def Adds (G F : σ → σ → Prop) : Task σ → Prop
  | done o => ∃ fault, o = .error fault
  | act change next => ∀ s,
      (next s = .done (.ok ()) ∧ F s (change s)) ∨ (G s (change s) ∧ (next s).Adds G F)

end Task

namespace Pool

variable {σ : Type} {job : Job σ} {n : Nat} {s s' : Pool σ} {shared : σ}
  {G F : ManifestEntry → σ → σ → Prop} {Φ : List ManifestEntry → σ → Prop}

theorem heldOk?_of_adds {e : ManifestEntry} {task : Task σ} {g f : σ → σ → Prop}
    (h : task.Adds g f) : heldOk? (.handling e task) = none := by
  cases task with
  | done o =>
    obtain ⟨fault, rfl⟩ := h
    rfl
  | act change next => rfl

/-- The entries settled so far have left a state of which `Φ` holds. -/
def Added (Φ : List ManifestEntry → σ → Prop) (s : Pool σ) : Prop :=
  ∃ order, order.Perm s.settled ∧ Φ order s.shared

theorem added_step (hjob : ∀ e ∈ job.entries, (job.handle e).Adds (G e) (F e))
    (hkeeps : ∀ e order a b, Φ order a → G e a b → Φ order b)
    (hsettles : ∀ e order a b, Φ order a → F e a b → Φ (order ++ [e]) b)
    (hruns : Runs job (start job n shared) s) (h : Step job s s') (hs : Added Φ s) :
    Added Φ s' := by
  obtain ⟨order, hperm, hΦ⟩ := hs
  rcases quiet_or_act h with hquiet | ⟨before, after, e, change, next, hw, rfl⟩
  · refine ⟨order, hperm.trans (hquiet.settled fun e he => ?_).symm, hquiet.shared ▸ hΦ⟩
    exact heldOk?_of_adds (hjob e (mem_entries_of_queue (account_of_runs hruns).inOrder he))
  · have hheld : Held (fun e task => task = .done (.ok ()) ∨ task.Adds (G e) (F e)) s := by
      refine held_of_runs (fun e he => Or.inr (hjob e he)) ?_ hruns
      rintro e change next s (hdone | hadds)
      · cases hdone
      · exact (hadds s).imp And.left And.right
    have hsettled := settled_act hw
    rcases hheld e _ (hw ▸ List.mem_append_cons_self) with hdone | hadds
    · cases hdone
    rcases hadds s.shared with ⟨hdone, hlast⟩ | ⟨hmore, hgoes⟩
    · rw [hdone] at hsettled ⊢
      exact ⟨order ++ [e], (hperm.append_right [e]).trans hsettled.symm,
        hsettles e order _ _ hΦ hlast⟩
    · rw [heldOk?_of_adds hgoes] at hsettled
      exact ⟨order, hperm.trans (hsettled.trans (.of_eq (List.append_nil _))).symm,
        hkeeps e order _ _ hΦ hmore⟩

theorem exists_order_of_runs (hjob : ∀ e ∈ job.entries, (job.handle e).Adds (G e) (F e))
    (hkeeps : ∀ e order a b, Φ order a → G e a b → Φ order b)
    (hsettles : ∀ e order a b, Φ order a → F e a b → Φ (order ++ [e]) b) (hnone : Φ [] shared)
    (h : Runs job (start job n shared) s) : Added Φ s := by
  induction h with
  | refl => exact ⟨[], .of_eq (settled_start shared).symm, hnone⟩
  | tail hruns hstep ih => exact added_step hjob hkeeps hsettles hruns hstep ih

/-- A pool without a fault has all that its entries add, in some order. -/
theorem exists_order_of_result_ok (hjob : ∀ e ∈ job.entries, (job.handle e).Adds (G e) (F e))
    (hkeeps : ∀ e order a b, Φ order a → G e a b → Φ order b)
    (hsettles : ∀ e order a b, Φ order a → F e a b → Φ (order ++ [e]) b) (hnone : Φ [] shared)
    (h : Runs job (start job n shared) s) (hr : s.result = some (.ok ())) :
    ∃ order, order.Perm job.entries ∧ Φ order s.shared := by
  obtain ⟨order, hperm, hΦ⟩ := exists_order_of_runs hjob hkeeps hsettles hnone h
  obtain ⟨-, hall, hok⟩ := ended_of_result_ok h hr
  rw [settled_of_result h hr hok] at hperm
  exact ⟨order, hperm.trans hall, hΦ⟩

end Pool

end DataStaging
