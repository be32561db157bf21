import DataStaging.Proofs.Pool.Account

/-!
# What the workers owe

A quantity of the shared state may be out of balance while an entry is handled: a change puts it off
by something, and a later change of the same task puts that right. What a task has still to put
right is what it owes. The quantity and what the workers owe are in balance throughout, and when all
have left, none of them owes anything.

Results:
* `owed_replace`: a worker in the place of another.
* `balance_of_runs`: the balance at any time.
* `worth_of_result`: the quantity is as it was when there is a result.
-/

namespace DataStaging

variable {σ : Type}

/-- Whatever the task sees, the changes that it will still make add `due` to the quantity in all. -/
def Task.Owes (worth : σ → Int) : Int → Task σ → Prop
  | due, done _ => due = 0
  | due, act change next => ∀ s, (next s).Owes worth (due + (worth s - worth (change s)))

/-- A worker owes what its task owes, and nothing without one. -/
def Worker.Owes (worth : σ → Int) (due : Int) : Worker σ → Prop
  | handling _ task => task.Owes worth due
  | _ => due = 0

namespace Pool

variable {worth : σ → Int} {job : Job σ} {n : Nat} {s s' : Pool σ} {shared : σ}

/-- The workers owe so much together. -/
def Owed (worth : σ → Int) : List (Worker σ) → Int → Prop
  | [], total => total = 0
  | w :: rest, total => ∃ due, w.Owes worth due ∧ Owed worth rest (total - due)

theorem owed_zero {workers : List (Worker σ)} (h : ∀ w ∈ workers, w.Owes worth 0) :
    Owed worth workers 0 := by
  induction workers with
  | nil => rfl
  | cons w rest ih =>
    refine ⟨0, h w List.mem_cons_self, ?_⟩
    rw [Int.sub_zero]
    exact ih fun w' hw' => h w' (List.mem_cons_of_mem w hw')

/-- Where all have left, nothing is owed. -/
theorem eq_zero_of_left {workers : List (Worker σ)} (h : ∀ w ∈ workers, w.hasLeft = true)
    {total : Int} (howed : Owed worth workers total) : total = 0 := by
  induction workers generalizing total with
  | nil => exact howed
  | cons w rest ih =>
    obtain ⟨due, hdue, hrest⟩ := howed
    have hleft := h w List.mem_cons_self
    have hzero : due = 0 := by
      cases w with
      | left o => exact hdue
      | _ => cases hleft
    have htotal := ih (fun w' hw' => h w' (List.mem_cons_of_mem w hw')) hrest
    omega

/-- A worker in the place of another owes what the other owes, and more by the difference. -/
theorem owed_replace {before after : List (Worker σ)} {w w' : Worker σ} {total d : Int}
    (howed : Owed worth (before ++ w :: after) total)
    (hw : ∀ due, w.Owes worth due → w'.Owes worth (due + d)) :
    Owed worth (before ++ w' :: after) (total + d) := by
  induction before generalizing total with
  | nil =>
    obtain ⟨due, hdue, hrest⟩ := howed
    refine ⟨due + d, hw due hdue, ?_⟩
    rwa [Int.add_sub_add_right]
  | cons first before ih =>
    obtain ⟨due, hdue, hrest⟩ := howed
    refine ⟨due, hdue, ?_⟩
    rw [show total + d - due = total - due + d by omega]
    exact ih hrest

/-- The workers owe what the quantity is off by. -/
def Balanced (worth : σ → Int) (shared : σ) (s : Pool σ) : Prop :=
  Owed worth s.workers (worth shared - worth s.shared)

theorem balanced_start (job : Job σ) (n : Nat) (shared : σ) :
    Balanced worth shared (start job n shared) := by
  unfold Balanced
  rw [show worth (start job n shared).shared = worth shared from rfl, Int.sub_self]
  refine owed_zero fun w hw => ?_
  rw [List.eq_of_mem_replicate hw]
  exact rfl

theorem balanced_step (hjob : ∀ e, (job.handle e).Owes worth 0) (h : Step job s s')
    (hs : Balanced worth shared s) : Balanced worth shared s' := by
  unfold Balanced at *
  -- a worker that owes as much as the one before, while nothing is changed
  have hsame : ∀ {before after : List (Worker σ)} {w w' : Worker σ},
      s.workers = before ++ w :: after → (∀ due, w.Owes worth due → w'.Owes worth due) →
      Owed worth (before ++ w' :: after) (worth shared - worth s.shared) := by
    intro before after w w' hw howes
    rw [hw] at hs
    have := owed_replace (d := 0) hs fun due hdue => (Int.add_zero due).symm ▸ howes due hdue
    rwa [Int.add_zero] at this
  cases h with
  | send | turnAway | finish | close | conclude => exact hs
  | look hw =>
    refine hsame hw fun due hdue => ?_
    cases s.aborted
    · exact hdue
    · exact hdue
  | grasp hw _ | starve hw _ _ | succeed hw | fail hw => exact hsame hw fun due hdue => hdue
  | take hw _ =>
    refine hsame hw fun due hdue => ?_
    obtain rfl : due = 0 := hdue
    exact hjob _
  | @act before after e change next hw =>
    rw [hw] at hs
    have howed : Owed worth (before ++ .handling e (next s.shared) :: after)
        (worth shared - worth s.shared + (worth s.shared - worth (change s.shared))) :=
      owed_replace hs fun due hdue => hdue s.shared
    have hcancel : ∀ a b c : Int, a - b + (b - c) = a - c := fun _ _ _ => by omega
    rwa [hcancel] at howed

theorem balance_of_runs (hjob : ∀ e, (job.handle e).Owes worth 0)
    (h : Runs job (start job n shared) s) : Balanced worth shared s := by
  induction h with
  | refl => exact balanced_start job n shared
  | tail _ hstep ih => exact balanced_step hjob hstep ih

/-- Where every entry's handling puts right what it puts off, the quantity is as it was when there
    is a result, of whatever kind. -/
theorem worth_of_result (hjob : ∀ e, (job.handle e).Owes worth 0)
    (h : Runs job (start job n shared) s) {r : Except Fault Unit} (hr : s.result = some r) :
    worth s.shared = worth shared := by
  have acc := account_of_runs h
  have hzero := eq_zero_of_left (acc.staffed.left_of_closed (acc.concluded r hr).1)
    (balance_of_runs hjob h)
  omega

end Pool

end DataStaging
