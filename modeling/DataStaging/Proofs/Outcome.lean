import DataStaging.Process.Retry

/-!
# Computations in parts

A computation in two parts has succeeded only if both parts have.

Results:
* `exists_of_bind_ok`, `error_of_bind`: for computations that may fail.
* `exists_of_run_bind_ok`, `run_bind_of_ok`, `run_bind_of_error`: for computations that also change
  a state.
* `run_tryCatch_of_ok`, `run_tryCatch_of_error`: a computation that succeeds has nothing to catch.
-/

namespace DataStaging

theorem exists_of_bind_ok {ε α β : Type} {x : Except ε α} {f : α → Except ε β} {b : β}
    (h : x >>= f = .ok b) : ∃ a, x = .ok a ∧ f a = .ok b := by
  cases x with
  | error e => cases h
  | ok a => exact ⟨a, rfl, h⟩

theorem error_of_bind {ε α β : Type} {x : Except ε α} {f : α → Except ε β} {e : ε}
    (h : x >>= f = .error e) : x = .error e ∨ ∃ a, x = .ok a ∧ f a = .error e := by
  cases x with
  | error e' =>
    cases h
    exact Or.inl rfl
  | ok a => exact Or.inr ⟨a, rfl, h⟩

theorem exists_of_run_bind_ok {σ α β : Type} {x : Act σ α} {f : α → Act σ β} {b : β} {s s' : σ}
    (h : (x >>= f).run s = (.ok b, s')) :
    ∃ a s₁, x.run s = (.ok a, s₁) ∧ (f a).run s₁ = (.ok b, s') := by
  change ExceptT.bindCont f (x.run s).1 (x.run s).2 = _ at h
  rcases hx : x.run s with ⟨r, s₁⟩
  rw [hx] at h
  cases r with
  | error e => cases h
  | ok a => exact ⟨a, s₁, rfl, h⟩

theorem run_bind_of_ok {σ α β : Type} {x : Act σ α} {a : α} {s s₁ : σ}
    (h : x.run s = (.ok a, s₁)) (f : α → Act σ β) : (x >>= f).run s = (f a).run s₁ := by
  change ExceptT.bindCont f (x.run s).1 (x.run s).2 = _
  rw [h]
  rfl

theorem run_bind_of_error {σ α β : Type} {x : Act σ α} {halt : Halt} {s s₁ : σ}
    (h : x.run s = (.error halt, s₁)) (f : α → Act σ β) :
    (x >>= f).run s = (.error halt, s₁) := by
  change ExceptT.bindCont f (x.run s).1 (x.run s).2 = _
  rw [h]
  rfl

theorem run_get_bind {σ β : Type} (f : σ → Act σ β) (s : σ) : (get >>= f).run s = (f s).run s := rfl

theorem run_set_bind {σ β : Type} (s' : σ) (f : PUnit → Act σ β) (s : σ) :
    (set s' >>= f).run s = (f ⟨⟩).run s' := rfl

theorem run_modify_bind {σ β : Type} (g : σ → σ) (f : PUnit → Act σ β) (s : σ) :
    (modify g >>= f).run s = (f ⟨⟩).run (g s) := rfl

theorem run_tryCatch_of_ok {σ α : Type} {x : Act σ α} {a : α} {s s₁ : σ}
    (h : x.run s = (.ok a, s₁)) (f : Halt → Act σ α) :
    (tryCatch x f : Act σ α).run s = (.ok a, s₁) := by
  have hx : x s = (.ok a, s₁) := h
  change (ExceptT.tryCatch x f).run s = _
  unfold ExceptT.tryCatch
  rw [ExceptT.run_mk]
  change StateT.bind x _ s = _
  unfold StateT.bind
  rw [hx]
  rfl

theorem run_tryCatch_of_error {σ α : Type} {x : Act σ α} {halt : Halt} {s s₁ : σ}
    (h : x.run s = (.error halt, s₁)) (f : Halt → Act σ α) :
    (tryCatch x f : Act σ α).run s = (f halt).run s₁ := by
  have hx : x s = (.error halt, s₁) := h
  change (ExceptT.tryCatch x f).run s = _
  unfold ExceptT.tryCatch
  rw [ExceptT.run_mk]
  change StateT.bind x _ s = _
  unfold StateT.bind
  rw [hx]
  rfl

theorem eq_of_run_pure {σ α : Type} {a b : α} {s s' : σ}
    (h : (pure a : Act σ α).run s = (.ok b, s')) : a = b ∧ s = s' := by
  cases h
  exact ⟨rfl, rfl⟩

end DataStaging
