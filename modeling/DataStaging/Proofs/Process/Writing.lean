import DataStaging.Proofs.Process.Starts

/-!
# What a computation writes

The only thing that adds to the notices of a host is writing them, and only beginning a command adds
to its starts. So waits and looks at the connection leave everything but the clock alone, and an
attempt begins its command, and after that it only waits and writes what it passes on. A run is
given up by none of them: that is left to the loop.

Results:
* `silent_awaitConnection`, `silent_elapse`: what a run does between its attempts.
* `begins_streamingAttempt`, `begins_bufferedAttempt`: attempts.
* `Begins.run_cases`: what is left of a host by an attempt.
-/

namespace DataStaging

/-! ## Writing -/

/-- A computation has ended because the charges of a run have reached the limit. -/
def Spent {β : Type} (r : Except Halt β) : Prop :=
  ∃ label attempts status, r = .error (.fault (.retriesExhausted label attempts status))

theorem not_spent_ok {β : Type} (b : β) : ¬Spent (.ok b : Except Halt β) := nofun

theorem not_spent_of {β : Type} {halt : Halt}
    (h : ∀ label attempts status, halt ≠ .fault (.retriesExhausted label attempts status)) :
    ¬Spent (.error halt : Except Halt β) := by
  rintro ⟨label, attempts, status, ⟨⟩⟩
  exact h label attempts status rfl

namespace Host

/-- The clock may have moved, and notices may have been written. -/
def Waits (h h' : Host) : Prop :=
  ∃ clock notices, h' = { h with clock := clock, notices := notices }

variable {lines lines' : Notices} {h h₁ h₂ : Host}

theorem Waits.refl (h : Host) : h.Waits h := ⟨h.clock, h.notices, rfl⟩

theorem Waits.trans (h₀₁ : h.Waits h₁) (h₁₂ : h₁.Waits h₂) : h.Waits h₂ := by
  obtain ⟨clock, notices, rfl⟩ := h₀₁
  obtain ⟨clock', notices', rfl⟩ := h₁₂
  exact ⟨clock', notices', rfl⟩

/-- From one host to the other these lines were written, and nothing else but the clock was
    changed. -/
structure Wrote (lines : Notices) (h h' : Host) : Prop where
  waits : h.Waits h'
  notices : h'.notices = h.notices ++ lines

theorem Wrote.of_clock (h : Host) (clock : Nat) : h.Wrote [] { h with clock := clock } :=
  ⟨⟨clock, h.notices, rfl⟩, (List.append_nil _).symm⟩

theorem Wrote.refl (h : Host) : h.Wrote [] h := .of_clock h h.clock

theorem Wrote.of_notices (h : Host) (lines : Notices) :
    h.Wrote lines { h with notices := h.notices ++ lines } := ⟨⟨h.clock, _, rfl⟩, rfl⟩

theorem Wrote.trans (h₀₁ : h.Wrote lines h₁) (h₁₂ : h₁.Wrote lines' h₂) :
    h.Wrote (lines ++ lines') h₂ :=
  ⟨h₀₁.waits.trans h₁₂.waits, by rw [h₁₂.notices, h₀₁.notices, List.append_assoc]⟩

end Host

/-- Wherever it starts, the computation only adds notices such as `P`, lets time pass and gives up
    no run. -/
def Writes {β : Type} (P : Notices → Prop) (x : Act Host β) : Prop :=
  ∀ h : Host, (∃ own, P own ∧ h.Wrote own (x.run h).2) ∧ ¬Spent (x.run h).1

/-- The computation writes nothing. -/
abbrev Silent {β : Type} (x : Act Host β) : Prop := Writes (· = []) x

/-- The computation may write anything. -/
abbrev Appends {β : Type} (x : Act Host β) : Prop := Writes (fun _ => True) x

section

variable {α β : Type} {x : Act Host α}

theorem Writes.get_bind {P : Notices → Prop} {f : Host → Act Host β} (hf : ∀ h, Writes P (f h)) :
    Writes P (get >>= f) :=
  fun h => hf h h

theorem Silent.wrote (hx : Silent x) (h : Host) : h.Wrote [] (x.run h).2 := by
  obtain ⟨⟨own, rfl, hown⟩, -⟩ := hx h
  exact hown

theorem silent_of (hwrote : ∀ h : Host, h.Wrote [] (x.run h).2) (hspent : ∀ h, ¬Spent (x.run h).1) :
    Silent x :=
  fun h => ⟨⟨[], rfl, hwrote h⟩, hspent h⟩

theorem silent_pure (a : α) : Silent (pure a : Act Host α) :=
  silent_of .refl fun _ => not_spent_ok a

theorem silent_throw {halt : Halt} (hhalt : ¬Spent (.error halt : Except Halt α)) :
    Silent (throw halt : Act Host α) :=
  silent_of .refl fun _ => hhalt

theorem silent_stuck : Silent (throw .stuck : Act Host α) := silent_throw (not_spent_of nofun)

theorem Host.wrote_advanceTo (h : Host) (target : Nat) : h.Wrote [] (h.advanceTo target).2 := by
  unfold advanceTo
  split
  · split_ifs <;> exact .of_clock _ _
  · exact .of_clock _ _

theorem silent_moveTo (target : Nat) : Silent (Host.moveTo target) := by
  intro h
  have hwrote := h.wrote_advanceTo target
  unfold Host.moveTo
  rw [run_get_bind]
  rcases hadvance : h.advanceTo target with ⟨dropped, h₁⟩
  rw [hadvance] at hwrote
  simp only
  rw [run_set_bind]
  cases dropped with
  | true => exact ⟨⟨[], rfl, hwrote⟩, not_spent_of nofun⟩
  | false => exact ⟨⟨[], rfl, hwrote⟩, not_spent_ok ()⟩

theorem silent_elapse (micros : Nat) : Silent (Host.elapse micros) :=
  .get_bind fun _ => silent_moveTo _

/-- A connection that is gone for too long ends a run otherwise. -/
theorem not_spent_await {c : Connection} {fuel now : Nat} {halt : Halt}
    (h : c.await fuel now = .error halt) : ¬Spent (.error halt : Except Halt α) := by
  induction fuel generalizing now with
  | zero => cases h; exact not_spent_of nofun
  | succ fuel ih =>
    unfold Connection.await at h
    split at h
    · cases h
    · split at h
      · split_ifs at h
        · cases h; exact not_spent_of nofun
        · exact ih h
      · exact ih h

theorem silent_awaitConnection : Silent Host.awaitConnection := by
  refine .get_bind fun h => ?_
  split
  · exact silent_moveTo _
  · rename_i halt hawait
    have hhalt : ¬Spent (.error halt : Except Halt Unit) := by
      unfold Connection.awaitGood at hawait
      split at hawait
      · cases hawait
      · exact not_spent_await hawait
    split
    · split_ifs
      · exact silent_moveTo _
      · exact silent_throw hhalt
    · exact silent_throw hhalt

/-! ## Attempts -/

theorem Silent.appends (hx : Silent x) : Appends x :=
  fun h => ⟨⟨[], trivial, hx.wrote h⟩, (hx h).2⟩

theorem Spent.of_error {halt : Halt} (h : Spent (.error halt : Except Halt α)) :
    Spent (.error halt : Except Halt β) := by
  obtain ⟨label, attempts, status, ⟨⟩⟩ := h
  exact ⟨label, attempts, status, rfl⟩

theorem Appends.bind {f : α → Act Host β} (hx : Appends x) (hf : ∀ a, Appends (f a)) :
    Appends (x >>= f) := by
  intro h
  obtain ⟨⟨own, -, hown⟩, hspent⟩ := hx h
  rcases hrun : x.run h with ⟨r, h₁⟩
  rw [hrun] at hown hspent
  cases r with
  | error halt =>
    rw [run_bind_of_error hrun]
    exact ⟨⟨own, trivial, hown⟩, mt Spent.of_error hspent⟩
  | ok a =>
    rw [run_bind_of_ok hrun]
    obtain ⟨⟨own', -, hown'⟩, hspent'⟩ := hf a h₁
    exact ⟨⟨own ++ own', trivial, hown.trans hown'⟩, hspent'⟩

theorem appends_notify (lines : Notices) : Appends (Host.notify lines) :=
  fun h => ⟨⟨lines, trivial, .of_notices h lines⟩, not_spent_ok ()⟩

/-- The computation begins the command, and after that it only waits and writes. -/
def Begins (c : Command) (x : Act Host α) : Prop :=
  ∃ f : Behaviour → Act Host α, x = Host.begin c >>= f ∧ ∀ b, Appends (f b)

theorem begins_bufferedAttempt (c : Command) : Begins c (Run.bufferedAttempt c) := by
  refine ⟨_, (bind_assoc _ _ _), fun b => Appends.bind (?_ : Appends _) fun o => ?_⟩
  · split
    · exact silent_stuck.appends
    · exact (silent_elapse _).appends.bind fun _ => (silent_pure _).appends
  · split_ifs
    · exact (silent_pure _).appends
    · exact (appends_notify _).bind fun _ => (silent_pure _).appends

theorem begins_streamingAttempt (c : Command) (idle : Duration) :
    Begins c (Run.streamingAttempt c idle) := by
  refine ⟨_, rfl, fun b => ?_⟩
  split
  · exact (appends_notify _).bind fun _ => (silent_elapse _).appends.bind fun _ =>
      (silent_pure _).appends
  · refine (appends_notify _).bind fun _ => (silent_elapse _).appends.bind fun _ => ?_
    split
    · exact silent_stuck.appends
    · simp only
      split_ifs
      · exact (silent_elapse _).appends.bind fun _ => (silent_pure _).appends
      · exact (silent_elapse _).appends.bind fun _ => (silent_pure _).appends
      · exact (silent_pure _).appends
      · exact (silent_pure _).appends

/-- An attempt cannot start its command and changes nothing, or the command was started, and lines
    were written since. -/
theorem Begins.run_cases {c : Command} (hx : Begins c x) (h : Host) :
    (∃ fault : IoFault, x.run h = (.error (.fault (.io fault)), h)) ∨
      (∃ b own, (h.afterRun c b 0).Wrote own (x.run h).2) ∧ ¬Spent (x.run h).1 := by
  obtain ⟨f, rfl, hf⟩ := hx
  by_cases hmissing : c.Missing h.programs
  · obtain ⟨fault, hbegin⟩ := Host.run_begin_of_missing hmissing
    exact Or.inl ⟨fault, run_bind_of_error (hbegin h rfl) f⟩
  · obtain ⟨hnul, hprogram⟩ := not_or.mp hmissing
    obtain ⟨program, hprogram⟩ := Option.ne_none_iff_exists'.mp hprogram
    rw [run_bind_of_ok (Host.run_begin (by simpa using hnul) hprogram)]
    obtain ⟨⟨own, -, hown⟩, hspent⟩ := hf _ _
    exact Or.inr ⟨⟨_, own, hown⟩, hspent⟩

/-- An attempt only adds to what was written, and gives up no run. -/
theorem Begins.exists_own {c : Command} (hx : Begins c x) (h : Host) :
    ∃ own, (x.run h).2.notices = h.notices ++ own ∧ ¬Spent (x.run h).1 := by
  rcases hx.run_cases h with ⟨fault, hrun⟩ | ⟨⟨b, own, hown⟩, hspent⟩
  · rw [hrun]
    exact ⟨[], (List.append_nil _).symm, not_spent_of nofun⟩
  · exact ⟨own, hown.notices, hspent⟩

end

end DataStaging
