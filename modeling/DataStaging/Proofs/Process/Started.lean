import DataStaging.Proofs.Outcome
import DataStaging.Process.Run
import Mathlib.Tactic.SplitIfs

/-!
# What a computation starts

The agent never sets its own variables, and the only thing that adds to the starts of a host is
beginning a command. So what the programs see that a computation starts is told by the commands that
it begins, whatever it comes to.

Results:
* `Starts.bind`, `Starts.tryCatch`: computations in parts.
* `starts_begin`, `starts_once`: a command.
* `starts_streaming`: a run under the retry policy, with its variant.
-/

namespace DataStaging

/-- The start of a command where the agent has these variables. -/
def Command.startWith (env : List (String × String)) (c : Command) : Start :=
  ⟨c.program, c.args, Host.overlay env c.env⟩

/-- From one host to a later one, the variables stay, and the programs started are as `P` says. -/
structure Host.Grows (P : Start → Prop) (h h' : Host) : Prop where
  env : h'.env = h.env
  starts : ∃ new, h'.starts = h.starts ++ new ∧ ∀ s ∈ new, P s

/-- Where the agent has these variables, the computation only starts programs as `P` says. -/
def Starts {α : Type} (env : List (String × String)) (P : Start → Prop) (x : Act Host α) : Prop :=
  ∀ h : Host, h.env = env → h.Grows P (x.run h).2

variable {env : List (String × String)} {P : Start → Prop} {α β : Type} {x : Act Host α}

namespace Host.Grows

variable {h h₁ h₂ : Host}

theorem of_eq (henv : h₁.env = h.env) (hstarts : h₁.starts = h.starts) : h.Grows P h₁ :=
  ⟨henv, [], by rw [hstarts, List.append_nil], fun s hs => absurd hs List.not_mem_nil⟩

theorem refl (h : Host) : h.Grows P h := of_eq rfl rfl

theorem trans (h₀₁ : h.Grows P h₁) (h₁₂ : h₁.Grows P h₂) : h.Grows P h₂ := by
  obtain ⟨new, hnew, hall⟩ := h₀₁.starts
  obtain ⟨new', hnew', hall'⟩ := h₁₂.starts
  refine ⟨h₁₂.env.trans h₀₁.env, new ++ new', by rw [hnew', hnew, List.append_assoc], ?_⟩
  exact fun s hs => (List.mem_append.mp hs).elim (hall s) (hall' s)

/-- Where nothing may be started, nothing was. -/
theorem starts_eq {h h' : Host} (hgrows : h.Grows (fun _ => False) h') : h'.starts = h.starts := by
  obtain ⟨new, hstarts, hnone⟩ := hgrows.starts
  rw [hstarts, List.eq_nil_iff_forall_not_mem.mpr hnone, List.append_nil]

end Host.Grows

/-! ## Computations in parts -/

namespace Starts

theorem pure (a : α) : Starts env P (Pure.pure a : Act Host α) := fun h _ => .refl h

theorem throw (e : Halt) : Starts env P (MonadExcept.throw e : Act Host α) := fun h _ => .refl h

theorem bind {f : α → Act Host β} (hx : Starts env P x) (hf : ∀ a, Starts env P (f a)) :
    Starts env P (x >>= f) := by
  intro h henv
  have hgrows := hx h henv
  rcases hrun : x.run h with ⟨o, h₁⟩
  rw [hrun] at hgrows
  cases o with
  | ok a =>
    rw [run_bind_of_ok hrun]
    exact hgrows.trans (hf a h₁ (hgrows.env.trans henv))
  | error e =>
    rw [run_bind_of_error hrun]
    exact hgrows

theorem tryCatch {f : Halt → Act Host α} (hx : Starts env P x) (hf : ∀ e, Starts env P (f e)) :
    Starts env P (tryCatch x f) := by
  intro h henv
  have hgrows := hx h henv
  rcases hrun : x.run h with ⟨o, h₁⟩
  rw [hrun] at hgrows
  cases o with
  | ok a =>
    rw [run_tryCatch_of_ok hrun]
    exact hgrows
  | error e =>
    rw [run_tryCatch_of_error hrun]
    exact hgrows.trans (hf e h₁ (hgrows.env.trans henv))

theorem get_bind {f : Host → Act Host β} (hf : ∀ h, Starts env P (f h)) :
    Starts env P (get >>= f) :=
  fun h henv => hf h h henv

/-- A computation that looks at the host and then sets another one. -/
theorem get_set_bind {g : Host → Host} {f : Host → Act Host β}
    (hg : ∀ h : Host, h.env = env → h.Grows P (g h)) (hf : ∀ h, Starts env P (f h)) :
    Starts env P (get >>= fun h => set (g h) >>= fun _ => f h) := by
  intro h henv
  exact (hg h henv).trans (hf h (g h) ((hg h henv).env.trans henv))

end Starts

/-! ## Time, notices and files -/

theorem Host.grows_advanceTo (h : Host) (target : Nat) : h.Grows P (h.advanceTo target).2 := by
  unfold advanceTo
  split
  · split_ifs <;> exact .of_eq rfl rfl
  · exact .of_eq rfl rfl

theorem starts_moveTo (target : Nat) : Starts env P (Host.moveTo target) := by
  refine .get_set_bind (fun h _ => h.grows_advanceTo target) fun h => ?_
  split_ifs
  · exact .throw _
  · exact .pure _

theorem starts_elapse (micros : Nat) : Starts env P (Host.elapse micros) :=
  .get_bind fun _ => starts_moveTo _

theorem starts_notify (lines : Notices) : Starts env P (Host.notify lines) :=
  fun _ _ => .of_eq rfl rfl

theorem starts_orFail (r : Except Fault α) : Starts env P (Host.orFail r) := by
  cases r with
  | ok value => exact .pure value
  | error fault => exact .throw _

theorem starts_ensureDirectory (path : String) : Starts env P (Host.ensureDirectory path) := by
  refine .get_set_bind (g := fun h => { h with tree := (h.tree.ensureDirectory h.folder path).2 })
    (fun h _ => .of_eq rfl rfl) fun h => ?_
  split
  · exact .pure _
  · exact .throw _

theorem starts_awaitConnection : Starts env P Host.awaitConnection := by
  refine .get_bind fun h => ?_
  split
  · exact starts_moveTo _
  · split
    · split_ifs
      · exact starts_moveTo _
      · exact .throw _
    · exact .throw _

/-! ## Commands -/

/-- Beginning a command starts it, or nothing. -/
theorem starts_begin {c : Command} (hc : P (c.startWith env)) : Starts env P (Host.begin c) := by
  intro h henv
  unfold Host.begin
  rw [run_get_bind]
  split_ifs
  · exact .refl h
  split
  · exact .refl h
  · rw [run_set_bind]
    subst henv
    refine ⟨rfl, [c.startWith h.env], rfl, fun s hs => ?_⟩
    obtain rfl := List.mem_singleton.mp hs
    exact hc

theorem starts_once {c : Command} (hc : P (c.startWith env)) : Starts env P (Run.once c) := by
  refine (starts_begin hc).bind fun b => ?_
  split
  · exact .throw _
  · exact (starts_elapse _).bind fun _ => .pure _

/-- After its beginning, an attempt whose lines are passed on starts nothing. -/
theorem exists_streamingAttempt_eq (c : Command) (idle : Duration) :
    ∃ f : Behaviour → Act Host (Attempt Unit), Run.streamingAttempt c idle = Host.begin c >>= f ∧
      ∀ {env : List (String × String)} {P : Start → Prop} b, Starts env P (f b) := by
  refine ⟨_, rfl, fun b => ?_⟩
  split
  · exact (starts_notify _).bind fun _ => (starts_elapse _).bind fun _ => .pure _
  · refine (starts_notify _).bind fun _ => (starts_elapse _).bind fun _ => ?_
    split
    · exact .throw _
    · simp only
      split_ifs
      · exact (starts_elapse _).bind fun _ => .pure _
      · exact (starts_elapse _).bind fun _ => .pure _
      · exact .pure _
      · exact .pure _

theorem starts_streamingAttempt {c : Command} (hc : P (c.startWith env)) (idle : Duration) :
    Starts env P (Run.streamingAttempt c idle) := by
  obtain ⟨f, heq, hf⟩ := exists_streamingAttempt_eq c idle
  rw [heq]
  exact (starts_begin hc).bind hf

section

variable (policy : RetryPolicy) (label : String) (hasVariant : Bool) (status : Int) (patience : Nat)

/-- After an attempt, a run starts what its further attempts start. -/
theorem exists_run_succ_eq (attempt : Bool → Act Host (Attempt α)) (report : RunReport) :
    ∃ f : Attempt α → Act Host (α × RunReport),
      Retry.run (Run.means attempt) policy label hasVariant status (patience + 1) report =
        (Host.awaitConnection >>= fun _ => attempt report.usedVariant >>= f) ∧
      ∀ {env : List (String × String)} {P : Start → Prop},
        (∀ report, Starts env P
          (Retry.run (Run.means attempt) policy label hasVariant status patience report)) →
        ∀ o, Starts env P (f o) := by
  refine ⟨_, rfl, fun hrest o => ?_⟩
  refine Starts.bind (.get_bind fun _ => .pure _) fun jitter => ?_
  generalize Retry.advance policy label hasVariant jitter report o = p
  obtain ⟨report', lines, next⟩ := p
  refine (starts_notify lines).bind fun _ => ?_
  cases next with
  | done value => exact .pure _
  | awaitService =>
    exact Starts.bind (.get_bind fun _ => starts_elapse _) fun _ => hrest report'
  | awaitQuota delay => exact (starts_elapse _).bind fun _ => hrest report'
  | again => exact hrest report'
  | spent => exact .throw _

/-- A run starts what its attempts start. -/
theorem starts_run {attempt : Bool → Act Host (Attempt α)}
    (hattempt : ∀ useVariant, Starts env P (attempt useVariant))
    (report : RunReport) : Starts env P
      (Retry.run (Run.means attempt) policy label hasVariant status patience report) := by
  induction patience generalizing report with
  | zero => exact .throw _
  | succ patience ih =>
    obtain ⟨f, heq, hf⟩ :=
      exists_run_succ_eq policy label hasVariant status patience attempt report
    rw [heq]
    exact starts_awaitConnection.bind fun _ => (hattempt _).bind (hf ih)

end

theorem starts_streaming {c v : Command} (hc : P (c.startWith env)) (hv : P (v.startWith env))
    (policy : RetryPolicy) (status : Int) :
    Starts env P (Run.streaming policy c (some v) status) := by
  have hattempt : ∀ useVariant : Bool, Starts env P
      (Run.streamingAttempt (if useVariant then (some v).getD c else c) policy.idleTimeout) := by
    intro useVariant
    cases useVariant with
    | false => exact starts_streamingAttempt hc _
    | true => exact starts_streamingAttempt hv _
  exact .get_bind fun h => (starts_run policy _ _ status _ hattempt _).bind fun _ => .pure _

end DataStaging
