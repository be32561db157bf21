import DataStaging.Proofs.Process.CalmHost

/-!
# The account of a run

A run makes attempts until one succeeds or the charged ones reach the policy's limit. What it comes
to depends on the outcomes of its attempts alone: on the first success, on the number of charged
outcomes before it, and not on the waits in between. Each outcome before the success is counted
once, so that the counters of a run of fewer than `2 ^ 32` attempts fit in 32 bits.

Results:
* `run_of_undecided`: a run that is undecided after some attempts goes on with their report.
* `returnsAfter_iff`: when a run returns, with what, and after how many attempts.
* `returns_of_outcomes`: the result and the report of a run, read off its outcomes; waits that are
  put in or left out change neither the result nor what was charged.
-/

namespace DataStaging.Retry

variable {σ τ α β : Type} {policy : RetryPolicy} {label : String} {hasVariant : Bool}
  {status : Int} {means : Means σ α} {f : Nat → Attempt α} {made : σ → Nat} {ready : σ → Prop}
  {s : σ}

/-! ## Undecided runs -/

/-- Among the first `n` outcomes there is no success, and fewer than `limit` are charged. -/
def Undecided (limit : Nat) (f : Nat → Attempt α) (n : Nat) : Prop :=
  (∀ o ∈ first f n, o.isSuccess = false) ∧ (first f n).countP Attempt.isCharged < limit

theorem undecided_zero {limit : Nat} (hlimit : 1 ≤ limit) (f : Nat → Attempt α) :
    Undecided limit f 0 :=
  ⟨fun _ ho => absurd ho List.not_mem_nil, hlimit⟩

theorem settled?_eq_some_iff {os : List (Attempt α)} {o : Attempt α}
    {r : Except Fault (α × RunReport)} :
    settled? policy label hasVariant status os o = some r ↔
      (∃ value, o = .succeeded value ∧ r = .ok (value, .ofOutcomes hasVariant os)) ∨
        (o.isCharged = true ∧ policy.maxRetries ≤ (os ++ [o]).countP Attempt.isCharged ∧
          r = .error (.retriesExhausted label policy.maxRetries status)) := by
  rcases o.kinds with ⟨value, rfl⟩ | ⟨hwait, hcharged⟩ | ⟨hcharged, -⟩
  · simp only [settled?, Option.some.injEq, Attempt.succeeded.injEq, exists_eq_left',
      Attempt.isCharged, Bool.false_eq_true, false_and, or_false]
    exact eq_comm
  · rw [settled?_of_isWait hwait, hcharged]
    have hsuccess := Attempt.isSuccess_of_isWait hwait
    constructor
    · rintro ⟨⟩
    · rintro (⟨value, rfl, -⟩ | ⟨⟨⟩, -⟩)
      cases hsuccess
  · rw [settled?_of_isCharged hcharged]
    have hsuccess := Attempt.isSuccess_of_isCharged hcharged
    constructor
    · intro h
      split_ifs at h with hlimit
      exact Or.inr ⟨hcharged, hlimit, (Option.some.inj h).symm⟩
    · rintro (⟨value, rfl, -⟩ | ⟨-, hlimit, rfl⟩)
      · cases hsuccess
      · rw [if_pos hlimit]

theorem settled?_eq_none_iff {os : List (Attempt α)} {o : Attempt α} :
    settled? policy label hasVariant status os o = none ↔ o.isSuccess = false ∧
      (o.isCharged = true → (os ++ [o]).countP Attempt.isCharged < policy.maxRetries) := by
  rcases o.kinds with ⟨value, rfl⟩ | ⟨hwait, hcharged⟩ | ⟨hcharged, -⟩
  · simp [settled?, Attempt.isSuccess]
  · simp [settled?_of_isWait hwait, Attempt.isSuccess_of_isWait hwait, hcharged]
  · simp [settled?_of_isCharged hcharged, Attempt.isSuccess_of_isCharged hcharged, hcharged]

/-- A run stays undecided exactly if the next outcome settles nothing. -/
theorem undecided_succ_iff {n : Nat} : Undecided policy.maxRetries f (n + 1) ↔
    Undecided policy.maxRetries f n ∧
      settled? policy label hasVariant status (first f n) (f n) = none := by
  simp only [Undecided, first_succ, settled?_eq_none_iff, List.forall_mem_append,
    List.forall_mem_singleton, List.countP_append, List.countP_singleton]
  cases hcharged : (f n).isCharged with
  | false => simp [and_right_comm]
  | true =>
    simp only [if_true, true_implies]
    constructor
    · rintro ⟨⟨hbefore, hlast⟩, hcount⟩
      exact ⟨⟨hbefore, Nat.lt_of_succ_lt hcount⟩, hlast, hcount⟩
    · rintro ⟨⟨hbefore, -⟩, hlast, hcount⟩
      exact ⟨⟨hbefore, hlast⟩, hcount⟩

variable (label hasVariant status f) in
/-- A run is undecided, or it was settled by an earlier outcome. -/
theorem undecided_or_settled (hlimit : 1 ≤ policy.maxRetries) (n : Nat) :
    Undecided policy.maxRetries f n ∨ ∃ k < n, Undecided policy.maxRetries f k ∧
      ∃ r, settled? policy label hasVariant status (first f k) (f k) = some r := by
  induction n with
  | zero => exact Or.inl (undecided_zero hlimit f)
  | succ n ih =>
    rcases ih with h | ⟨k, hk, h⟩
    · cases hn : settled? policy label hasVariant status (first f n) (f n) with
      | none => exact Or.inl (undecided_succ_iff.mpr ⟨h, hn⟩)
      | some r => exact Or.inr ⟨n, n.lt_succ_self, h, r, hn⟩
    · exact Or.inr ⟨k, Nat.lt_succ_of_lt hk, h⟩

variable (label status) in
/-- A run that is undecided after `n` attempts goes on with the report of their outcomes. -/
theorem run_of_undecided (h : means.Meets hasVariant f made ready) (hs : ready s)
    (hmade : made s = 0) {n : Nat} (hn : Undecided policy.maxRetries f n) (patience : Nat) :
    ∃ s', ready s' ∧ made s' = n ∧
      (run means policy label hasVariant status (n + patience) .start).run s =
        (run means policy label hasVariant status patience (.ofOutcomes hasVariant (first f n))).run
          s' := by
  induction n generalizing patience with
  | zero =>
    refine ⟨s, hs, hmade, ?_⟩
    rw [Nat.zero_add, first, List.range_zero, List.map_nil, RunReport.ofOutcomes_nil]
  | succ n ih =>
    obtain ⟨hbefore, hnone⟩ := undecided_succ_iff.mp hn
    obtain ⟨s₁, hs₁, rfl, hrun⟩ := ih hbefore (patience + 1)
    obtain ⟨s₂, hs₂, hmade₂, hnext⟩ := run_succ policy label status h hs₁ patience
    rw [hnone] at hnext
    refine ⟨s₂, hs₂, hmade₂, ?_⟩
    rw [Nat.add_right_comm, Nat.add_assoc, hrun, hnext]

/-! ## When a run returns -/

/-- With patience enough the run returns `r`, and `n` attempts were made by then. -/
def ReturnsAfter (made : σ → Nat) (x : Nat → Act σ β) (s : σ) (n : Nat) (r : Except Fault β) :
    Prop :=
  ∀ patience, n ≤ patience → ∃ s', (x patience).run s = (r.mapError Halt.fault, s') ∧
    made s' = made s + n

theorem mapError_fault_injective {r r' : Except Fault β}
    (h : r.mapError Halt.fault = r'.mapError Halt.fault) : r = r' := by
  cases r <;> cases r' <;> cases h <;> rfl

/-- A run returns one thing, after one number of attempts. -/
theorem ReturnsAfter.unique {x : Nat → Act σ β} {n n' : Nat} {r r' : Except Fault β}
    (h : ReturnsAfter made x s n r) (h' : ReturnsAfter made x s n' r') : n = n' ∧ r = r' := by
  obtain ⟨s₁, hrun, hmade⟩ := h (max n n') (Nat.le_max_left n n')
  obtain ⟨s₂, hrun', hmade'⟩ := h' (max n n') (Nat.le_max_right n n')
  obtain ⟨hr, rfl⟩ := Prod.ext_iff.mp (hrun.symm.trans hrun')
  exact ⟨Nat.add_left_cancel (hmade.symm.trans hmade'), mapError_fault_injective hr⟩

/-- The run of these means with a patience. -/
abbrev runOf (means : Means σ α) (policy : RetryPolicy) (label : String) (hasVariant : Bool)
    (status : Int) (patience : Nat) : Act σ (α × RunReport) :=
  run means policy label hasVariant status patience .start

theorem returnsAfter_of_settled (h : means.Meets hasVariant f made ready) (hs : ready s)
    (hmade : made s = 0) {n : Nat} {r : Except Fault (α × RunReport)}
    (hn : Undecided policy.maxRetries f n)
    (hr : settled? policy label hasVariant status (first f n) (f n) = some r) :
    ReturnsAfter made (runOf means policy label hasVariant status) s (n + 1) r := by
  intro patience hpatience
  obtain ⟨rest, rfl⟩ := Nat.exists_eq_add_of_le hpatience
  obtain ⟨s₁, hs₁, rfl, hrun⟩ := run_of_undecided label status h hs hmade hn (rest + 1)
  obtain ⟨s₂, -, hmade₂, hnext⟩ := run_succ policy label status h hs₁ rest
  rw [hr] at hnext
  refine ⟨s₂, ?_, by rw [hmade₂, hmade, Nat.zero_add]⟩
  rw [Nat.add_assoc, Nat.add_comm 1 rest, runOf, hrun, hnext]

/-- A run returns with the outcome that settles it. -/
theorem returnsAfter_iff (hlimit : 1 ≤ policy.maxRetries)
    (h : means.Meets hasVariant f made ready) (hs : ready s) (hmade : made s = 0) {n : Nat}
    {r : Except Fault (α × RunReport)} :
    ReturnsAfter made (runOf means policy label hasVariant status) s n r ↔
      ∃ k, n = k + 1 ∧ Undecided policy.maxRetries f k ∧
        settled? policy label hasVariant status (first f k) (f k) = some r := by
  constructor
  · intro hreturns
    rcases undecided_or_settled label hasVariant status f hlimit n with hn | ⟨k, -, hk, r', hr'⟩
    · -- a run that is undecided with its patience at an end has returned nothing
      obtain ⟨s₁, -, -, hrun⟩ := run_of_undecided label status h hs hmade hn 0
      obtain ⟨s₂, hrun', -⟩ := hreturns n (Nat.le_refl n)
      have hstuck := (Prod.ext_iff.mp (hrun'.symm.trans hrun)).1
      cases r <;> cases hstuck
    · obtain ⟨rfl, rfl⟩ := hreturns.unique (returnsAfter_of_settled h hs hmade hk hr')
      exact ⟨k, rfl, hk, hr'⟩
  · rintro ⟨k, rfl, hk, hr⟩
    exact returnsAfter_of_settled h hs hmade hk hr

/-! ## The result and the report -/

theorem returnsAfter_ok_iff (hlimit : 1 ≤ policy.maxRetries)
    (h : means.Meets hasVariant f made ready) (hs : ready s) (hmade : made s = 0) {n : Nat}
    {value : α} {report : RunReport} :
    ReturnsAfter made (runOf means policy label hasVariant status) s n (.ok (value, report)) ↔
      ∃ k, n = k + 1 ∧ Undecided policy.maxRetries f k ∧ f k = .succeeded value ∧
        report = .ofOutcomes hasVariant (first f k) := by
  simp only [returnsAfter_iff hlimit h hs hmade, settled?_eq_some_iff, Except.ok.injEq,
    Prod.mk.injEq, reduceCtorEq, and_false, or_false]
  constructor
  · rintro ⟨k, hn, hk, value, ho, rfl, hreport⟩
    exact ⟨k, hn, hk, ho, hreport⟩
  · rintro ⟨k, hn, hk, ho, hreport⟩
    exact ⟨k, hn, hk, value, ho, rfl, hreport⟩

theorem returnsAfter_error_iff (hlimit : 1 ≤ policy.maxRetries)
    (h : means.Meets hasVariant f made ready) (hs : ready s) (hmade : made s = 0) {n : Nat}
    {fault : Fault} :
    ReturnsAfter made (runOf means policy label hasVariant status) s n (.error fault) ↔
      fault = .retriesExhausted label policy.maxRetries status ∧
        ∃ k, n = k + 1 ∧ Undecided policy.maxRetries f k ∧ (f k).isCharged = true ∧
          (first f (k + 1)).countP Attempt.isCharged = policy.maxRetries := by
  simp only [returnsAfter_iff hlimit h hs hmade, settled?_eq_some_iff, Except.error.injEq,
    reduceCtorEq, and_false, exists_false, false_or, first_succ]
  constructor
  · rintro ⟨k, hn, hk, hcharged, hcount, rfl⟩
    refine ⟨rfl, k, hn, hk, hcharged, Nat.le_antisymm ?_ hcount⟩
    rw [List.countP_append, List.countP_singleton, if_pos hcharged]
    exact hk.2
  · rintro ⟨rfl, k, hn, hk, hcharged, hcount⟩
    exact ⟨k, hn, hk, hcharged, Nat.le_of_eq hcount.symm, rfl⟩

/-! ## Waits -/

/-- Two sequences come to the same outcome after the same outcomes, but for waits that were put in
    or left out. -/
def SameButWaits (f : Nat → Attempt α) (n : Nat) (g : Nat → Attempt α) (n' : Nat) : Prop :=
  f n = g n' ∧ (first f n).filter (fun o => !o.isWait) = (first g n').filter (fun o => !o.isWait)

namespace SameButWaits

variable {g : Nat → Attempt α} {n n' : Nat}

/-- Outcomes that are no waits are as many in both. -/
theorem countP_eq (h : SameButWaits f n g n') {p : Attempt α → Bool}
    (hp : ∀ o, p o = true → o.isWait = false) :
    (first f n).countP p = (first g n').countP p := by
  have hfilter : ∀ os : List (Attempt α),
      os.countP p = (os.filter (fun o => !o.isWait)).countP p := by
    intro os
    rw [List.countP_filter]
    refine List.countP_congr fun o _ => ?_
    constructor
    · intro ho
      rw [ho, hp o ho]
      rfl
    · intro ho
      exact (Bool.and_eq_true_iff.mp ho).1
  rw [hfilter, h.2, ← hfilter]

theorem undecided {limit : Nat} (h : SameButWaits f n g n') (hn : Undecided limit f n) :
    Undecided limit g n' := by
  rw [Undecided, h.countP_eq fun _ => Attempt.isWait_of_isCharged] at hn
  refine ⟨?_, hn.2⟩
  have hzero : (first f n).countP Attempt.isSuccess = 0 := by
    rw [List.countP_eq_zero]
    intro o ho
    rw [hn.1 o ho]
    exact Bool.false_ne_true
  rw [h.countP_eq fun _ => Attempt.isWait_of_isSuccess, List.countP_eq_zero] at hzero
  exact fun o ho => Bool.eq_false_iff.mpr (hzero o ho)

/-- The outcomes up to the last one are the same but for waits, too. -/
theorem countP_succ_eq (h : SameButWaits f n g n') {p : Attempt α → Bool}
    (hp : ∀ o, p o = true → o.isWait = false) :
    (first f (n + 1)).countP p = (first g (n' + 1)).countP p := by
  rw [first_succ, first_succ, List.countP_append, List.countP_append, h.countP_eq hp, h.1]

end SameButWaits

/-! ## The account -/

/-- With a good connection and commands that can be started, a run succeeds with the first success
    if fewer outcomes than the limit are charged before it, and its report counts the outcomes
    before it, each of them once; and it is given up at the charged outcome that reaches the limit.
    No attempt follows. Waits that are put in or left out change neither the result nor what was
    charged. -/
theorem returns_of_outcomes (hlimit : 1 ≤ policy.maxRetries)
    (h : means.Meets hasVariant f made ready) (hs : ready s) (hmade : made s = 0) :
    (∀ n value report,
      ReturnsAfter made (runOf means policy label hasVariant status) s n (.ok (value, report)) ↔
        ∃ k, n = k + 1 ∧ Undecided policy.maxRetries f k ∧ f k = .succeeded value ∧
          report = .ofOutcomes hasVariant (first f k)) ∧
    (∀ n fault,
      ReturnsAfter made (runOf means policy label hasVariant status) s n (.error fault) ↔
        fault = .retriesExhausted label policy.maxRetries status ∧
          ∃ k, n = k + 1 ∧ Undecided policy.maxRetries f k ∧ (f k).isCharged = true ∧
            (first f (k + 1)).countP Attempt.isCharged = policy.maxRetries) ∧
    (∀ n value report,
      ReturnsAfter made (runOf means policy label hasVariant status) s n (.ok (value, report)) →
        report.failedAttempts + report.rateLimited + report.serviceWaits + 1 = n) ∧
    ∀ (τ : Type) (means' : Means τ α) (g : Nat → Attempt α) (made' : τ → Nat) (ready' : τ → Prop)
      (s' : τ), means'.Meets hasVariant g made' ready' → ready' s' → made' s' = 0 →
      ∀ k k', SameButWaits f k g k' →
        (∀ value report,
          ReturnsAfter made (runOf means policy label hasVariant status) s (k + 1)
            (.ok (value, report)) →
          ∃ report', ReturnsAfter made' (runOf means' policy label hasVariant status) s' (k' + 1)
              (.ok (value, report')) ∧
            report'.failedAttempts = report.failedAttempts ∧ report'.timeouts = report.timeouts) ∧
        ∀ fault,
          ReturnsAfter made (runOf means policy label hasVariant status) s (k + 1)
            (.error fault) →
          ReturnsAfter made' (runOf means' policy label hasVariant status) s' (k' + 1)
            (.error fault) := by
  refine ⟨fun _ _ _ => returnsAfter_ok_iff hlimit h hs hmade,
    fun _ _ => returnsAfter_error_iff hlimit h hs hmade, fun n value report hreturns => ?_, ?_⟩
  case refine_1 =>
    obtain ⟨k, rfl, hundecided, -, rfl⟩ := (returnsAfter_ok_iff hlimit h hs hmade).mp hreturns
    rw [RunReport.total_ofOutcomes hasVariant hundecided.1, first, List.length_map,
      List.length_range]
  intro τ means' g made' ready' s' h' hs' hmade' k k' hsame
  constructor
  · intro value report hreturns
    obtain ⟨i, hi, hundecided, hvalue, rfl⟩ := (returnsAfter_ok_iff hlimit h hs hmade).mp hreturns
    obtain rfl := Nat.succ.inj hi
    refine ⟨.ofOutcomes hasVariant (first g k'), ?_, ?_, ?_⟩
    · exact (returnsAfter_ok_iff hlimit h' hs' hmade').mpr
        ⟨k', rfl, hsame.undecided hundecided, hsame.1 ▸ hvalue, rfl⟩
    · exact (hsame.countP_eq fun _ => Attempt.isWait_of_isCharged).symm
    · exact (hsame.countP_eq fun _ => Attempt.isWait_of_isSilence).symm
  · intro fault hreturns
    obtain ⟨hfault, i, hi, hundecided, hcharged, hcount⟩ :=
      (returnsAfter_error_iff hlimit h hs hmade).mp hreturns
    obtain rfl := Nat.succ.inj hi
    refine (returnsAfter_error_iff hlimit h' hs' hmade').mpr
      ⟨hfault, k', rfl, hsame.undecided hundecided, hsame.1 ▸ hcharged, ?_⟩
    rw [← hsame.countP_succ_eq fun _ => Attempt.isWait_of_isCharged, hcount]

/-- A host that is calm, and whose programs perform the outcomes `f`. -/
def stage (f : Nat → Attempt Unit) : Host where
  tree := .empty
  folder := []
  env := []
  programs _ := some (Run.performing f)
  clock := 0
  epoch := 0
  connection := ⟨[], ⟨0⟩, none⟩
  reaches _ := true
  processors := 1
  jitter := 0
  stopAt := none
  dropsOnStop := false
  patience := 0
  starts := []
  notices := []

theorem stage_calm (f : Nat → Attempt Unit) :
    (stage f).Calm (fun _ => some (Run.performing f)) := ⟨rfl, rfl, rfl⟩

/-- A transfer with a variant that resumes it, on such a host. -/
abbrev transferMeans : Means Host Unit :=
  Run.streamingMeans (.ofProgram "transfer") (some ((Command.ofProgram "transfer").withArg "-r"))
    Defaults.idleTimeout

theorem meets_transfer {f : Nat → Attempt Unit} (hf : ∀ n, f n ≠ .exited (some 0)) :
    transferMeans.Meets true f Host.startCount
      (Host.Calm (fun _ => some (Run.performing f))) := by
  refine Run.meets_streaming (Run.plays_performing (by decide) (by decide) hf) ?_
  rintro c ⟨⟩
  exact Run.plays_performing (by decide) (by decide) hf

/-- A rate limit, a signal, a service out of reach, a silence, and success. -/
def troubled : Nat → Attempt Unit
  | 0 => .exited (some ExitStatus.rateLimited)
  | 1 => .exited none
  | 2 => .exited (some ExitStatus.serviceUnreachable)
  | 3 => .timedOut
  | _ => .succeeded ()

/-- The same without waits. -/
def unhindered : Nat → Attempt Unit
  | 0 => .exited none
  | 1 => .timedOut
  | _ => .succeeded ()

/-- With a limit of three the transfer succeeds in the fifth attempt, or without the waits in the
    third; with a limit of two it is given up after the fourth. -/
theorem returns_between_waits :
    ReturnsAfter Host.startCount
      (runOf transferMeans (RetryPolicy.standard.withMaxRetries 3) "transfer" true 1)
      (stage troubled) 5 (.ok ((), ⟨2, 1, 1, 1, true⟩)) ∧
    ReturnsAfter Host.startCount
      (runOf transferMeans (RetryPolicy.standard.withMaxRetries 2) "transfer" true 1)
      (stage troubled) 4 (.error (.retriesExhausted "transfer" 2 1)) ∧
    ∃ report, ReturnsAfter Host.startCount
        (runOf transferMeans (RetryPolicy.standard.withMaxRetries 3) "transfer" true 1)
        (stage unhindered) 3 (.ok ((), report)) ∧
      report.failedAttempts = 2 ∧ report.timeouts = 1 := by
  have htroubled : ∀ n, troubled n ≠ .exited (some 0) := by
    intro n
    unfold troubled
    split <;> decide
  have hunhindered : ∀ n, unhindered n ≠ .exited (some 0) := by
    intro n
    unfold unhindered
    split <;> decide
  have hthree : 1 ≤ (RetryPolicy.standard.withMaxRetries 3).maxRetries := by decide
  have htwo : 1 ≤ (RetryPolicy.standard.withMaxRetries 2).maxRetries := by decide
  have hsucceeds : ReturnsAfter Host.startCount
      (runOf transferMeans (RetryPolicy.standard.withMaxRetries 3) "transfer" true 1)
      (stage troubled) 5 (.ok ((), ⟨2, 1, 1, 1, true⟩)) :=
    ((returns_of_outcomes hthree (meets_transfer htroubled) (stage_calm troubled) rfl).1 _ _ _).mpr
      ⟨4, rfl, ⟨by decide, by decide⟩, rfl, by decide⟩
  refine ⟨hsucceeds, ?_, ?_⟩
  · exact ((returns_of_outcomes htwo (meets_transfer htroubled) (stage_calm troubled)
      rfl).2.1 _ _).mpr ⟨rfl, 3, rfl, ⟨by decide, by decide⟩, rfl, by decide⟩
  · exact ((returns_of_outcomes hthree (meets_transfer htroubled) (stage_calm troubled)
      rfl).2.2.2 Host transferMeans unhindered Host.startCount _ (stage unhindered)
      (meets_transfer hunhindered) (stage_calm unhindered) rfl 4 2 ⟨rfl, by decide⟩).1 _ _ hsucceeds

end DataStaging.Retry
