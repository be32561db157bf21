import DataStaging.Proofs.Process.Accounting
import DataStaging.Proofs.Process.Tries

/-!
# What a run announces

Everything that a run writes between its attempts is told by the outcomes so far. The first attempt
that cannot reach its service is announced, and no later one. Of the attempts that are told to slow
down the first is announced, the sixth, the eleventh and so on. Every charged attempt is announced
under its number, and when the numbers have reached the limit, one more line says that the run has
failed.

The attempts are those that the run makes: each is the run of its command from a host that differs
from the one after the attempt before it by the clock and the lines in between, what is started is
what they start, and the last of them tells the result. A run that ends otherwise was halted by a
wait, or is out of patience.

A policy allows at least one attempt: where its limit is zero, the first charge reaches it. The
numbers in the lines are those of a run of fewer than `2 ^ 32` attempts.

Results:
* `due_advance`: what is written after one outcome.
* `exists_announced`: what a run writes, whatever its attempts write.
* `announced_of_runs`: what a run on a host writes, in either form.
-/

namespace DataStaging

namespace Retry

variable {α : Type} {policy : RetryPolicy} {label : String} {hasVariant : Bool} {status : Int}

/-! ## What is written after an outcome -/

/-- The line about the `number`-th charged attempt. -/
def chargeNotice (policy : RetryPolicy) (label : String) (number : Nat) : Attempt α → String
  | .exited status => exitNotice policy label status number
  | _ => silenceNotice policy label number

/-- What is written of an outcome `o` after the outcomes `os`, where `ends` says whether the run is
    given up with it. -/
structure Due (policy : RetryPolicy) (label : String) (jitter : Float) (os : List (Attempt α))
    (o : Attempt α) (ends : Prop) (lines : Notices) : Prop where
  succeeded : o.isSuccess = true → lines = []
  unreachable : o.isUnreachable = true →
    lines = if os.countP Attempt.isUnreachable = 0 then [unreachableNotice] else []
  rateLimited : o.isRateLimited = true → ∀ i, i = os.countP Attempt.isRateLimited + 1 →
    lines = if i % 5 = 1 then
      [rateLimitNotice (policy.backoffUnit.scale (backoffUnits (i - 1) jitter)) i] else []
  charged : o.isCharged = true → ∀ n, n = os.countP Attempt.isCharged + 1 →
    n ≤ max policy.maxRetries 1 ∧ (ends ↔ n = max policy.maxRetries 1) ∧
      (ends → lines = [chargeNotice policy label n o, spentNotice policy label]) ∧
      (¬ends → lines = [chargeNotice policy label n o])

/-- The charges have not reached the limit. -/
def Goes (policy : RetryPolicy) (os : List (Attempt α)) : Prop :=
  os.countP Attempt.isCharged < max policy.maxRetries 1

theorem charge_lines (report : RunReport) (notice : String) :
    (charge (α := α) policy label report notice).2.1 =
      if policy.maxRetries ≤ report.failedAttempts then [notice, spentNotice policy label]
      else [notice] := by
  unfold charge
  split_ifs <;> rfl

section

variable {os : List (Attempt α)} {o : Attempt α} (jitter : Float)

/-- What is written of a charged outcome. -/
theorem due_charge (hos : Goes policy os) (hcharged : o.isCharged = true) {report : RunReport}
    (hreport : report.failedAttempts = os.countP Attempt.isCharged + 1) :
    Due policy label jitter os o
      ((charge (α := α) policy label report
        (chargeNotice policy label report.failedAttempts o)).2.2 = .spent)
      (charge (α := α) policy label report
        (chargeNotice policy label report.failedAttempts o)).2.1 where
  succeeded h := by rw [Attempt.isSuccess_of_isCharged hcharged] at h; cases h
  unreachable h := by
    have hwait := Attempt.isWait_of_isCharged hcharged
    rw [Attempt.isWait, h] at hwait
    cases hwait
  rateLimited h := by
    have hwait := Attempt.isWait_of_isCharged hcharged
    rw [Attempt.isWait, h, Bool.or_true] at hwait
    cases hwait
  charged _ n hn := by
    rw [Goes] at hos
    rw [hreport, ← hn, charge_next, charge_lines, hreport, ← hn]
    by_cases hlimit : policy.maxRetries ≤ n
    · rw [if_pos hlimit, if_pos hlimit]
      exact ⟨by omega, ⟨fun _ => by omega, fun _ => rfl⟩, fun _ => rfl, fun h => absurd rfl h⟩
    · rw [if_neg hlimit, if_neg hlimit]
      exact ⟨by omega, iff_of_false (by simp) (by omega), by simp, fun _ => rfl⟩

/-- What is written after one outcome. -/
theorem due_advance (hos : Goes policy os) :
    Due policy label jitter os o
      ((advance policy label hasVariant jitter (.ofOutcomes hasVariant os) o).2.2 = .spent)
      (advance policy label hasVariant jitter (.ofOutcomes hasVariant os) o).2.1 := by
  cases o with
  | succeeded value => exact ⟨fun _ => rfl, nofun, nofun, nofun⟩
  | timedOut => exact due_charge jitter hos rfl rfl
  | exited exit =>
    by_cases h1 : exit = some ExitStatus.serviceUnreachable
    · subst h1
      exact ⟨nofun, fun _ => rfl, nofun, nofun⟩
    by_cases h2 : exit = some ExitStatus.rateLimited
    · subst h2
      refine ⟨nofun, nofun, ?_, nofun⟩
      rintro - i rfl
      have hevery : os.countP Attempt.isRateLimited % Defaults.rateLimitNoticeEvery = 0 ↔
          (os.countP Attempt.isRateLimited + 1) % 5 = 1 := by
        rw [Defaults.rateLimitNoticeEvery]
        omega
      simp only [advance, if_neg h1, if_true, RunReport.ofOutcomes, hevery, Nat.add_sub_cancel]
    · simp only [advance, if_neg h1, if_neg h2]
      exact due_charge jitter hos (by simp [Attempt.isCharged, h1, h2]) rfl

/-- A run that is not given up has not reached the limit. -/
theorem Due.goes {ends : Prop} {lines : Notices} (h : Due policy label jitter os o ends lines)
    (hos : Goes policy os) (hends : ¬ends) : Goes policy (os ++ [o]) := by
  rw [Goes] at hos
  rw [Goes, List.countP_append, List.countP_singleton]
  cases hcharged : o.isCharged with
  | false =>
    rw [if_neg Bool.false_ne_true]
    exact hos
  | true =>
    obtain ⟨hle, hlimit, -, -⟩ := h.charged hcharged _ rfl
    rw [if_pos rfl]
    exact Nat.lt_of_le_of_ne hle (mt hlimit.mpr hends)

end

/-! ## What is written during a run -/

/-- An attempt of a run, what it wrote itself, and what the run wrote after it. -/
structure Told (α : Type) extends Tried Host α where
  own : Notices
  lines : Notices

/-- The outcomes of the attempts that came to one. -/
def Told.outcomes (calls : List (Told α)) : List (Attempt α) :=
  Retry.outcomes (calls.map Told.toTried)

/-- From one host to another by these attempts, where `lines` are written before the first of them,
    and between two of them the lines about the former. But for this, only time passes. -/
def Chained : Host → Notices → List (Told α) → Host → Prop
  | h, lines, [], h' => h.Wrote lines h'
  | h, lines, x :: rest, h' => h.Wrote lines x.before ∧
      x.after.notices = x.before.notices ++ x.own ∧ Chained x.after x.lines rest h'

/-- In the end these lines have been added. -/
theorem Chained.eq {h h' : Host} {lines : Notices} {calls : List (Told α)}
    (hchained : Chained h lines calls h') :
    h'.notices = h.notices ++ lines ++ calls.flatMap fun x => x.own ++ x.lines := by
  induction calls generalizing h lines with
  | nil => exact hchained.notices.trans (List.append_nil _).symm
  | cons x rest ih =>
    obtain ⟨hbefore, hown, hrest⟩ := hchained
    simp only [ih hrest, hown, hbefore.notices, List.flatMap_cons, List.append_assoc]

/-- A wait for the connection halts, or one for a time. -/
inductive HaltsWaiting (h : Host) (halt : Halt) (h' : Host) : Prop where
  | connection : Host.awaitConnection.run h = (.error halt, h') → HaltsWaiting h halt h'
  | time {micros : Nat} : (Host.elapse micros).run h = (.error halt, h') → HaltsWaiting h halt h'

/-- The computation waits: it writes nothing, and is halted by nothing else. -/
structure IsWait {β : Type} (x : Act Host β) : Prop where
  silent : Silent x
  halts : ∀ h halt h', x.run h = (.error halt, h') → HaltsWaiting h halt h'

theorem isWait_awaitConnection : IsWait Host.awaitConnection :=
  ⟨silent_awaitConnection, fun _ _ _ => .connection⟩

theorem isWait_elapse (micros : Nat) : IsWait (Host.elapse micros) :=
  ⟨silent_elapse micros, fun _ _ _ => .time⟩

theorem isWait_awaitService (attempt : Bool → Act Host (Attempt α)) :
    IsWait (Run.means attempt).awaitService where
  silent := .get_bind fun _ => silent_elapse _
  halts h halt h' hrun := by
    rw [Run.means, run_get_bind] at hrun
    exact .time hrun

variable {β : Type} {attempt : Bool → Act Host (Attempt α)} {os : List (Attempt α)}
  {o : Attempt α} {h h' : Host} {lines : Notices} {patience : Nat} {halt : Halt}
  {p : Except Halt (α × RunReport) × Host} {calls : List (Told α)} {x : Told α}

variable (hasVariant attempt os h lines) in
/-- A run that has met the outcomes `os` makes this attempt, once it has written `lines` after the
    host `h`. -/
structure Told.Made (x : Told α) : Prop where
  before : h.Wrote lines x.before
  run : (attempt x.useVariant).run x.before = (x.result, x.after)
  variant : x.useVariant = (RunReport.ofOutcomes hasVariant os).usedVariant
  own : x.after.notices = x.before.notices ++ x.own

variable (policy label hasVariant status attempt) in
/-- What a run that has met the outcomes `os` comes to after the host `h`, once it has written
    `lines`: its attempts from here on, with everything that is written. -/
structure Announced (patience : Nat) (os : List (Attempt α)) (h : Host) (lines : Notices)
    (p : Except Halt (α × RunReport) × Host) (calls : List (Told α)) : Prop extends
    Tries attempt Host.Waits hasVariant os h p (calls.map Told.toTried) where
  chained : Chained h lines calls p.2
  due : ∀ earlier x later o, calls = earlier ++ x :: later → x.result = .ok o →
    Due policy label x.after.jitter (os ++ Told.outcomes earlier) o (Spent p.1 ∧ later = []) x.lines
  /-- Nothing is written about an attempt that comes to no outcome. -/
  halted : ∀ x ∈ calls, ∀ halt, x.result = .error halt → x.lines = []
  spent : Spent p.1 → p.1 = .error (.fault (.retriesExhausted label policy.maxRetries status)) ∧
    ∃ earlier last o, calls = earlier ++ [last] ∧ last.result = .ok o ∧ o.isCharged = true
  /-- What else ends a run that fails. -/
  halts : ∀ halt, p.1 = .error halt → Spent p.1 ∨
    (∃ earlier last, calls = earlier ++ [last] ∧ last.result = .error halt) ∨
    (halt = .stuck ∧ calls.length = patience) ∨
    ∃ h₁, Chained h lines calls h₁ ∧ HaltsWaiting h₁ halt p.2

namespace Announced

/-- A run that comes to its end without another attempt. -/
theorem nil (hp : p.1 = .error halt) (hspent : ¬Spent p.1) (hwrote : h.Wrote lines p.2)
    (hhalts : halt = .stuck ∧ patience = 0 ∨ ∃ h₁, h.Wrote lines h₁ ∧ HaltsWaiting h₁ halt p.2) :
    Announced policy label hasVariant status attempt patience os h lines p [] where
  toTries := .nil hwrote.waits hp
  chained := hwrote
  due earlier x later o h := absurd h (by simp)
  halted x hx := absurd hx List.not_mem_nil
  spent h := absurd h hspent
  halts halt' hp' := by
    obtain rfl := Except.error.inj (hp.symm.trans hp')
    exact Or.inr (Or.inr (hhalts.imp_left fun h => ⟨h.1, h.2.symm⟩))

/-- A run that comes to its end with one attempt more: a success, one that comes to no outcome, or
    the charge that reaches the limit. -/
theorem single (hx : x.Made hasVariant attempt os h lines) (hend : x.after.Wrote x.lines p.2)
    (hends : ∀ value report, p.1 = .ok (value, report) →
      x.result = .ok (.succeeded value) ∧ report = .ofOutcomes hasVariant os)
    (hfails : ∀ halt, p.1 = .error halt → x.result = .error halt ∨
      halt = .fault (.retriesExhausted label policy.maxRetries status) ∧
        ∃ o, x.result = .ok o ∧ o.isCharged = true)
    (hhalted : ∀ halt, x.result = .error halt → x.lines = [] ∧ ¬Spent p.1)
    (hdue : ∀ o, x.result = .ok o → Due policy label x.after.jitter os o (Spent p.1) x.lines) :
    Announced policy label hasVariant status attempt patience os h lines p [x] where
  toTries := .single hx.before.waits hend.waits hx.run hx.variant hends
  chained := ⟨hx.before, hx.own, hend⟩
  due earlier y later o h hy := by
    obtain ⟨rfl, rfl, rfl⟩ := eq_of_single h
    simpa [Told.outcomes, Retry.outcomes] using hdue o hy
  halted := List.forall_mem_singleton.mpr fun halt hhalt => (hhalted halt hhalt).1
  spent hspent := by
    obtain ⟨label', attempts, status', hp⟩ := hspent
    rcases hfails _ hp with hhalt | ⟨hhalt, o, ho, hcharged⟩
    · exact absurd ⟨label', attempts, status', hp⟩ (hhalted _ hhalt).2
    · exact ⟨hp.trans (congrArg _ hhalt), [], x, o, rfl, ho, hcharged⟩
  halts halt hp := by
    rcases hfails halt hp with hhalt | ⟨rfl, -⟩
    · exact Or.inr (Or.inl ⟨[], x, rfl, hhalt⟩)
    · exact Or.inl ⟨_, _, _, hp⟩

/-- An attempt before the rest of a run. -/
theorem cons (hx : x.Made hasVariant attempt os h lines) (hresult : x.result = .ok o)
    (ho : o.isSuccess = false) (hdue : Due policy label x.after.jitter os o False x.lines)
    (hrest : Announced policy label hasVariant status attempt patience (os ++ [o]) x.after x.lines p
      calls) :
    Announced policy label hasVariant status attempt (patience + 1) os h lines p (x :: calls) where
  toTries := .cons hx.before.waits hx.run hx.variant hresult ho hrest.toTries
  chained := ⟨hx.before, hx.own, hrest.chained⟩
  due earlier y later o' hsplit hy := by
    cases earlier with
    | nil =>
      obtain ⟨rfl, rfl⟩ := List.cons.inj hsplit
      obtain rfl := Except.ok.inj (hresult.symm.trans hy)
      have hends : (Spent p.1 ∧ calls = []) = False := by
        refine eq_false fun hends => ?_
        obtain ⟨-, earlier, last, -, hlast, -⟩ := hrest.spent hends.1
        rw [hends.2] at hlast
        simp at hlast
      rw [hends]
      simpa [Told.outcomes, Retry.outcomes] using hdue
    | cons z earlier =>
      obtain ⟨rfl, hlater⟩ := List.cons.inj hsplit
      have houtcomes : Told.outcomes (x :: earlier) = o :: Told.outcomes earlier := by
        rw [Told.outcomes, Retry.outcomes, List.map_cons,
          List.filterMap_cons_some (b := o) (by rw [hresult]; rfl)]
        rfl
      rw [houtcomes, ← List.singleton_append, ← List.append_assoc]
      exact hrest.due earlier y later o' hlater hy
  halted := by
    refine List.forall_mem_cons.mpr ⟨fun halt hhalt => ?_, hrest.halted⟩
    cases hresult.symm.trans hhalt
  spent hspent := by
    obtain ⟨hp, earlier, last, o', rfl, hlast⟩ := hrest.spent hspent
    exact ⟨hp, x :: earlier, last, o', rfl, hlast⟩
  halts halt hp := by
    rcases hrest.halts halt hp with hspent | ⟨earlier, last, rfl, hlast⟩ | ⟨hstuck, hlength⟩ |
      ⟨h₁, hchained, hhalts⟩
    · exact Or.inl hspent
    · exact Or.inr (Or.inl ⟨x :: earlier, last, rfl, hlast⟩)
    · exact Or.inr (Or.inr (Or.inl ⟨hstuck, congrArg Nat.succ hlength⟩))
    · exact Or.inr (Or.inr (Or.inr ⟨h₁, ⟨hx.before, hx.own, hchained⟩, hhalts⟩))

/-- A run that is ended by an attempt without an outcome. -/
theorem of_halt (hx : x.Made hasVariant attempt os h lines) (hresult : x.result = .error halt)
    (hlines : x.lines = []) (hspent : ¬Spent x.result) :
    Announced policy label hasVariant status attempt patience os h lines (.error halt, x.after)
      [x] := by
  have hend : x.after.Wrote x.lines x.after := hlines ▸ .refl x.after
  refine .single hx hend nofun ?_ ?_ ?_
  · rintro halt' ⟨⟩
    exact Or.inl hresult
  · rw [hresult] at hspent
    exact fun _ _ => ⟨hlines, mt Spent.of_error hspent⟩
  · exact fun o ho => by cases hresult.symm.trans ho

/-- A run that succeeds. -/
theorem of_success {value : α} (hx : x.Made hasVariant attempt os h lines)
    (hresult : x.result = .ok (.succeeded value)) (hlines : x.lines = [])
    (hend : x.after.Wrote x.lines h') : Announced policy label hasVariant status attempt
      patience os h lines (.ok (value, .ofOutcomes hasVariant os), h') [x] := by
  refine .single hx hend ?_ nofun ?_ ?_
  · rintro value' report ⟨⟩
    exact ⟨hresult, rfl⟩
  · exact fun halt hhalt => by cases hresult.symm.trans hhalt
  · intro o ho
    obtain rfl := Except.ok.inj (hresult.symm.trans ho)
    exact ⟨fun _ => hlines, nofun, nofun, nofun⟩

/-- A run that is given up after a charged attempt. -/
theorem of_spent (hx : x.Made hasVariant attempt os h lines) (hresult : x.result = .ok o)
    (hcharged : o.isCharged = true) (hdue : Due policy label x.after.jitter os o True x.lines)
    (hend : x.after.Wrote x.lines h') : Announced policy label hasVariant status attempt
      patience os h lines
      (.error (.fault (.retriesExhausted label policy.maxRetries status)), h') [x] := by
  refine .single hx hend nofun ?_ ?_ ?_
  · rintro halt ⟨⟩
    exact Or.inr ⟨rfl, o, hresult, hcharged⟩
  · exact fun halt hhalt => by cases hresult.symm.trans hhalt
  · intro o' ho'
    obtain rfl := Except.ok.inj (hresult.symm.trans ho')
    rwa [eq_true (show Spent _ from ⟨_, _, _, rfl⟩)]

/-- A run that goes on after an attempt. -/
theorem exists_cons (hx : x.Made hasVariant attempt os h lines) (hresult : x.result = .ok o)
    (ho : o.isSuccess = false) {ends : Prop}
    (hdue : Due policy label x.after.jitter os o ends x.lines) (hends : ¬ends)
    (hrest : ∃ calls, Announced policy label hasVariant status attempt patience (os ++ [o]) x.after
      x.lines p calls) :
    ∃ calls,
      Announced policy label hasVariant status attempt (patience + 1) os h lines p calls := by
  obtain ⟨calls, hcalls⟩ := hrest
  rw [eq_false hends] at hdue
  exact ⟨x :: calls, hcalls.cons hx hresult ho hdue⟩

/-- A wait before the rest of a run. -/
theorem bind {w : Act Host β} {f : β → Act Host (α × RunReport)} (hw : IsWait w)
    (hf : ∀ b h₁, h.Wrote lines h₁ → ∃ calls, Announced policy label hasVariant status attempt
      patience os h lines ((f b).run h₁) calls) {h₀ : Host} (hwrote : h.Wrote lines h₀) :
    ∃ calls, Announced policy label hasVariant status attempt patience os h lines
      ((w >>= f).run h₀) calls := by
  have hsilent := hwrote.trans (hw.silent.wrote h₀)
  obtain ⟨-, hspent⟩ := hw.silent h₀
  rw [List.append_nil] at hsilent
  rcases hrun : w.run h₀ with ⟨r, h₁⟩
  rw [hrun] at hsilent hspent
  cases r with
  | error halt =>
    rw [run_bind_of_error hrun]
    exact ⟨[], .nil rfl (mt Spent.of_error hspent) hsilent
      (Or.inr ⟨h₀, hwrote, hw.halts h₀ halt h₁ hrun⟩)⟩
  | ok b =>
    rw [run_bind_of_ok hrun]
    exact hf b h₁ hsilent

end Announced

variable (policy label hasVariant status) in
/-- What a run writes, whatever its attempts write. -/
theorem exists_announced {command : Bool → Command}
    (hattempt : ∀ useVariant, Begins (command useVariant) (attempt useVariant)) (patience : Nat)
    (hos : Goes policy os) {h₀ : Host} (hwrote : h.Wrote lines h₀) :
    ∃ calls, Announced policy label hasVariant status attempt patience os h lines
      ((run (Run.means attempt) policy label hasVariant status patience
        (.ofOutcomes hasVariant os)).run h₀) calls := by
  induction patience generalizing os h lines h₀ with
  | zero =>
    exact ⟨[], .nil rfl (not_spent_of (by simp)) hwrote (Or.inl ⟨rfl, rfl⟩)⟩
  | succ patience ih =>
    rw [run]
    refine Announced.bind isWait_awaitConnection (fun _ h₁ hbefore => ?_) hwrote
    generalize hvariant : (RunReport.ofOutcomes hasVariant os).usedVariant = useVariant
    obtain ⟨own, hown, hspent⟩ := (hattempt useVariant).exists_own h₁
    rcases hmade : (attempt useVariant).run h₁ with ⟨r, h₂⟩
    rw [hmade] at hown hspent
    cases r with
    | error halt =>
      have hrun : ∀ f : Attempt α → Act Host (α × RunReport),
        ((Run.means attempt).attempt useVariant >>= f).run h₁ = _ := run_bind_of_error hmade
      rw [hrun]
      have hx : Told.Made hasVariant attempt os h lines
        ⟨⟨useVariant, h₁, .error halt, h₂⟩, own, []⟩ := ⟨hbefore, hmade, hvariant.symm, hown⟩
      exact ⟨_, .of_halt hx rfl rfl hspent⟩
    | ok o =>
      have hrun : ∀ f : Attempt α → Act Host (α × RunReport),
        ((Run.means attempt).attempt useVariant >>= f).run h₁ = _ := run_bind_of_ok hmade
      have hjitter : (Run.means attempt).jitter.run h₂ = (.ok h₂.jitter, h₂) := rfl
      rw [hrun, run_bind_of_ok hjitter]
      have hx : ∀ more, Told.Made hasVariant attempt os h lines
        ⟨⟨useVariant, h₁, .ok o, h₂⟩, own, more⟩ := fun _ => ⟨hbefore, hmade, hvariant.symm, hown⟩
      cases ho : o.isSuccess with
      | true =>
        obtain ⟨value, rfl⟩ := Attempt.exists_of_isSuccess ho
        exact ⟨_, .of_success (hx []) rfl rfl (.of_notices h₂ [])⟩
      | false =>
        have hdue : Due policy label h₂.jitter os o
          ((advance policy label hasVariant h₂.jitter (.ofOutcomes hasVariant os) o).2.2 = .spent)
            _ := due_advance h₂.jitter hos
        have hcharged :
          (advance policy label hasVariant h₂.jitter (.ofOutcomes hasVariant os) o).2.2 = .spent →
            o.isCharged = true := isCharged_of_spent h₂.jitter
        have hreport :
          (advance policy label hasVariant h₂.jitter (.ofOutcomes hasVariant os) o).1 =
            .ofOutcomes hasVariant (os ++ [o]) := report_advance h₂.jitter ho
        have hdone : ∀ value,
          (advance policy label hasVariant h₂.jitter (.ofOutcomes hasVariant os) o).2.2 =
            .done value → o = .succeeded value := fun _ => eq_succeeded_of_done h₂.jitter
        generalize advance policy label hasVariant h₂.jitter (.ofOutcomes hasVariant os) o = q at *
        obtain ⟨report, more, next⟩ := q
        obtain rfl : report = .ofOutcomes hasVariant (os ++ [o]) := hreport
        have hnotify : ((Run.means attempt).notify more).run h₂ =
          (.ok (), { h₂ with notices := h₂.notices ++ more }) := rfl
        simp only [run_bind_of_ok hnotify] at hdue hcharged hdone ⊢
        have hafter := Host.Wrote.of_notices h₂ more
        generalize { h₂ with notices := h₂.notices ++ more } = h₃ at hafter
        have hrest : next ≠ .spent → ∀ h₄, h₂.Wrote more h₄ → ∃ calls,
            Announced policy label hasVariant status attempt patience (os ++ [o]) h₂ more
              ((run (Run.means attempt) policy label hasVariant status patience
                (.ofOutcomes hasVariant (os ++ [o]))).run h₄) calls :=
          fun hnext h₄ => ih (hdue.goes h₂.jitter hos hnext)
        cases next with
        | done value =>
          obtain rfl := hdone value rfl
          cases ho
        | spent =>
          rw [eq_self_iff_true] at hdue
          exact ⟨_, .of_spent (hx more) rfl (hcharged rfl) hdue hafter⟩
        | again =>
          exact Announced.exists_cons (hx more) rfl ho hdue (by simp) (hrest (by simp) h₃ hafter)
        | awaitService =>
          exact Announced.exists_cons (hx more) rfl ho hdue (by simp)
            (Announced.bind (isWait_awaitService attempt) (fun _ => hrest (by simp)) hafter)
        | awaitQuota delay =>
          exact Announced.exists_cons (hx more) rfl ho hdue (by simp)
            (Announced.bind (isWait_elapse _) (fun _ => hrest (by simp)) hafter)

/-! ## On a host -/

theorem goes_nil : Goes policy ([] : List (Attempt α)) :=
  Nat.lt_of_lt_of_le Nat.zero_lt_one (Nat.le_max_right ..)

variable (policy label hasVariant status attempt h) in
/-- A run on a host, told by its attempts: what each of them starts and writes, and what is written
    about its outcome. -/
structure Recounted (command : Bool → Command) (p : Except Halt (α × RunReport) × Host)
    (calls : List (Told α)) : Prop extends
    Announced policy label hasVariant status attempt h.patience [] h [] p calls where
  /-- In the order of the attempts, what an attempt writes itself and then what is due for its
      outcome. -/
  notices : p.2.notices = h.notices ++ calls.flatMap fun x => x.own ++ x.lines
  starts : p.2.starts = h.starts ++ calls.flatMap fun x => x.started
  /-- Each attempt starts its command once, or it is one that cannot be started. -/
  started : ∀ x ∈ calls, x.started = [(command x.useVariant).startWith h.env] ∨
    x.started = [] ∧ ∃ fault, x.result = .error (.fault fault)

variable (policy label hasVariant status h) in
theorem exists_recounted {command : Bool → Command}
    (hattempt : ∀ useVariant, Begins (command useVariant) (attempt useVariant)) :
    ∃ calls, Recounted policy label hasVariant status attempt h command
      ((run (Run.means attempt) policy label hasVariant status h.patience .start).run h) calls := by
  obtain ⟨calls, hcalls⟩ :=
    exists_announced policy label hasVariant status hattempt h.patience goes_nil (.refl h)
  rw [RunReport.ofOutcomes_nil] at hcalls
  obtain ⟨hstarts, hstarted⟩ := starts_of_linked hattempt hcalls.linked hcalls.made
  refine ⟨calls, hcalls, hcalls.chained.eq.trans (by rw [List.append_nil]), ?_, ?_⟩
  · rw [hstarts, List.flatMap_map]
  · exact fun x hx => hstarted x.toTried (List.mem_map_of_mem hx)

/-- A run whose lines are passed on. -/
theorem exists_run_streaming (policy : RetryPolicy) (command : Command) (variant : Option Command)
    (status : Int) (h : Host) : ∃ r h' calls,
      (Run.streaming policy command variant status).run h = (r.map Prod.snd, h') ∧
      Recounted policy command.display variant.isSome status
        (fun useVariant => Run.streamingAttempt
          (if useVariant then variant.getD command else command) policy.idleTimeout)
        h (fun useVariant => if useVariant then variant.getD command else command) (r, h')
        calls := by
  obtain ⟨calls, hcalls⟩ := exists_recounted policy command.display variant.isSome status h
    fun useVariant => begins_streamingAttempt
      (if useVariant then variant.getD command else command) policy.idleTimeout
  rcases hrun : (run (Run.streamingMeans command variant policy.idleTimeout) policy
    command.display variant.isSome status h.patience .start).run h with ⟨r, h'⟩
  rw [hrun] at hcalls
  exact ⟨r, h', calls, Run.run_streaming_of_run hrun, hcalls⟩

/-- What a run on a host writes, in either form. It is told by its attempts: each is made from the
    host that the one before it has left, but for the lines in between and the time that has passed,
    and starts its command once; what is written are the lines of the attempts and after those of
    each attempt the lines that are due for its outcome. -/
theorem announced_of_runs (policy : RetryPolicy) (command : Command) (status : Int) (h : Host) :
    (∀ variant, ∃ r h' calls,
      (Run.streaming policy command variant status).run h = (r.map Prod.snd, h') ∧
      Recounted policy command.display variant.isSome status
        (fun useVariant => Run.streamingAttempt
          (if useVariant then variant.getD command else command) policy.idleTimeout)
        h (fun useVariant => if useVariant then variant.getD command else command) (r, h') calls) ∧
    ∃ r h' calls,
      (Run.buffered policy command status).run h = (r, h') ∧
      Recounted policy command.display false status (fun _ => Run.bufferedAttempt command)
        h (fun _ => command) (r, h') calls := by
  refine ⟨fun variant => exists_run_streaming policy command variant status h, ?_⟩
  obtain ⟨calls, hcalls⟩ := exists_recounted policy command.display false status h
    fun _ => begins_bufferedAttempt command
  exact ⟨_, _, calls, rfl, hcalls⟩

theorem calm_of_waits {programs : String → Option Program} (hcalm : h.Calm programs)
    (hwaits : h.Waits h') : h'.Calm programs ∧ h'.startCount = h.startCount := by
  obtain ⟨clock, notices, rfl⟩ := hwaits
  exact ⟨⟨hcalm.marks, hcalm.dropsOnStop, hcalm.programs⟩, rfl⟩

/-- On a calm host the attempts come to the outcomes that the programs play, one for each start. -/
theorem outcomes_of_plays {programs : String → Option Program} {idle : Duration}
    {f : Nat → Attempt Unit} {command : Bool → Command} {tries : List (Tried Host Unit)}
    (hplays : ∀ useVariant, Run.Plays programs idle f (command useVariant))
    (hcalm : h.Calm programs) (hlinked : Linked Host.Waits h tries h')
    (hmade : ∀ x ∈ tries,
      (Run.streamingAttempt (command x.useVariant) idle).run x.before = (x.result, x.after)) :
    outcomes tries = (List.range' h.startCount tries.length).map f ∧
      h'.startCount = h.startCount + tries.length := by
  induction tries generalizing h with
  | nil => exact ⟨rfl, (calm_of_waits hcalm hlinked).2⟩
  | cons x rest ih =>
    obtain ⟨hwaits, hrest⟩ := hlinked
    obtain ⟨hx, hmade⟩ := List.forall_mem_cons.mp hmade
    obtain ⟨hbefore, hcount⟩ := calm_of_waits hcalm hwaits
    obtain ⟨h₁, hrun, hafter, hone⟩ := Run.run_streamingAttempt (hplays x.useVariant) hbefore
    obtain ⟨hresult, rfl⟩ := Prod.ext_iff.mp (hrun.symm.trans hx)
    obtain ⟨houtcomes, hstarts⟩ := ih hafter hrest hmade
    simp only at hresult hone hstarts houtcomes
    rw [hone, hcount] at houtcomes hstarts
    refine ⟨?_, ?_⟩
    · rw [outcomes, List.filterMap_cons_some (b := f x.before.startCount)
        (by rw [← hresult]; rfl), ← outcomes, houtcomes, hcount, List.length_cons, List.range'_succ,
        List.map_cons]
    · rw [hstarts, List.length_cons, Nat.add_assoc, Nat.add_comm 1]

/-! ## A run that fails -/

/-- Twice it cannot reach its service, and twice it fails. -/
def failing : Nat → Attempt Unit
  | 0 => .exited (some ExitStatus.serviceUnreachable)
  | 1 => .exited none
  | 2 => .exited (some ExitStatus.serviceUnreachable)
  | _ => .timedOut

/-- A host whose programs perform these. -/
def failingHost : Host := { stage failing with patience := 9 }

theorem plays_failing (useVariant : Bool) : Run.Plays (fun _ => some (Run.performing failing))
    (RetryPolicy.standard.withMaxRetries 2).idleTimeout failing
    (if useVariant then none.getD (.ofProgram "sync") else .ofProgram "sync") := by
  have hfailing : ∀ n, failing n ≠ .exited (some 0) := by
    intro n
    unfold failing
    split <;> decide
  cases useVariant <;> exact Run.plays_performing (by decide) (by decide) hfailing

/-- Allowed two failures, a run there is announced with four lines, two of them about its last
    attempt. -/
theorem announced_of_failing : ∃ (h' : Host) (calls : List (Told Unit)),
    (Run.streaming (RetryPolicy.standard.withMaxRetries 2) (.ofProgram "sync") none 1).run
      failingHost = (.error (.fault (.retriesExhausted "sync" 2 1)), h') ∧
    h'.notices = ["Service unreachable, waiting for it to come back...",
      "'sync' exited with signal (attempt 1/2)",
      "'sync' timed out after 600s without output (attempt 2/2)",
      "'sync' failed after 2 retries"] ∧
    h'.notices.countContaining "Service unreachable" = 1 ∧
    h'.notices = calls.flatMap (fun x => x.own ++ x.lines) ∧
    Told.outcomes calls = first failing 4 ∧
    ∃ earlier last, calls = earlier ++ [last] ∧
      last.lines = ["'sync' timed out after 600s without output (attempt 2/2)",
        "'sync' failed after 2 retries"] := by
  obtain ⟨hstreaming, -⟩ := announced_of_runs (RetryPolicy.standard.withMaxRetries 2)
    (.ofProgram "sync") 1 failingHost
  obtain ⟨r, h', calls, hrun, hcalls⟩ := hstreaming none
  obtain ⟨hr, hh'⟩ := Prod.ext_iff.mp hrun
  have hresult : r.map Prod.snd = .error (.fault (.retriesExhausted "sync" 2 1)) := by
    rw [← show _ = r.map Prod.snd from hr]
    decide +kernel
  have hnotices : h'.notices = ["Service unreachable, waiting for it to come back...",
      "'sync' exited with signal (attempt 1/2)",
      "'sync' timed out after 600s without output (attempt 2/2)",
      "'sync' failed after 2 retries"] := by
    rw [← show _ = h' from hh']
    decide +kernel
  have hfour : h'.startCount = 4 := by
    rw [← show _ = h' from hh']
    decide +kernel
  obtain ⟨houtcomes, hstarts⟩ :=
    outcomes_of_plays plays_failing (⟨rfl, rfl, rfl⟩ : failingHost.Calm _) hcalls.linked hcalls.made
  rw [show (r, h').2.startCount = 4 from hfour, List.length_map] at hstarts
  rw [List.length_map, Nat.add_left_cancel (hstarts.symm.trans (Nat.zero_add 4).symm)] at houtcomes
  obtain ⟨halt, rfl⟩ : ∃ halt, r = .error halt := by
    cases r with
    | ok _ => cases hresult
    | error halt => exact ⟨halt, rfl⟩
  obtain rfl := Except.error.inj hresult
  -- the last attempt is charged under the number two, which is the limit
  have hspent : Spent (.error (.fault (.retriesExhausted "sync" 2 1)) :
      Except Halt (Unit × RunReport)) := ⟨_, _, _, rfl⟩
  obtain ⟨-, earlier, last, o, rfl, hlast, hcharged⟩ := hcalls.spent hspent
  have hconcat : Told.outcomes (earlier ++ [last]) = Told.outcomes earlier ++ [o] := by
    simp [Told.outcomes, outcomes, hlast, Except.toOption]
  have hsplit : Told.outcomes earlier ++ [o] = first failing 3 ++ [.timedOut] :=
    hconcat.symm.trans houtcomes
  obtain ⟨hearlier, ho⟩ := List.append_inj' hsplit rfl
  obtain rfl := List.singleton_inj.mp ho
  obtain ⟨-, -, hlines, -⟩ := (hcalls.due earlier last [] _ rfl hlast).charged hcharged 2
    (by rw [List.nil_append, hearlier]; decide)
  refine ⟨h', earlier ++ [last], hrun, hnotices, by rw [hnotices]; decide, hcalls.notices,
    houtcomes, earlier, last, rfl, ?_⟩
  rw [hlines ⟨hspent, rfl⟩]
  decide +kernel

end Retry

end DataStaging
