import DataStaging.Proofs.Process.Reaching
import DataStaging.Proofs.Process.Tries

/-!
# Runs on a host and the marks of their connection

On a host the marks come at set times, and a run looks at the connection when its clock says so.
What such a run does is one of the orders in which run, clock and marks can take their steps: its
visits, each a wait for the connection and the attempt after it, are what the steps put down.

Results:
* `Visits.cons`: a visit before the rest of a run.
* `reaches_run`: trying a command until it succeeds.
* `gated_of_runs`: how the connection is kept, when an attempt begins, and when a wait is given up.
-/

namespace DataStaging

/-! ## On a host -/

namespace Host

variable {h h' : Host}

theorem eq_of_run_awaitConnection (hrun : awaitConnection.run h = (.ok (), h')) :
    ∃ t, h.connection.awaitGood h.clock = .ok t ∧ h' = { h with clock := t } := by
  unfold awaitConnection at hrun
  rw [run_get_bind] at hrun
  cases hgood : h.connection.awaitGood h.clock with
  | ok t =>
    rw [hgood] at hrun
    refine ⟨t, rfl, ?_⟩
    rcases run_moveTo h t with ⟨hmove, -⟩ | ⟨h₁, hmove⟩ <;> cases hmove.symm.trans hrun
    rfl
  | error halt =>
    rw [hgood] at hrun
    exfalso
    cases hdrop : h.dropTime? with
    | none =>
      simp only [hdrop] at hrun
      cases hrun
    | some t =>
      simp only [hdrop] at hrun
      split_ifs at hrun
      · -- a wait that never ends is dropped when it is time to
        rcases run_moveTo h t with ⟨-, hlater⟩ | ⟨h₁, hmove⟩
        · exact Nat.lt_irrefl t (hlater t hdrop)
        · cases hmove.symm.trans hrun
      · cases hrun

theorem fault_of_run_awaitConnection {fault : Fault}
    (hrun : awaitConnection.run h = (.error (.fault fault), h')) :
    h.connection.awaitGood h.clock = .error (.fault fault) := by
  unfold awaitConnection at hrun
  rw [run_get_bind] at hrun
  cases hgood : h.connection.awaitGood h.clock with
  | ok t =>
    rw [hgood] at hrun
    rcases run_moveTo h t with ⟨hmove, -⟩ | ⟨h₁, hmove⟩ <;> cases hmove.symm.trans hrun
  | error halt =>
    rw [hgood] at hrun
    cases hdrop : h.dropTime? with
    | none =>
      simp only [hdrop] at hrun
      cases hrun
      rfl
    | some t =>
      simp only [hdrop] at hrun
      split_ifs at hrun
      · rcases run_moveTo h t with ⟨hmove, -⟩ | ⟨h₁, hmove⟩ <;> cases hmove.symm.trans hrun
      · cases hrun
        rfl

/-! ## Attempts -/

/-- Whatever it comes to, the computation leaves the connection as it is, and the clock does not go
    back. -/
def Steady {β : Type} (x : Act Host β) : Prop :=
  ∀ h, (x.run h).2.connection = h.connection ∧ h.clock ≤ (x.run h).2.clock

theorem Steady.bind {β γ : Type} {x : Act Host β} {f : β → Act Host γ} (hx : Steady x)
    (hf : ∀ b, Steady (f b)) : Steady (x >>= f) := by
  intro h
  obtain ⟨hconnection, hclock⟩ := hx h
  rcases hrun : x.run h with ⟨halt | b, h₁⟩
  · rw [hrun] at hconnection hclock
    rw [run_bind_of_error hrun]
    exact ⟨hconnection, hclock⟩
  · rw [hrun] at hconnection hclock
    rw [run_bind_of_ok hrun]
    obtain ⟨hconnection₁, hclock₁⟩ := hf b h₁
    exact ⟨hconnection₁.trans hconnection, Nat.le_trans hclock hclock₁⟩

theorem Steady.pure {β : Type} (b : β) : Steady (Pure.pure b : Act Host β) :=
  fun _ => ⟨rfl, Nat.le_refl _⟩

theorem Steady.throw {β : Type} (halt : Halt) : Steady (MonadExcept.throw halt : Act Host β) :=
  fun _ => ⟨rfl, Nat.le_refl _⟩

theorem steady_elapse (micros : Nat) : Steady (elapse micros) := by
  intro h
  have hlater : (h.advanceTo (h.clock + micros)).2.connection = h.connection ∧
      h.clock ≤ (h.advanceTo (h.clock + micros)).2.clock := by
    unfold advanceTo
    split
    · split_ifs
      · exact ⟨rfl, Nat.le_max_left _ _⟩
      · exact ⟨rfl, Nat.le_add_right _ _⟩
    · exact ⟨rfl, Nat.le_add_right _ _⟩
  unfold elapse moveTo
  rw [run_get_bind, run_get_bind]
  rcases hadvance : h.advanceTo (h.clock + micros) with ⟨dropped, h₁⟩
  rw [hadvance] at hlater
  cases dropped <;> exact hlater

theorem steady_notify (lines : Notices) : Steady (notify lines) := fun _ => ⟨rfl, Nat.le_refl _⟩

theorem steady_begin (command : Command) : Steady (begin command) := by
  intro h
  unfold begin
  rw [run_get_bind]
  split_ifs
  · exact ⟨rfl, Nat.le_refl _⟩
  split
  · exact ⟨rfl, Nat.le_refl _⟩
  · exact ⟨rfl, Nat.le_refl _⟩

end Host

namespace Run

open Host

theorem steady_once (command : Command) : Steady (once command) := by
  refine (steady_begin command).bind fun b => ?_
  split
  · exact .throw _
  · exact (steady_elapse _).bind fun _ => .pure _

theorem steady_bufferedAttempt (command : Command) : Steady (bufferedAttempt command) := by
  refine (steady_once command).bind fun o => ?_
  split_ifs
  · exact .pure _
  · exact (steady_notify _).bind fun _ => .pure _

theorem steady_streamingAttempt (command : Command) (idle : Duration) :
    Steady (streamingAttempt command idle) := by
  refine (steady_begin command).bind fun b => ?_
  split
  · exact (steady_notify _).bind fun _ => (steady_elapse _).bind fun _ => .pure _
  · refine (steady_notify _).bind fun _ => (steady_elapse _).bind fun _ => ?_
    split
    · exact .throw _
    · simp only
      split_ifs
      · exact (steady_elapse _).bind fun _ => .pure _
      · exact (steady_elapse _).bind fun _ => .pure _
      · exact .pure _
      · exact .pure _

end Run

/-! ## Trying until it succeeds -/

namespace Gated

open Host

variable {α : Type} {k : Trial} {c : Connection} {report : RunReport} {h h' h₁ : Host}
  {log : List Happening} {attempt : Bool → Act Host (Attempt α)} {r : Except Fault (α × RunReport)}

theorem fault_of_mapError {β : Type} {halt : Halt} {r : Except Fault β}
    (h : Except.error halt = r.mapError Halt.fault) :
    ∃ fault, halt = .fault fault ∧ r = .error fault := by
  cases r with
  | ok _ => cases h
  | error fault =>
    cases h
    exact ⟨fault, rfl, rfl⟩

/-- A wait for the connection on a host, and the attempt after it. -/
structure Visit (α : Type) extends Retry.Tried Host α where
  /-- When the wait begins. -/
  arrived : Nat
  /-- How many steps after its first look the last one comes. -/
  steps : Nat

/-- What happens during a visit. -/
def Visit.happened (c : Connection) (v : Visit α) : List Happening :=
  looks c v.arrived v.steps ++
    [.waited v.before.clock (.ok ()), .began v.before.clock, .ended v.after.clock]

/-- What a run comes to whose last attempt has this result. -/
inductive Settles (k : Trial) : Except Halt (Attempt α) → Except Fault (α × RunReport) → Prop where
  | success (value : α) (report : RunReport) :
      Settles k (.ok (.succeeded value)) (.ok (value, report))
  | spent {o : Attempt α} : o.isCharged = true →
      Settles k (.ok o) (.error (.retriesExhausted k.label k.policy.maxRetries k.status))
  | fault (fault : Fault) : Settles k (.error (.fault fault)) (.error fault)

/-- A run from one host to another that has this result, told by its visits; in `log` is what
    happens meanwhile, the marks apart. -/
structure Visits (k : Trial) (c : Connection) (attempt : Bool → Act Host (Attempt α)) (h h' : Host)
    (r : Except Fault (α × RunReport)) (visits : List (Visit α)) (log : List Happening) :
    Prop where
  linked : Retry.Linked Host.Waits h (visits.map Visit.toTried) h'
  made : ∀ v ∈ visits, (attempt v.useVariant).run v.before = (v.result, v.after)
  /-- Each wait that an attempt follows ends well, with the look before the attempt. -/
  awaited : ∀ v ∈ visits, c.awaitGood v.arrived = .ok v.before.clock ∧
    v.before.clock = v.arrived + v.steps * c.step
  /-- The run ends with an attempt, or with a wait that is given up. -/
  ends :
    (log = visits.flatMap (Visit.happened c) ∧
      ∃ earlier last, visits = earlier ++ [last] ∧ Settles k last.result r) ∨
    ∃ arrived steps fault, r = .error fault ∧ c.awaitGood arrived = .error (.fault fault) ∧
      log = visits.flatMap (Visit.happened c) ++ looks c arrived steps ++
        [.waited (arrived + steps * c.step) (.error fault)]

namespace Visits

variable {v : Visit α} {visits : List (Visit α)} {more : List Happening}

/-- A run whose wait is given up. -/
theorem refused {arrived steps : Nat} {fault : Fault} (hwaits : h.Waits h')
    (hrefused : c.awaitGood arrived = .error (.fault fault)) :
    Visits k c attempt h h' (.error fault) []
      (looks c arrived steps ++ [.waited (arrived + steps * c.step) (.error fault)]) where
  linked := hwaits
  made _ hv := absurd hv List.not_mem_nil
  awaited _ hv := absurd hv List.not_mem_nil
  ends := Or.inr ⟨arrived, steps, fault, rfl, hrefused, rfl⟩

/-- A run that ends with one attempt more. -/
theorem single (hbefore : h.Waits v.before) (hafter : v.after.Waits h')
    (hmade : (attempt v.useVariant).run v.before = (v.result, v.after))
    (hawaited : c.awaitGood v.arrived = .ok v.before.clock ∧
      v.before.clock = v.arrived + v.steps * c.step) (hsettles : Settles k v.result r) :
    Visits k c attempt h h' r [v] (v.happened c) where
  linked := ⟨hbefore, hafter⟩
  made := List.forall_mem_singleton.mpr hmade
  awaited := List.forall_mem_singleton.mpr hawaited
  ends := Or.inl ⟨(List.flatMap_singleton _ _).symm, [], v, rfl, hsettles⟩

/-- A visit before the rest of a run. -/
theorem cons (hbefore : h.Waits v.before) (hafter : v.after.Waits h₁)
    (hmade : (attempt v.useVariant).run v.before = (v.result, v.after))
    (hawaited : c.awaitGood v.arrived = .ok v.before.clock ∧
      v.before.clock = v.arrived + v.steps * c.step)
    (hrest : Visits k c attempt h₁ h' r visits more) :
    Visits k c attempt h h' r (v :: visits) (v.happened c ++ more) where
  linked := ⟨hbefore, hrest.linked.of_rel Host.Waits.trans hafter⟩
  made := List.forall_mem_cons.mpr ⟨hmade, hrest.made⟩
  awaited := List.forall_mem_cons.mpr ⟨hawaited, hrest.awaited⟩
  ends := by
    rcases hrest.ends with ⟨rfl, earlier, last, rfl, hsettles⟩ |
      ⟨arrived, steps, fault, hr, hrefused, rfl⟩
    · exact Or.inl ⟨rfl, v :: earlier, last, rfl, hsettles⟩
    · exact Or.inr ⟨arrived, steps, fault, hr, hrefused, by simp [List.append_assoc]⟩

end Visits

/-- A run on a host stands before a look, where some order of steps has led it. -/
structure Stands (k : Trial) (c : Connection) (h : Host) (α : Type) (report : RunReport)
    (log : List Happening) : Prop where
  watches : Watches k c
  connection : h.connection = c
  reaches : ∃ time ≤ h.clock, Reaches k c h.clock (.due time : Stage α) report log

/-- After a wait the run stands before its next look. -/
theorem stands_of_elapse {micros : Nat} {x : Act Host (α × RunReport)} (hk : Watches k c)
    (hc : h.connection = c)
    (hrun : (elapse micros >>= fun _ => x).run h = (r.mapError Halt.fault, h'))
    (hat : Reaches k c h.clock (.due (h.clock + micros) : Stage α) report log) :
    ∃ h₁, h.Waits h₁ ∧ Stands k c h₁ α report log ∧ x.run h₁ = (r.mapError Halt.fault, h') := by
  rcases run_elapse_cases h micros with helapse | ⟨h₁, helapse⟩
  · rw [run_bind_of_ok helapse] at hrun
    exact ⟨{ h with clock := h.clock + micros }, ⟨_, h.notices, rfl⟩,
      ⟨hk, hc, _, Nat.le_refl _, hat.later hk.ordered (Nat.le_add_right _ _)⟩, hrun⟩
  · rw [run_bind_of_error helapse] at hrun
    obtain ⟨fault, ⟨⟩, -⟩ := fault_of_mapError (congrArg Prod.fst hrun)

/-- After an attempt the run is over, or it stands before its next look. -/
theorem done_or_stands {next : Retry.Next α} {again : Act Host (α × RunReport)}
    {outcome : Attempt α} (hk : Watches k c) (hc : h.connection = c)
    (hrun : (match next with
      | .done value => pure (value, report)
      | .awaitService => (Run.means attempt).awaitService >>= fun _ => again
      | .awaitQuota delay => (Run.means attempt).pause delay >>= fun _ => again
      | .again => again
      | .spent => throw (.fault (.retriesExhausted k.label k.policy.maxRetries k.status)) :
        Act Host (α × RunReport)).run h = (r.mapError Halt.fault, h'))
    (hdone : ∀ value, next = .done value → outcome = .succeeded value)
    (hspent : next = .spent → outcome.isCharged = true)
    (hat : Reaches k c h.clock (stageAfter k h.clock report next) report log) :
    (h.Waits h' ∧ Settles k (.ok outcome) r ∧ Reaches k c h.clock (.done r) report log) ∨
      ∃ h₁, h.Waits h₁ ∧ Stands k c h₁ α report log ∧
        again.run h₁ = (r.mapError Halt.fault, h') := by
  cases next with
  | done value =>
    left
    obtain rfl := hdone value rfl
    obtain ⟨hr, rfl⟩ := Prod.ext_iff.mp hrun
    cases r <;> cases hr
    exact ⟨.refl h, .success value report, hat⟩
  | spent =>
    left
    obtain ⟨hr, rfl⟩ := Prod.ext_iff.mp hrun
    obtain ⟨fault, hfault, rfl⟩ := fault_of_mapError hr
    cases hfault
    exact ⟨.refl h, .spent (hspent rfl), hat⟩
  | again => exact Or.inr ⟨h, .refl h, ⟨hk, hc, _, Nat.le_refl _, hat⟩, hrun⟩
  | awaitService =>
    right
    have hwait : (elapse h.connection.poll.micros >>= fun _ => again).run h =
      (r.mapError Halt.fault, h') := hrun
    rw [hc, ← hk.poll] at hwait
    exact stands_of_elapse hk hc hwait hat
  | awaitQuota delay => exact Or.inr (stands_of_elapse hk hc hrun hat)

/-- A run on a host that comes to a result goes through steps that lead to this result, and what
    these put down is told by its visits. -/
theorem reaches_run (hattempt : ∀ useVariant, Steady (attempt useVariant)) (patience : Nat)
    (hat : Stands k c h α report log)
    (hrun : (Retry.run (Run.means attempt) k.policy k.label k.hasVariant k.status patience
      report).run h = (r.mapError Halt.fault, h')) :
    ∃ t report' visits more, Reaches k c t (.done r) report' (log ++ more) ∧
      Visits k c attempt h h' r visits more := by
  induction patience generalizing h report log with
  | zero => obtain ⟨fault, ⟨⟩, -⟩ := fault_of_mapError (congrArg Prod.fst hrun)
  | succ patience ih =>
    obtain ⟨hk, hc, time, htime, hdue⟩ := hat
    obtain ⟨hok, hfault⟩ := reaches_awaitGood hk hdue htime
    rw [Retry.run] at hrun
    -- the wait for the connection
    rcases hgate : (Run.means attempt).gate.run h with ⟨halt | ⟨⟩, h₁⟩
    · have hwaits := (silent_awaitConnection.wrote h).waits
      rw [show awaitConnection.run h = _ from hgate] at hwaits
      rw [run_bind_of_error hgate] at hrun
      obtain ⟨hr, rfl⟩ := Prod.ext_iff.mp hrun
      obtain ⟨fault, rfl, rfl⟩ := fault_of_mapError hr
      have hgone : c.awaitGood h.clock = _ := hc ▸ fault_of_run_awaitConnection hgate
      obtain ⟨steps, hrefused⟩ := hfault fault hgone
      rw [List.append_assoc] at hrefused
      exact ⟨_, report, [], _, hrefused, .refused hwaits hgone⟩
    rw [run_bind_of_ok hgate] at hrun
    obtain ⟨t, hgood, rfl⟩ := eq_of_run_awaitConnection hgate
    rw [hc] at hgood
    obtain ⟨steps, ht, hadmitted⟩ := hok t hgood
    have hbefore : h.Waits { h with clock := t } := ⟨t, h.notices, rfl⟩
    -- the attempt
    rcases hmade : ((Run.means attempt).attempt report.usedVariant).run { h with clock := t }
      with ⟨result, h₂⟩
    obtain ⟨hconnection, hclock⟩ := hattempt report.usedVariant { h with clock := t }
    rw [show (attempt report.usedVariant).run _ = _ from hmade] at hconnection hclock
    have hattempting := hadmitted.begin.later hk.ordered hclock
    let v : Visit α := ⟨⟨report.usedVariant, { h with clock := t }, result, h₂⟩, h.clock, steps⟩
    have hlog : ∀ time : Nat, log ++ looks c h.clock steps ++ [.waited t (.ok ())] ++ [.began t] ++
        [.ended time] = log ++ (looks c h.clock steps ++
          [.waited t (.ok ()), .began t, .ended time]) := by
      simp
    rcases result with halt | outcome
    · rw [run_bind_of_error hmade] at hrun
      obtain ⟨hr, rfl⟩ := Prod.ext_iff.mp hrun
      obtain ⟨fault, rfl, rfl⟩ := fault_of_mapError hr
      have hfailed := hattempting.fail fault
      rw [hlog] at hfailed
      exact ⟨_, report, [v], _, hfailed, .single hbefore (.refl _) hmade ⟨hgood, ht⟩ (.fault fault)⟩
    -- what follows
    have hjitter : (Run.means attempt).jitter.run h₂ = (.ok h₂.jitter, h₂) := rfl
    rw [run_bind_of_ok hmade, run_bind_of_ok hjitter] at hrun
    rcases hadvance : Retry.advance k.policy k.label k.hasVariant h₂.jitter report outcome
      with ⟨report', notices, next⟩
    have hdone : ∀ value, next = .done value → outcome = .succeeded value := fun value hnext =>
      Retry.eq_succeeded_of_done h₂.jitter ((congrArg (·.2.2) hadvance).trans hnext)
    have hspent : next = .spent → outcome.isCharged = true := fun hnext =>
      Retry.isCharged_of_spent h₂.jitter ((congrArg (·.2.2) hadvance).trans hnext)
    have hended := hattempting.finish h₂.jitter outcome hadvance
    rw [hlog] at hended
    obtain ⟨h₃, hnotify, hafter, hconnection₃, hclock₃⟩ :
        ∃ h₃, ((Run.means attempt).notify notices).run h₂ = (.ok (), h₃) ∧ h₂.Waits h₃ ∧
          h₃.connection = h₂.connection ∧ h₃.clock = h₂.clock :=
      ⟨_, rfl, (Wrote.of_notices h₂ notices).waits, rfl, rfl⟩
    have hclock₂ : v.after.clock = h₃.clock := hclock₃.symm
    rw [show h₂.clock = h₃.clock from hclock₂] at hended
    simp only [hadvance, run_bind_of_ok hnotify] at hrun
    rcases done_or_stands hk ((hconnection₃.trans hconnection).trans hc) hrun hdone hspent hended
      with ⟨hwaits, hsettles, hover⟩ | ⟨h₄, hwaits, hat, hrun⟩
    · have hvisits : Visits k c attempt h h' r [v] (v.happened c) :=
        .single hbefore (hafter.trans hwaits) hmade ⟨hgood, ht⟩ hsettles
      rw [Visit.happened, hclock₂] at hvisits
      exact ⟨_, report', [v], _, hover, hvisits⟩
    · obtain ⟨t', report'', visits, more, hover, hvisits⟩ := ih hat hrun
      have hall : Visits k c attempt h h' r (v :: visits) (v.happened c ++ more) :=
        hvisits.cons hbefore (hafter.trans hwaits) hmade ⟨hgood, ht⟩
      rw [Visit.happened, hclock₂] at hall
      rw [List.append_assoc] at hover
      exact ⟨t', report'', v :: visits, _, hover, hall⟩

/-- A command that is tried on a host, with the connection that is watched there. -/
def trialOn (h : Host) (policy : RetryPolicy) (label : String) (hasVariant : Bool) (status : Int) :
    Trial :=
  ⟨policy, label, hasVariant, status, h.connection.poll, h.connection.limit⟩

variable {policy : RetryPolicy} {command : Command} {variant : Option Command} {status : Int}

/-- A state of a trial on this host, after the marks of its connection that are due, in which the
    trial has come to a result. -/
def Concluded (h : Host) (s : Gated α) (r : Except Fault (α × RunReport)) : Prop :=
  s.stage = .done r ∧ marksOf s.past = h.connection.marks.filter (fun m => m.time ≤ s.clock)

/-- What was put down is told by the visits of a run from this host to another, and all that was
    started is what the attempts of the visits have started, each its command once unless it
    cannot. -/
structure Followed (k : Trial) (attempt : Bool → Act Host (Attempt α)) (command : Bool → Command)
    (h h' : Host) (r : Except Fault (α × RunReport)) (s : Gated α) (visits : List (Visit α)) :
    Prop extends Visits k h.connection attempt h h' r visits (unmarked s.past) where
  starts : h'.starts = h.starts ++ visits.flatMap fun v => v.started
  started : ∀ v ∈ visits, v.started = [(command v.useVariant).startWith h.env] ∨
    v.started = [] ∧ ∃ fault, v.result = .error (.fault fault)

theorem exists_runs_of_run {label : String} {hasVariant : Bool} {patience : Nat}
    {command : Bool → Command} (hordered : Ordered h.connection.marks)
    (hattempt : ∀ useVariant, Steady (attempt useVariant))
    (hbegins : ∀ useVariant, Begins (command useVariant) (attempt useVariant))
    (hrun : (Retry.run (Run.means attempt) policy label hasVariant status patience .start).run h =
      (r.mapError Halt.fault, h')) :
    ∃ s : Gated α, Runs (trialOn h policy label hasVariant status) start s ∧ Concluded h s r ∧
      ∃ visits, Followed (trialOn h policy label hasVariant status) attempt command h h' r s
        visits := by
  have hstands : Stands (trialOn h policy label hasVariant status) h.connection h α .start [] :=
    ⟨⟨rfl, rfl, hordered⟩, rfl, 0, Nat.zero_le _, reaches_start hordered h.clock⟩
  obtain ⟨t, report, visits, log, ⟨s, hs, rfl, hstage, -, hmarks, hlog⟩, hvisits⟩ :=
    reaches_run hattempt patience hstands hrun
  rw [List.nil_append] at hlog
  subst hlog
  have hmade : ∀ x ∈ visits.map Visit.toTried,
      (attempt x.useVariant).run x.before = (x.result, x.after) :=
    List.forall_mem_map.mpr hvisits.made
  obtain ⟨hstarts, hstarted⟩ := Retry.starts_of_linked hbegins hvisits.linked hmade
  rw [List.flatMap_map] at hstarts
  exact ⟨s, hs, ⟨hstage, hmarks⟩, visits, hvisits, hstarts, List.forall_mem_map.mp hstarted⟩

/-- A run that passes lines on. -/
theorem exists_runs_of_streaming {r : Except Fault RunReport}
    (hordered : Ordered h.connection.marks)
    (hrun : (Run.streaming policy command variant status).run h = (r.mapError Halt.fault, h')) :
    ∃ s : Gated Unit, Runs (trialOn h policy command.display variant.isSome status) start s ∧
      Concluded h s (r.map fun report => ((), report)) ∧
      ∃ visits, Followed (trialOn h policy command.display variant.isSome status)
        (fun useVariant => Run.streamingAttempt
          (if useVariant then variant.getD command else command) policy.idleTimeout)
        (fun useVariant => if useVariant then variant.getD command else command) h h'
        (r.map fun report => ((), report)) s visits := by
  unfold Run.streaming at hrun
  rw [run_get_bind] at hrun
  have hattempt : ∀ useVariant : Bool, Steady (Run.streamingAttempt
      (if useVariant then variant.getD command else command) policy.idleTimeout) :=
    fun _ => Run.steady_streamingAttempt _ _
  have hbegins : ∀ useVariant : Bool, Begins (if useVariant then variant.getD command else command)
      (Run.streamingAttempt (if useVariant then variant.getD command else command)
        policy.idleTimeout) :=
    fun _ => begins_streamingAttempt _ _
  rcases hmade : (Retry.run (Run.means fun useVariant => Run.streamingAttempt
      (if useVariant then variant.getD command else command) policy.idleTimeout) policy
      command.display variant.isSome status h.patience .start).run h
    with ⟨halt | ⟨⟨⟩, report⟩, h₁⟩
  · rw [run_bind_of_error hmade] at hrun
    obtain ⟨hr, rfl⟩ := Prod.ext_iff.mp hrun
    obtain ⟨fault, rfl, rfl⟩ := fault_of_mapError hr
    exact exists_runs_of_run (r := .error fault) hordered hattempt hbegins hmade
  · rw [run_bind_of_ok hmade] at hrun
    obtain ⟨hr, rfl⟩ := Prod.ext_iff.mp hrun
    cases r <;> cases hr
    exact exists_runs_of_run (r := .ok ((), report)) hordered hattempt hbegins hmade

/-- A run that keeps the output. -/
theorem exists_runs_of_buffered {r : Except Fault (String × RunReport)}
    (hordered : Ordered h.connection.marks)
    (hrun : (Run.buffered policy command status).run h = (r.mapError Halt.fault, h')) :
    ∃ s : Gated String, Runs (trialOn h policy command.display false status) start s ∧
      Concluded h s r ∧
      ∃ visits, Followed (trialOn h policy command.display false status)
        (fun _ => Run.bufferedAttempt command) (fun _ => command) h h' r s visits := by
  unfold Run.buffered at hrun
  rw [run_get_bind] at hrun
  exact exists_runs_of_run hordered (fun _ => Run.steady_bufferedAttempt command)
    (fun _ => begins_bufferedAttempt command) hrun

/-! ## Gating -/

/-- However the marks of a connection come, the connection counts as good exactly where no time is
    kept, and the time kept is that of the first bad mark since the last good one. Every look finds
    what the marks before it tell. Every attempt begins after a look that found the connection good
    and was made since the attempt before ended, and so does every wait that ends well. A wait is
    given up only where a limit is set, for an outage that has lasted for as long as its fault tells
    and for as long as the limit, and during which no good mark came. What runs on a host do is
    among this: the looks that are put down are theirs, and so are the beginnings and ends of the
    attempts, each of which starts its command. -/
theorem gated_of_runs :
    (∀ (α : Type) (k : Trial) (s : Gated α), Runs k start s →
      (s.health.connected = true ↔ s.health.since = none) ∧
      (∀ time, s.health.since = some time ↔ Outage (marksOf s.past) time) ∧
      (∀ earlier time since later, s.past = earlier ++ .looked time since :: later →
        ∀ t, since = some t ↔ Outage (marksOf earlier) t) ∧
      (∀ earlier time later, s.past = earlier ++ .began time :: later →
        ∃ looked, LastLook earlier looked none) ∧
      (∀ earlier time later, s.past = earlier ++ .waited time (.ok ()) :: later →
        ∃ looked, LastLook earlier looked none) ∧
      ∀ earlier time fault later, s.past = earlier ++ .waited time (.error fault) :: later →
        ∃ l looked elapsed before after, k.limit = some l ∧
          fault = .serviceGone (.ofMicros elapsed) l ∧
          l.nanos ≤ (Duration.ofMicros elapsed).nanos ∧ elapsed ≤ looked ∧
          earlier = before ++ .looked looked (some (looked - elapsed)) :: after ∧
          (∀ e ∈ after, e.isQuiet = true) ∧
          ∀ m ∈ marksOf before, m.good = true → m.time ≤ looked - elapsed) ∧
    (∀ (h h' : Host) policy command variant status (r : Except Fault RunReport),
      Ordered h.connection.marks →
      (Run.streaming policy command variant status).run h = (r.mapError Halt.fault, h') →
      ∃ s : Gated Unit, Runs (trialOn h policy command.display variant.isSome status) start s ∧
        Concluded h s (r.map fun report => ((), report)) ∧
        ∃ visits, Followed (trialOn h policy command.display variant.isSome status)
          (fun useVariant => Run.streamingAttempt
            (if useVariant then variant.getD command else command) policy.idleTimeout)
          (fun useVariant => if useVariant then variant.getD command else command) h h'
          (r.map fun report => ((), report)) s visits) ∧
    ∀ (h h' : Host) policy command status (r : Except Fault (String × RunReport)),
      Ordered h.connection.marks →
      (Run.buffered policy command status).run h = (r.mapError Halt.fault, h') →
      ∃ s : Gated String, Runs (trialOn h policy command.display false status) start s ∧
        Concluded h s r ∧
        ∃ visits, Followed (trialOn h policy command.display false status)
          (fun _ => Run.bufferedAttempt command) (fun _ => command) h h' r s visits := by
  refine ⟨fun α k s hruns => ?_, fun _ _ _ _ _ _ _ => exists_runs_of_streaming,
    fun _ _ _ _ _ _ => exists_runs_of_buffered⟩
  have acc := account_of_runs hruns
  refine ⟨?_, fun time => ?_, ?_, ?_, ?_, ?_⟩
  · rw [acc.health]
    exact Health.connected_iff
  · rw [acc.health]
    exact Health.since_eq_some_iff
  · intro earlier time since later hpast t
    have hlook : since = (Health.after (marksOf earlier)).since := (hpast ▸ acc.fitting).fits.1
    rw [hlook]
    exact Health.since_eq_some_iff
  · intro earlier time later hpast
    exact (hpast ▸ acc.fitting).fits.1
  · intro earlier time later hpast
    exact (hpast ▸ acc.fitting).fits.1
  · intro earlier time fault later hpast
    have hfitting : Fitting k.limit (earlier ++ .waited time (.error fault) :: later) :=
      hpast ▸ acc.fitting
    exact hfitting.of_append.gaveUp hfitting.fits.1

/-- A connection that may be broken for 30 microseconds and is looked at every 10. -/
def flapping : Trial :=
  ⟨⟨3, .ofSeconds 5, .ofMillis 1⟩, "mover", false, 3, .ofMicros 10, some (.ofMicros 30)⟩

/-- The connection breaks at 5, at 12 and at 20, and is good again at 9 and at 14. The run looks at
    5, makes an attempt after a look at 15, and gives up after one at 60. -/
def flapped : Gated Unit where
  clock := 60
  health := ⟨false, some 20⟩
  stage := .done (.error (.serviceGone (.ofMicros 40) (.ofMicros 30)))
  report := ⟨1, 0, 0, 1, false⟩
  past := [.marked ⟨5, false⟩, .looked 5 (some 5), .marked ⟨9, true⟩, .marked ⟨12, false⟩,
    .marked ⟨14, true⟩, .looked 15 none, .waited 15 (.ok ()), .began 15, .marked ⟨20, false⟩,
    .ended 20, .marked ⟨21, false⟩, .looked 60 (some 20),
    .waited 60 (.error (.serviceGone (.ofMicros 40) (.ofMicros 30)))]

theorem gated_of_flapping : Runs flapping start flapped ∧ Outage (marksOf flapped.past) 20 ∧
    (∃ looked, LastLook (flapped.past.take 7) looked none) ∧
    ∃ l looked elapsed before after, flapping.limit = some l ∧
      Fault.serviceGone (.ofMicros 40) (.ofMicros 30) = .serviceGone (.ofMicros elapsed) l ∧
      l.nanos ≤ (Duration.ofMicros elapsed).nanos ∧ elapsed ≤ looked ∧
      flapped.past.dropLast = before ++ .looked looked (some (looked - elapsed)) :: after ∧
      (∀ e ∈ after, e.isQuiet = true) ∧
      ∀ m ∈ marksOf before, m.good = true → m.time ≤ looked - elapsed := by
  have hruns : Runs flapping (start : Gated Unit) flapped :=
    .head (.pass (Nat.zero_le 5)) <| .head (.mark false) <|
    .head (.look rfl (Nat.zero_le 5)) <|
    .head (.nap rfl (by rintro l ⟨⟩; decide)) <|
    .head (.pass (by decide : 5 ≤ 9)) <| .head (.mark true) <|
    .head (.pass (by decide : 9 ≤ 12)) <| .head (.mark false) <|
    .head (.pass (by decide : 12 ≤ 14)) <| .head (.mark true) <|
    .head (.pass (by decide : 14 ≤ 15)) <| .head (.look rfl (by decide)) <|
    .head (.enter rfl) <| .head (.begin rfl) <|
    .head (.pass (by decide : 15 ≤ 20)) <| .head (.mark false) <|
    .head (.finish 0 .timedOut rfl) <|
    .head (.pass (by decide : 20 ≤ 21)) <| .head (.mark false) <|
    .head (.pass (by decide : 21 ≤ 60)) <| .head (.look rfl (by decide)) <|
    .single (.giveUp rfl rfl (by decide))
  obtain ⟨hgated, -, -⟩ := gated_of_runs
  obtain ⟨-, houtage, -, hbegan, -, hgone⟩ := hgated Unit flapping flapped hruns
  exact ⟨hruns, (houtage 20).mp rfl, hbegan _ 15 _ rfl, hgone _ 60 _ [] rfl⟩

end Gated

end DataStaging
