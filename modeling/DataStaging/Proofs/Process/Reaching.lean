import DataStaging.Proofs.Process.Gating

/-!
# Runs along the marks of a connection

Where the marks of a connection come at set times, a run that looks when its clock says so takes one
of the orders in which run, clock and marks can take their steps. What it puts down is told by the
times of its waits.

Results:
* `Reaches.step`: a step of the run.
* `reaches_awaitGood`: waiting for the connection, with all its looks.
-/

namespace DataStaging

namespace Gated

variable {α : Type} {k : Trial} {c : Connection} {report : RunReport} {stage : Stage α}
  {log : List Happening}

/-- What happened, the marks apart. -/
def unmarked (past : List Happening) : List Happening := past.filter fun e => e.mark?.isNone

/-- Some order of steps leads to a state with this clock, stage and report, where the marks of the
    connection have come that are due by then, and all else that happened is in this log. -/
def Reaches (k : Trial) (c : Connection) (clock : Nat) (stage : Stage α) (report : RunReport)
    (log : List Happening) : Prop :=
  ∃ s : Gated α, Runs k start s ∧ s.clock = clock ∧ s.stage = stage ∧ s.report = report ∧
    marksOf s.past = c.marks.filter (fun m => m.time ≤ clock) ∧ unmarked s.past = log

/-- The marks come in the order of their times. -/
def Ordered (marks : List Mark) : Prop := marks.Pairwise fun m m' => m.time ≤ m'.time

/-! ## Time and marks -/

/-- The marks up to a time are those up to an earlier one, and after them those in between. -/
theorem Ordered.filter_le {marks : List Mark} (h : Ordered marks) {a b : Nat} (hab : a ≤ b) :
    marks.filter (fun m => m.time ≤ b) = marks.filter (fun m => m.time ≤ a) ++
      marks.filter (fun m => a < m.time && m.time ≤ b) := by
  induction marks with
  | nil => rfl
  | cons m marks ih =>
    obtain ⟨hm, hrest⟩ := List.pairwise_cons.mp h
    by_cases hma : m.time ≤ a
    · have hmb : m.time ≤ b := Nat.le_trans hma hab
      rw [List.filter_cons_of_pos (by simpa using hmb),
        List.filter_cons_of_pos (by simpa using hma),
        List.filter_cons_of_neg (by simp [Nat.not_lt.mpr hma]), ih hrest, List.cons_append]
    · -- the first mark is too late already, and so are all others
      have hlate : ∀ x ∈ m :: marks, a < x.time := by
        intro x hx
        rcases List.mem_cons.mp hx with rfl | hx
        · exact Nat.lt_of_not_le hma
        · exact Nat.lt_of_lt_of_le (Nat.lt_of_not_le hma) (hm x hx)
      have hnone : (m :: marks).filter (fun x => x.time ≤ a) = [] :=
        List.filter_eq_nil_iff.mpr fun x hx => by simpa using hlate x hx
      rw [hnone, List.nil_append]
      refine List.filter_congr fun x hx => ?_
      simp [hlate x hx]

/-- Marks come one after the other. -/
theorem runs_marks {marks : List Mark} (hordered : Ordered marks) {time : Nat} {s : Gated α}
    (hmarks : ∀ m ∈ marks, s.clock ≤ m.time ∧ m.time ≤ time) (htime : s.clock ≤ time) :
    ∃ s', Runs k s s' ∧ s'.clock = time ∧ s'.stage = s.stage ∧ s'.report = s.report ∧
      marksOf s'.past = marksOf s.past ++ marks ∧ unmarked s'.past = unmarked s.past := by
  induction marks generalizing s with
  | nil => exact ⟨_, .single (.pass htime), rfl, rfl, rfl, (List.append_nil _).symm, rfl⟩
  | cons m marks ih =>
    obtain ⟨hm, hrest⟩ := List.pairwise_cons.mp hordered
    obtain ⟨hfrom, hto⟩ := hmarks m List.mem_cons_self
    let s₁ : Gated α := { s with
      clock := m.time
      health := s.health.mark m
      past := s.past ++ [.marked m] }
    have hs₁ : Runs k s s₁ := .head (.pass hfrom) (.single (.mark m.good))
    obtain ⟨s', hruns, hclock, hstage, hreport, hpast, hlog⟩ := @ih hrest s₁
      (fun x hx => ⟨hm x hx, (hmarks x (List.mem_cons_of_mem m hx)).2⟩) hto
    refine ⟨s', hs₁.trans hruns, hclock, hstage, hreport, ?_, ?_⟩
    · rw [hpast, marksOf_concat_marked, List.append_assoc]
      rfl
    · rw [hlog, unmarked, List.filter_append]
      exact List.append_nil _

/-- Time passes, and the marks come that are due. -/
theorem Reaches.later (hordered : Ordered c.marks) {now time : Nat}
    (h : Reaches k c now stage report log) (htime : now ≤ time) :
    Reaches k c time stage report log := by
  obtain ⟨s, hs, rfl, rfl, rfl, hmarks, rfl⟩ := h
  have hdue : ∀ m ∈ c.marks.filter (fun m => s.clock < m.time && m.time ≤ time),
      s.clock ≤ m.time ∧ m.time ≤ time := by
    intro m hm
    have hbetween := (List.mem_filter.mp hm).2
    rw [Bool.and_eq_true, decide_eq_true_eq, decide_eq_true_eq] at hbetween
    exact ⟨Nat.le_of_lt hbetween.1, hbetween.2⟩
  obtain ⟨s', hruns, hclock, hstage, hreport, hpast, hlog⟩ :=
    @runs_marks α k _ (hordered.filter _) time s hdue htime
  refine ⟨s', hs.trans hruns, hclock, hstage, hreport, ?_, hlog⟩
  rw [hpast, hmarks, ← hordered.filter_le htime]

theorem reaches_start (hordered : Ordered c.marks) (time : Nat) :
    Reaches k c time (.due 0 : Stage α) .start [] := by
  have hdue : ∀ m ∈ c.marks.filter (fun m => m.time ≤ time),
      (start : Gated α).clock ≤ m.time ∧ m.time ≤ time :=
    fun m hm => ⟨Nat.zero_le _, of_decide_eq_true (List.mem_filter.mp hm).2⟩
  obtain ⟨s', hruns, hclock, hstage, hreport, hpast, hlog⟩ :=
    @runs_marks α k _ (hordered.filter _) time start hdue (Nat.zero_le _)
  exact ⟨s', hruns, hclock, hstage, hreport, hpast, hlog⟩

/-! ## The steps of a run -/

/-- A step that takes no time, and puts down `more`, none of it a mark. -/
theorem Reaches.step {now : Nat} {stage' : Stage α} {report' : RunReport} (more : List Happening)
    (hmore : ∀ e ∈ more, e.mark? = none) (h : Reaches k c now stage report log)
    (hstep : ∀ s : Gated α, Account k s → s.clock = now → s.stage = stage → s.report = report →
      marksOf s.past = c.marks.filter (fun m => m.time ≤ now) →
        ∃ s', Step k s s' ∧ s'.clock = now ∧ s'.stage = stage' ∧ s'.report = report' ∧
          s'.past = s.past ++ more) :
    Reaches k c now stage' report' (log ++ more) := by
  obtain ⟨s, hs, hclock, hstage, hreport, hmarks, rfl⟩ := h
  obtain ⟨s', hs', hclock', hstage', hreport', hpast⟩ :=
    hstep s (account_of_runs hs) hclock hstage hreport hmarks
  refine ⟨s', hs.tail hs', hclock', hstage', hreport', ?_, ?_⟩
  · rw [hpast, marksOf, List.filterMap_append, List.filterMap_eq_nil_iff.mpr hmore, List.append_nil]
    exact hmarks
  · have hkept : more.filter (fun e => e.mark?.isNone) = more :=
      List.filter_eq_self.mpr fun e he => by rw [hmore e he]; rfl
    rw [hpast, unmarked, List.filter_append, hkept]
    rfl

/-- A step that takes no time, and puts down one thing that is no mark. -/
theorem Reaches.happen {now : Nat} {stage' : Stage α} (e : Happening) (he : e.mark? = none)
    (h : Reaches k c now stage report log)
    (hstep : ∀ s : Gated α, s.clock = now → s.stage = stage →
      Step k s { s with stage := stage', past := s.past ++ [e] }) :
    Reaches k c now stage' report (log ++ [e]) :=
  h.step [e] (List.forall_mem_singleton.mpr he) fun s _ hclock hstage hreport _ =>
    ⟨_, hstep s hclock hstage, hclock, rfl, hreport, rfl⟩

theorem Reaches.look {now time : Nat} (h : Reaches k c now (.due time : Stage α) report log)
    (htime : time ≤ now) :
    Reaches k c now (.seen ((c.brokenSince? now).map (now - ·)) : Stage α) report
      (log ++ [.looked now (c.brokenSince? now)]) := by
  refine h.step [_] (List.forall_mem_singleton.mpr rfl) fun s acc hclock hstage hreport hmarks => ?_
  have hsince : s.health.since = c.brokenSince? now := by
    rw [acc.health, Health.since_after, hmarks]
    rfl
  subst hclock
  rw [← hsince]
  exact ⟨_, .look hstage htime, rfl, rfl, hreport, rfl⟩

theorem Reaches.enter {now : Nat} (h : Reaches k c now (.seen none : Stage α) report log) :
    Reaches k c now (.admitted : Stage α) report (log ++ [.waited now (.ok ())]) :=
  h.happen _ rfl fun _ hclock hstage => hclock ▸ .enter hstage

theorem Reaches.giveUp {now gone : Nat} {limit : Duration}
    (h : Reaches k c now (.seen (some gone) : Stage α) report log) (hlimit : k.limit = some limit)
    (hlong : limit.nanos ≤ (Duration.ofMicros gone).nanos) :
    Reaches k c now (.done (.error (.serviceGone (.ofMicros gone) limit)) : Stage α) report
      (log ++ [.waited now (.error (.serviceGone (.ofMicros gone) limit))]) :=
  h.happen _ rfl fun _ hclock hstage => hclock ▸ .giveUp hstage hlimit hlong

theorem Reaches.nap {now gone : Nat} (h : Reaches k c now (.seen (some gone) : Stage α) report log)
    (hshort : Bearable k.limit gone) :
    Reaches k c now (.due (now + k.poll.micros) : Stage α) report log := by
  have hnap : Reaches k c now (.due (now + k.poll.micros) : Stage α) report (log ++ []) :=
    h.step [] (fun _ he => absurd he List.not_mem_nil) fun s _ hclock hstage hreport _ =>
      ⟨_, .nap hstage hshort, hclock, hclock ▸ rfl, hreport, (List.append_nil _).symm⟩
  rwa [List.append_nil] at hnap

theorem Reaches.begin {now : Nat} (h : Reaches k c now (.admitted : Stage α) report log) :
    Reaches k c now (.attempting : Stage α) report (log ++ [.began now]) :=
  h.happen _ rfl fun _ hclock hstage => hclock ▸ .begin hstage

theorem Reaches.finish {now : Nat} (h : Reaches k c now (.attempting : Stage α) report log)
    (jitter : Float) (outcome : Attempt α) {report' : RunReport} {notices : Notices}
    {next : Retry.Next α} (hadvance : Retry.advance k.policy k.label k.hasVariant jitter report
      outcome = (report', notices, next)) :
    Reaches k c now (stageAfter k now report' next) report' (log ++ [.ended now]) := by
  refine h.step [_] (List.forall_mem_singleton.mpr rfl) fun s _ hclock hstage hreport _ =>
    ⟨_, .finish jitter outcome hstage, ?_⟩
  subst hclock hreport
  simp only [Gated.finish, hadvance]
  exact ⟨trivial, trivial, trivial, trivial⟩

theorem Reaches.fail {now : Nat} (h : Reaches k c now (.attempting : Stage α) report log)
    (fault : Fault) :
    Reaches k c now (.done (.error fault) : Stage α) report (log ++ [.ended now]) :=
  h.happen _ rfl fun _ hclock hstage => hclock ▸ .fail fault hstage

/-! ## Waiting for the connection -/

/-- The looks of a wait that begins at a time, up to the one that comes so many steps later. -/
def looks (c : Connection) (arrived steps : Nat) : List Happening :=
  (List.range (steps + 1)).map fun i =>
    .looked (arrived + i * c.step) (c.brokenSince? (arrived + i * c.step))

theorem looks_zero (c : Connection) (arrived : Nat) :
    looks c arrived 0 = [.looked arrived (c.brokenSince? arrived)] := by
  simp [looks]

theorem looks_succ (c : Connection) (arrived steps : Nat) :
    looks c arrived (steps + 1) =
      .looked arrived (c.brokenSince? arrived) :: looks c (arrived + c.step) steps := by
  rw [looks, List.range_succ_eq_map, List.map_cons, List.map_map, looks]
  simp [Function.comp_def, Nat.succ_mul, Nat.add_assoc, Nat.add_comm c.step]

/-- A wait for the connection ends well with some look, and an attempt is due. -/
def Admits (k : Trial) (c : Connection) (arrived time : Nat) (α : Type) (report : RunReport)
    (log : List Happening) : Prop :=
  ∃ steps, time = arrived + steps * c.step ∧ Reaches k c time (.admitted : Stage α) report
    (log ++ looks c arrived steps ++ [.waited time (.ok ())])

/-- A wait for the connection is given up with some look, and so is the run. -/
def Refuses (k : Trial) (c : Connection) (arrived : Nat) (fault : Fault) (α : Type)
    (report : RunReport) (log : List Happening) : Prop :=
  ∃ steps, Reaches k c (arrived + steps * c.step) (.done (.error fault) : Stage α) report
    (log ++ looks c arrived steps ++ [.waited (arrived + steps * c.step) (.error fault)])

/-- The run finds the connection good. -/
theorem Reaches.admits {now time : Nat} (h : Reaches k c now (.due time : Stage α) report log)
    (htime : time ≤ now) (hgood : c.brokenSince? now = none) : Admits k c now now α report log := by
  have hlook := h.look htime
  rw [← looks_zero, hgood] at hlook
  exact ⟨0, by rw [Nat.zero_mul, Nat.add_zero], hlook.enter⟩

/-- A wait goes on after a look that came one step before. -/
theorem admits_of_step {now time : Nat} (h : Admits k c (now + c.step) time α report
    (log ++ [.looked now (c.brokenSince? now)])) : Admits k c now time α report log := by
  obtain ⟨steps, htime, hreaches⟩ := h
  refine ⟨steps + 1, by rw [htime, Nat.succ_mul, Nat.add_assoc, Nat.add_comm c.step], ?_⟩
  rwa [looks_succ, ← List.singleton_append, ← List.append_assoc log]

theorem refuses_of_step {now : Nat} {fault : Fault} (h : Refuses k c (now + c.step) fault α report
    (log ++ [.looked now (c.brokenSince? now)])) : Refuses k c now fault α report log := by
  obtain ⟨steps, hreaches⟩ := h
  refine ⟨steps + 1, ?_⟩
  rw [Nat.succ_mul, Nat.add_comm (steps * c.step), ← Nat.add_assoc, looks_succ,
    ← List.singleton_append, ← List.append_assoc log]
  exact hreaches

/-- The run watches this connection. -/
structure Watches (k : Trial) (c : Connection) : Prop where
  poll : k.poll = c.poll
  limit : k.limit = c.limit
  ordered : Ordered c.marks

variable (hk : Watches k c)
include hk

/-- The run looks again after a wait, since the connection may be broken for so long. -/
theorem Reaches.again {now time since : Nat} (h : Reaches k c now (.due time : Stage α) report log)
    (htime : time ≤ now) (hsince : c.brokenSince? now = some since)
    (hshort : Bearable c.limit (now - since)) :
    Reaches k c (now + c.step) (.due (now + k.poll.micros) : Stage α) report
      (log ++ [.looked now (c.brokenSince? now)]) := by
  have hlook := h.look htime
  rw [hsince] at hlook ⊢
  exact (hlook.nap (hk.limit ▸ hshort)).later hk.ordered (Nat.le_add_right _ _)

theorem reaches_await {fuel now time : Nat} (h : Reaches k c now (.due time : Stage α) report log)
    (htime : time ≤ now) :
    (∀ t, c.await fuel now = .ok t → Admits k c now t α report log) ∧
    ∀ fault, c.await fuel now = .error (.fault fault) → Refuses k c now fault α report log := by
  induction fuel generalizing now time log with
  | zero => exact ⟨by rintro t ⟨⟩, by rintro fault ⟨⟩⟩
  | succ fuel ih =>
    rw [Connection.await]
    cases hsince : c.brokenSince? now with
    | none =>
      refine ⟨?_, by rintro fault ⟨⟩⟩
      rintro t ⟨⟩
      exact h.admits htime hsince
    | some since =>
      have hnext : Bearable c.limit (now - since) →
          (∀ t, c.await fuel (now + c.step) = .ok t → Admits k c now t α report log) ∧
          ∀ fault, c.await fuel (now + c.step) = .error (.fault fault) →
            Refuses k c now fault α report log := by
        intro hshort
        have hstep : k.poll.micros ≤ c.step := hk.poll ▸ Nat.le_max_left _ _
        obtain ⟨hok, hfault⟩ := ih (h.again hk htime hsince hshort) (Nat.add_le_add_left hstep now)
        exact ⟨fun t ht => admits_of_step (hok t ht),
          fun fault hgone => refuses_of_step (hfault fault hgone)⟩
      cases hlimit : c.limit with
      | none => exact hnext (by rintro l hl; simp [hlimit] at hl)
      | some limit =>
        simp only
        split_ifs with hlong
        · have hlook := h.look htime
          rw [← looks_zero, hsince] at hlook
          refine ⟨by rintro t ⟨⟩, ?_⟩
          rintro fault ⟨⟩
          exact ⟨0, by simpa using hlook.giveUp (hk.limit.trans hlimit) hlong⟩
        · refine hnext ?_
          rintro l hl
          obtain rfl := Option.some.inj (hlimit.symm.trans hl)
          exact Nat.lt_of_not_le hlong

theorem reaches_awaitGood {now time : Nat}
    (h : Reaches k c now (.due time : Stage α) report log) (htime : time ≤ now) :
    (∀ t, c.awaitGood now = .ok t → Admits k c now t α report log) ∧
    ∀ fault, c.awaitGood now = .error (.fault fault) → Refuses k c now fault α report log := by
  unfold Connection.awaitGood
  cases hsince : c.brokenSince? now with
  | none =>
    refine ⟨?_, by rintro fault ⟨⟩⟩
    rintro t ⟨⟩
    exact h.admits htime hsince
  | some since => exact reaches_await hk h htime

end Gated

end DataStaging
