import DataStaging.Proofs.Process.Accounting
import DataStaging.Proofs.Sync.Supervision

/-!
# The reports of a session

Whatever a listener does and whenever command and stop come, what it receives are reports that the
session is alive, and after them at most one that it is not.

Results:
* `exists_of_sublist`: what can be left of the reports that were offered.
* `Session.ended_of_ending`: a session is ended by its command, or by a stop that it sees in time.
* `Session.exists_report`: a session that ends has a report.
* `exists_runs_of_run`: a session on a host takes some of the steps.
* `reports_of_runs`: what is received and offered, and what the session comes to.
-/

namespace DataStaging

namespace Supervised

variable {interval capacity : Nat} {s : Supervised}

/-- What is left of reports that the session is alive and of the last one. -/
theorem exists_of_sublist {n : Nat} {reports last : List Bool}
    (hlast : last = [] ∨ last = [false]) (h : reports.Sublist (List.replicate n true ++ last)) :
    ∃ m, reports = List.replicate m true ∨ reports = List.replicate m true ++ [false] := by
  obtain ⟨alive, rest, rfl, halive, hrest⟩ := List.sublist_append_iff.mp h
  obtain ⟨m, -, rfl⟩ := List.sublist_replicate_iff.mp halive
  refine ⟨m, ?_⟩
  rcases hlast with rfl | rfl
  · rw [List.sublist_nil.mp hrest, List.append_nil]
    exact Or.inl rfl
  · rcases List.sublist_singleton.mp hrest with rfl | rfl
    · exact Or.inl (List.append_nil _)
    · exact Or.inr rfl

theorem lastTaken_eq (stage : SupervisorStage) :
    stage.lastTaken = [] ∨ stage.lastTaken = [false] := by
  cases stage with
  | watching _ | offering _ _ => exact Or.inl rfl
  | done _ _ => exact Or.inr rfl

/-! ## Sessions on a host -/

/-- While a session watches, anything can happen at its queue. -/
theorem runs_events (events : List QueueEvent) {due : Nat} (hstage : s.stage = .watching due) :
    ∃ s' due', Runs interval s s' ∧ s'.queue = s.queue.after events ∧
      s'.stage = .watching due' ∧ s'.exit = s.exit := by
  induction events generalizing s due with
  | nil => exact ⟨s, due, .refl, rfl, hstage, rfl⟩
  | cons event events ih =>
    obtain ⟨s₁, due₁, hs₁, hqueue, hstage₁, hexit⟩ : ∃ s₁ due₁, Runs interval s s₁ ∧
        s₁.queue = s.queue.step event ∧ s₁.stage = .watching due₁ ∧ s₁.exit = s.exit := by
      cases event with
      | alive =>
        exact ⟨_, _, .head (.pass (Nat.le_max_left s.clock due))
          (.single (.tick hstage (Nat.le_max_right s.clock due))), rfl, rfl, rfl⟩
      | read => exact ⟨_, due, .single .read, rfl, hstage, rfl⟩
      | leave => exact ⟨_, due, .single .leave, rfl, hstage, rfl⟩
    obtain ⟨s', due', hs', hqueue', hstage', hexit'⟩ := ih hstage₁
    refine ⟨s', due', hs₁.trans hs', ?_, hstage', hexit'.trans hexit⟩
    rw [hqueue', hqueue]
    rfl

/-- A session that offers its last report comes to its end, whether the report is taken or not. -/
theorem runs_done {finish : SessionEnd} {deadline : Nat}
    (hstage : s.stage = .offering finish deadline) :
    ∃ s', Runs interval s s' ∧ s'.queue = s.queue.offer false ∧
      s'.stage = .done finish (Session.outcome finish) := by
  cases hroom : s.queue.hasRoom with
  | true => exact ⟨_, .single (.handOver hstage hroom), rfl, rfl⟩
  | false =>
    have hsame : s.queue = s.queue.offer false := by
      rw [ReportQueue.offer, hroom]
      rfl
    cases hheard : s.queue.heard with
    | false => exact ⟨_, .single (.desert hstage hheard), hsame, rfl⟩
    | true =>
      exact ⟨_, .head (.pass (Nat.le_max_left s.clock deadline))
        (.single (.giveUp hstage hheard hroom (Nat.le_max_right s.clock deadline))), hsame, rfl⟩

/-- A session that watches can be ended by its command or by a stop. -/
theorem runs_finish {due : Nat} (hstage : s.stage = .watching due) (hexit : s.exit = none)
    (finish : SessionEnd) :
    ∃ s', Runs interval s s' ∧ s'.queue = s.queue.offer false ∧
      s'.stage = .done finish (Session.outcome finish) := by
  obtain ⟨s₁, hs₁, hqueue, hstage₁⟩ : ∃ s₁, Runs interval s s₁ ∧ s₁.queue = s.queue ∧
      s₁.stage = .offering finish (s.clock + interval) := by
    cases finish with
    | stopped => exact ⟨_, .head .raise (.single (.seeStop hstage rfl)), rfl, rfl⟩
    | exited status =>
      exact ⟨_, .head (.exit status hexit) (.single (.seeExit hstage rfl)), rfl, rfl⟩
  obtain ⟨s', hs', hqueue', hover⟩ := runs_done hstage₁
  exact ⟨s', hs₁.trans hs', hqueue ▸ hqueue', hover⟩

end Supervised

namespace ReportQueue

theorem drain_of_nil {q : ReportQueue} (h : q.waiting = []) : q.drain = q := by
  cases q
  cases h
  rw [drain, List.append_nil]

theorem drain_read (q : ReportQueue) : q.read.drain = q.drain := by
  unfold read
  split
  · rfl
  · rename_i report rest hwaiting
    simp [drain, hwaiting]

end ReportQueue

namespace Supervised

variable {interval capacity : Nat}

/-- The listener can read all that waits for it. -/
theorem runs_drain (s : Supervised) :
    ∃ s', Runs interval s s' ∧ s'.queue = s.queue.drain ∧ s'.stage = s.stage := by
  generalize hwaiting : s.queue.waiting = waiting
  induction waiting generalizing s with
  | nil => exact ⟨s, .refl, (ReportQueue.drain_of_nil hwaiting).symm, rfl⟩
  | cons report rest ih =>
    have hrest : s.queue.read.waiting = rest := by
      rw [ReportQueue.read, hwaiting]
    obtain ⟨s', hs', hqueue, hstage⟩ := ih { s with queue := s.queue.read } hrest
    exact ⟨s', .head .read hs', hqueue.trans s.queue.drain_read, hstage⟩

/-- What an audience hears, a listener can receive. -/
theorem exists_runs_of_heard (audience : Audience) (count : Nat) (finish : SessionEnd) :
    ∃ s, Runs interval (start (Session.queueFor audience).capacity) s ∧
      s.stage = .done finish (Session.outcome finish) ∧
      s.queue.received = Session.heard audience count := by
  have hqueue : (start (Session.queueFor audience).capacity).queue = Session.queueFor audience := by
    cases audience <;> rfl
  obtain ⟨s₁, due, hs₁, hqueue₁, hstage₁, hexit₁⟩ :=
    @runs_events interval (start (Session.queueFor audience).capacity)
      (Session.events audience count) 0 rfl
  obtain ⟨s₂, hs₂, hqueue₂, hstage₂⟩ := runs_finish hstage₁ hexit₁ finish
  obtain ⟨s₃, hs₃, hqueue₃, hstage₃⟩ := runs_drain s₂
  refine ⟨s₃, (hs₁.trans hs₂).trans hs₃, hstage₃.trans hstage₂, ?_⟩
  rw [hqueue₃, hqueue₂, hqueue₁, hqueue]
  rfl

end Supervised

namespace Session

variable {command : Command} {interval : Duration} {audience : Audience} {h h₁ h' : Host}
  {b : Behaviour}

/-- A session began and ended at these times, so: its command had come to its end, or a stop was
    seen, within an interval of when it was raised, or of the beginning if that was later. -/
inductive Ended (b : Behaviour) (stop : Option Nat) (interval began ended : Nat) :
    SessionEnd → Prop where
  | exited {last : Nat} : b.total? = some last → ended = began + last →
      Ended b stop interval began ended (.exited b.ending)
  | stopped {raised : Nat} : stop = some raised → raised ≤ ended →
      ended ≤ max raised began + interval → (∀ last, b.total? = some last → ended < began + last) →
      Ended b stop interval began ended .stopped

/-- The look that sees a stop comes after the stop, and within an interval of it. -/
theorem ended_of_stopLook {tick micros began raised : Nat} (hmicros : 0 < micros) (htick : 0 < tick)
    (hlasts : ∀ last, b.total? = some last → stopLook micros tick (raised - began) < last) :
    Ended b (some raised) micros began (began + stopLook micros tick (raised - began))
      .stopped := by
  have hafter : raised - began ≤ stopLook micros tick (raised - began) :=
    le_stopLook hmicros htick
  have hreport := stopLook_le micros tick (raised - began)
  have hlast := Nat.div_mul_le_self (raised - began) micros
  refine .stopped rfl (by omega) (by omega) fun last htotal => ?_
  exact Nat.add_lt_add_left (hlasts last htotal) began

/-- A session is ended by a stop or by the end of its command. -/
theorem ended_of_ending {stop : Option Nat} {tick micros began time : Nat} {finish : SessionEnd}
    (hmicros : 0 < micros) (htick : 0 < tick)
    (h : ending b.total? b.ending ((stop.map (· - began)).map (stopLook micros tick)) =
      some (time, finish)) : Ended b stop micros began (began + time) finish := by
  cases htotal : b.total? with
  | none =>
    cases stop with
    | none =>
      rw [htotal] at h
      cases h
    | some raised =>
      rw [htotal] at h
      cases h
      exact ended_of_stopLook hmicros htick (by rw [htotal]; exact nofun)
  | some last =>
    cases stop with
    | none =>
      rw [htotal] at h
      cases h
      exact .exited htotal rfl
    | some raised =>
      rw [htotal] at h
      simp only [ending, Option.map_some] at h
      split_ifs at h with hlast
      · cases h
        exact .exited htotal rfl
      · cases h
        refine ended_of_stopLook hmicros htick fun last' hlast' => ?_
        obtain rfl := Option.some.inj (htotal.symm.trans hlast')
        exact Nat.lt_of_not_le hlast

/-- What is left of a session when its command has been started. -/
def follow (interval : Duration) (audience : Audience) (b : Behaviour) (began : Nat) :
    Act Host SessionReport := do
  let micros := max interval.micros 1
  let raised := (← get).stopAt.map (· - began)
  match ending b.total? b.ending (raised.map (stopLook micros Defaults.stopTick.micros)) with
  | none => throw .stuck
  | some (time, finish) =>
    Host.elapse time
    return ⟨heard audience (reportCount micros time), b.writtenBy time false, outcome finish⟩

theorem run_of_begin (hbegin : (Host.begin command).run h = (.ok b, h₁))
    (hinterval : interval.nanos ≠ 0) :
    (run command interval audience).run h = (follow interval audience b h.clock).run h₁ := by
  unfold run
  rw [run_get_bind, run_bind_of_ok hbegin]
  exact congrArg (fun x : Act Host SessionReport => x.run h₁) (if_neg hinterval)

/-- A session with an interval whose command was started is endless, or has a report. -/
theorem exists_report (hbegin : (Host.begin command).run h = (.ok b, h₁))
    (hdrops : h.dropsOnStop = false) (hinterval : interval.nanos ≠ 0) :
    (b.total? = none ∧ h₁.stopAt = none) ∨
      ∃ report h' n, (run command interval audience).run h = (.ok report, h') ∧
        report.heard = heard audience n := by
  have hdrops₁ : h₁.dropsOnStop = false := by
    obtain ⟨program, -, -, rfl⟩ := Host.of_run_begin hbegin
    exact hdrops
  rw [run_of_begin hbegin hinterval, follow, run_get_bind]
  simp only
  cases hending : ending b.total? b.ending
    ((h₁.stopAt.map (· - h.clock)).map
      (stopLook (max interval.micros 1) Defaults.stopTick.micros)) with
  | none =>
    left
    cases htotal : b.total? <;> cases hstop : h₁.stopAt <;> rw [htotal, hstop] at hending
    · exact ⟨rfl, rfl⟩
    all_goals cases hending
  | some p =>
    right
    simp only
    rw [run_bind_of_ok (Host.run_elapse hdrops₁ p.1)]
    exact ⟨_, _, _, rfl, rfl⟩

end Session

namespace Supervised

/-- A session on a host that comes to a result takes some of the steps. -/
theorem exists_runs_of_run {h h' : Host} {command : Command} {interval : Duration}
    {audience : Audience} {report : SessionReport}
    (hrun : (Session.run command interval audience).run h = (.ok report, h')) :
    ∃ program, h.programs command.program = some program ∧ ∃ s finish,
      Runs (max interval.micros 1) (start (Session.queueFor audience).capacity) s ∧
      s.stage = .done finish report.outcome ∧ s.queue.received = report.heard ∧
      Session.Ended (program (h.occasion command))
        (h.afterRun command (program (h.occasion command)) 0).stopAt (max interval.micros 1)
        h.clock h'.clock finish := by
  unfold Session.run at hrun
  rw [run_get_bind] at hrun
  obtain ⟨b, h₁, hbegin, hrun⟩ := exists_of_run_bind_ok hrun
  obtain ⟨program, hprogram, rfl, rfl⟩ := Host.of_run_begin hbegin
  refine ⟨program, hprogram, ?_⟩
  simp only at hrun
  split_ifs at hrun
  · cases hrun
  rw [run_get_bind] at hrun
  split at hrun
  · cases hrun
  · rename_i time finish hending
    obtain ⟨⟨⟩, h₂, helapse, hrun⟩ := exists_of_run_bind_ok hrun
    obtain ⟨rfl, rfl⟩ := eq_of_run_pure hrun
    obtain ⟨s, hs, hstage, hreceived⟩ := exists_runs_of_heard audience _ finish
    refine ⟨s, finish, hs, hstage, hreceived, ?_⟩
    have hended := Session.ended_of_ending (Nat.le_max_right _ _) (by decide) hending
    rcases Host.run_elapse_cases _ time with hlater | ⟨h₃, hdropped⟩
    · obtain ⟨-, rfl⟩ := Prod.ext_iff.mp (helapse.symm.trans hlater)
      exact hended
    · cases helapse.symm.trans hdropped

/-! ## Reports -/

/-- Whatever the order of the steps, a listener receives reports that the session is alive, and
    after them at most one that it is not. A session that is over has offered that one once; it is
    lost only where the listener has left, or has left the queue full for a whole interval. A
    session that a stop has ended, or the end of its command with status zero, has succeeded, and
    any other has failed with the status of the command. Sessions on a host are among this: they
    return where the command ends or a stop is raised, and they end by the one or the other. -/
theorem reports_of_runs :
    (∀ interval capacity s, Runs interval (start capacity) s →
      (∃ n, s.queue.received = List.replicate n true ∨
        s.queue.received = List.replicate n true ++ [false]) ∧
      (∃ n, s.offered = List.replicate n true ++ s.stage.lastOffered) ∧
      ∀ finish outcome, s.stage = .done finish outcome →
        s.offered.count false = 1 ∧
        (false ∉ s.queue.received ++ s.queue.waiting →
          s.queue.heard = false ∨ LeftFull interval capacity s) ∧
        ((finish = .stopped ∧ s.stopRaised = true ∧ outcome = .ok ()) ∨
          ∃ status, finish = .exited status ∧ s.exit = some status ∧
            outcome = if status = some 0 then .ok () else .error (.syncExited status))) ∧
    (∀ (h h' : Host) command interval audience report,
      (Session.run command interval audience).run h = (.ok report, h') →
      ∃ program, h.programs command.program = some program ∧ ∃ s finish,
        Runs (max interval.micros 1) (start (Session.queueFor audience).capacity) s ∧
        s.stage = .done finish report.outcome ∧ s.queue.received = report.heard ∧
        Session.Ended (program (h.occasion command))
          (h.afterRun command (program (h.occasion command)) 0).stopAt (max interval.micros 1)
          h.clock h'.clock finish) ∧
    ∀ (h : Host) command interval audience program, command.isUnstartable = false →
      h.programs command.program = some program → h.dropsOnStop = false → interval.nanos ≠ 0 →
      ¬((program (h.occasion command)).total? = none ∧
        (h.afterRun command (program (h.occasion command)) 0).stopAt = none) →
      ∃ report h', (Session.run command interval audience).run h = (.ok report, h') := by
  refine ⟨fun interval capacity s hruns => ?_, fun _ _ _ _ _ _ => exists_runs_of_run,
    fun h command interval audience program hnul hprogram hdrops hinterval hends => ?_⟩
  case refine_2 =>
    obtain ⟨report, h', -, hrun, -⟩ := (Session.exists_report
      (Host.run_begin hnul hprogram) hdrops hinterval).resolve_left hends
    exact ⟨report, h', hrun⟩
  have acc := account_of_runs hruns
  obtain ⟨n, hoffered, harrived⟩ := acc.reports
  refine ⟨?_, ⟨n, hoffered⟩, fun finish outcome hstage => ⟨?_, ?_, ?_⟩⟩
  · exact exists_of_sublist (lastTaken_eq s.stage)
      ((List.sublist_append_left s.queue.received s.queue.waiting).trans harrived)
  · rw [hoffered, hstage]
    simp [SupervisorStage.lastOffered, List.count_replicate]
  · intro hlost
    exact (acc.fate finish outcome hstage).2.resolve_left hlost
  · obtain ⟨rfl, -⟩ := acc.fate finish outcome hstage
    have hseen := acc.seen finish (by rw [hstage]; rfl)
    cases finish with
    | stopped => exact Or.inl ⟨rfl, hseen, rfl⟩
    | exited status => exact Or.inr ⟨status, rfl, hseen, rfl⟩

/-- A session whose listener lets the one place in the queue be taken for good: of two reports that
    it is alive the second is lost, and so is the last one. The command ends with status 7. -/
def lagged : Supervised where
  clock := 10
  stopRaised := false
  exit := some (some 7)
  queue := ⟨1, [], [true], true⟩
  offered := [true, true, false]
  stage := .done (.exited (some 7)) (.error (.syncExited (some 7)))

/-- A host whose programs end at once with status 7. -/
def refusing : Host := Retry.stage fun _ => .exited (some 7)

theorem reports_of_lagged : Runs 5 (start 1) lagged ∧
    (∃ n, lagged.queue.received = List.replicate n true) ∧ lagged.offered.count false = 1 ∧
    LeftFull 5 1 lagged ∧
    ∃ report h', (Session.run (.ofProgram "osmo") (.ofSeconds 1) (.later 1)).run refusing =
        (.ok report, h') ∧
      report.heard = [true] ∧ ∃ s, Runs 1000000 (start 1) s ∧ s.queue.received = [true] ∧
        s.stage = .done (.exited (some 7)) (.error (.syncExited (some 7))) := by
  have hruns : Runs 5 (start 1) lagged :=
    .head (.tick rfl (Nat.le_refl 0)) <|
    .head (.pass (Nat.zero_le 5)) <| .head (.tick rfl (Nat.le_refl 5)) <|
    .head (.exit (some 7) rfl) <| .head (.seeExit rfl rfl) <|
    .head (.pass (by decide : 5 ≤ 10)) <| .head (.giveUp rfl rfl rfl (Nat.le_refl 10)) <|
    .single .read
  obtain ⟨hreports, hsessions, hreturns⟩ := reports_of_runs
  obtain ⟨⟨n, hreceived⟩, -, hover⟩ := hreports 5 1 lagged hruns
  obtain ⟨hcount, hlost, -⟩ := hover _ _ rfl
  refine ⟨hruns, ⟨n, hreceived.resolve_right fun h => ?_⟩, hcount,
    (hlost (by decide)).resolve_left (by decide), ?_⟩
  · have hmem : false ∈ lagged.queue.received := by
      rw [h]
      exact List.mem_append_right _ List.mem_cons_self
    revert hmem
    decide
  · obtain ⟨report, h', hrun⟩ := hreturns refusing (.ofProgram "osmo") (.ofSeconds 1) (.later 1)
      (Run.performing fun _ => .exited (some 7)) (by decide) rfl rfl (by decide) (by decide +kernel)
    have hheard : report.heard = [true] := by
      have hreport : ((Session.run (.ofProgram "osmo") (.ofSeconds 1) (.later 1)).run
        refusing).1.map SessionReport.heard = .ok [true] := by decide +kernel
      rw [hrun] at hreport
      exact Except.ok.inj hreport
    obtain ⟨program, hprogram, s, finish, hs, hstage, hreceived, hended⟩ :=
      hsessions _ _ _ _ _ report hrun
    obtain rfl := Option.some.inj hprogram
    refine ⟨report, h', hrun, hheard, s, hs, hreceived.trans hheard, ?_⟩
    cases hended with
    | stopped hraised => cases hraised
    | exited =>
      obtain ⟨-, -, hover⟩ := hreports _ _ s hs
      obtain ⟨-, -, ⟨hfinish, -⟩ | ⟨status, hfinish, -, houtcome⟩⟩ := hover _ _ hstage
      · cases hfinish
      · cases hfinish
        rw [hstage, houtcome]
        rfl

end Supervised

end DataStaging
