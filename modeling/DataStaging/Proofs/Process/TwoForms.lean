import DataStaging.Proofs.Process.Accounting
import DataStaging.Proofs.Process.Started

/-!
# The two forms of a run

A run passes the lines of its command on, or it keeps what the command wrote. The two learn in
different ways how the command has ended: the one is told that a signal killed it, the other has the
status -1 for that. They come to the same decisions nonetheless, since no wait goes by that status.

Two hosts are *alike* if no program can tell which of them it runs on. Time passes differently on
them: a program is waited for in another way, and the waits after a rate limit are drawn anew. The
reports are those of runs of fewer than `2 ^ 32` attempts.

Results:
* `Retry.advance_alike`: what follows two attempts that ended alike.
* `run_means_succ`: one attempt of a run on a host that nothing disturbs.
* `forms_agree`: both forms start their command equally often and end alike.
-/

namespace DataStaging

/-! ## One start after another -/

/-- What a program sees when it is started once more after it has behaved so. -/
def Occasion.next (o : Occasion) (b : Behaviour) : Occasion :=
  ⟨o.earlier ++ [o.start], o.start, b.tree, o.folder⟩

/-- What a program does at the `n`-th of its starts in a row. -/
def Program.behaviourAt (program : Program) (o : Occasion) : Nat → Behaviour
  | 0 => program o
  | n + 1 => behaviourAt program (o.next (program o)) n

/-- A program ends, with a status or by a signal, and was never silent for too long before it closed
    its streams. -/
structure Behaviour.Exits (idle : Duration) (b : Behaviour) : Prop where
  ends : b.lasting.isSome = true
  heard : ∃ lines elapsed,
    Listening.listen idle (b.closing.or b.lasting) b.emissions .start = .closed lines elapsed

/-! ## Hosts -/

namespace Host

/-- The connection is good at all times, and nothing is dropped. -/
structure Undisturbed (h : Host) : Prop where
  healthy : ∀ now, h.connection.brokenSince? now = none
  dropsOnStop : h.dropsOnStop = false

/-- No program can tell which of the two hosts it runs on, and as many attempts are taken for
    endless on both. -/
structure Alike (h h' : Host) : Prop where
  tree : h'.tree = h.tree
  folder : h'.folder = h.folder
  env : h'.env = h.env
  programs : h'.programs = h.programs
  starts : h'.starts = h.starts
  patience : h'.patience = h.patience

variable {h h' h₁ : Host} {command : Command} {b : Behaviour} {lines : Notices}

namespace Alike

theorem symm (hsame : h.Alike h') : h'.Alike h :=
  ⟨hsame.tree.symm, hsame.folder.symm, hsame.env.symm, hsame.programs.symm, hsame.starts.symm,
    hsame.patience.symm⟩

theorem trans (hsame : h.Alike h') (hsame' : h'.Alike h₁) : h.Alike h₁ :=
  ⟨hsame'.tree.trans hsame.tree, hsame'.folder.trans hsame.folder, hsame'.env.trans hsame.env,
    hsame'.programs.trans hsame.programs, hsame'.starts.trans hsame.starts,
    hsame'.patience.trans hsame.patience⟩

theorem occasion (hsame : h.Alike h') (command : Command) :
    h'.occasion command = h.occasion command := by
  unfold Host.occasion
  rw [hsame.starts, hsame.env, hsame.tree, hsame.folder]

/-- Hosts stay alike over a start, whatever is heard of the program and however long it takes. -/
theorem afterHearing (hsame : h.Alike h') (command : Command) (b : Behaviour)
    (lines lines' : Notices) (elapsed elapsed' : Nat) :
    (h.afterHearing command b lines elapsed).Alike (h'.afterHearing command b lines' elapsed') where
  tree := rfl
  folder := hsame.folder
  env := hsame.env
  programs := hsame.programs
  starts := by
    change h'.starts ++ [(h'.occasion command).start] = h.starts ++ [(h.occasion command).start]
    rw [hsame.starts, hsame.occasion]
  patience := hsame.patience

end Alike

/-- The host later, with more notices. -/
def later (h : Host) (lines : Notices) (micros : Nat) : Host :=
  { h with notices := h.notices ++ lines, clock := h.clock + micros }

theorem alike_later (h : Host) (lines : Notices) (micros : Nat) : h.Alike (h.later lines micros) :=
  ⟨rfl, rfl, rfl, rfl, rfl, rfl⟩

theorem Undisturbed.later (hh : h.Undisturbed) (lines : Notices) (micros : Nat) :
    (h.later lines micros).Undisturbed :=
  ⟨hh.healthy, hh.dropsOnStop⟩

theorem Undisturbed.afterHearing (hh : h.Undisturbed) (command : Command) (b : Behaviour)
    (lines : Notices) (elapsed : Nat) : (h.afterHearing command b lines elapsed).Undisturbed :=
  ⟨hh.healthy, hh.dropsOnStop⟩

end Host

/-! ## Attempts that end alike -/

/-- Two attempts that end alike, where the second one takes a signal for the status -1. -/
inductive Attempt.Alike {α β : Type} : Attempt α → Attempt β → Prop
  | succeeded (a : α) (b : β) : Alike (.succeeded a) (.succeeded b)
  | exited (status : Option Int) : Alike (.exited status) (.exited (some (status.getD (-1))))

namespace Retry

variable {α β : Type} {policy : RetryPolicy} {label : String} {hasVariant : Bool} {status : Int}

/-- The same follows, but for the result and for how long a rate limit is waited out. -/
inductive Next.Alike : Next α → Next β → Prop
  | done (a : α) (b : β) : Alike (.done a) (.done b)
  | awaitService : Alike .awaitService .awaitService
  | awaitQuota (delay delay' : Duration) : Alike (.awaitQuota delay) (.awaitQuota delay')
  | again : Alike .again .again
  | spent : Alike .spent .spent

theorem charge_alike (report : RunReport) (notice notice' : String) :
    Next.Alike (charge (α := α) policy label report notice).2.2
      (charge (α := β) policy label report notice').2.2 := by
  rw [charge_next, charge_next]
  split_ifs
  · exact .spent
  · exact .again

variable (policy label hasVariant) in
/-- What follows two attempts that ended alike. -/
theorem advance_alike {o : Attempt α} {o' : Attempt β} (hsame : o.Alike o') (jitter jitter' : Float)
    (report : RunReport) :
    (advance policy label hasVariant jitter' report o').1 =
        (advance policy label hasVariant jitter report o).1 ∧
      Next.Alike (advance policy label hasVariant jitter report o).2.2
        (advance policy label hasVariant jitter' report o').2.2 := by
  cases hsame with
  | succeeded a b => exact ⟨rfl, .done a b⟩
  | exited exit =>
    cases exit with
    | none => exact ⟨(charge_report _ _).trans (charge_report _ _).symm, charge_alike _ _ _⟩
    | some exit =>
      simp only [advance, Option.getD_some]
      by_cases hunreachable : some exit = some ExitStatus.serviceUnreachable
      · rw [if_pos hunreachable, if_pos hunreachable]
        exact ⟨rfl, .awaitService⟩
      rw [if_neg hunreachable, if_neg hunreachable]
      by_cases hlimited : some exit = some ExitStatus.rateLimited
      · rw [if_pos hlimited, if_pos hlimited]
        exact ⟨rfl, .awaitQuota _ _⟩
      rw [if_neg hlimited, if_neg hlimited]
      exact ⟨(charge_report _ _).trans (charge_report _ _).symm, charge_alike _ _ _⟩

end Retry

namespace Run

open Host

variable {α β : Type} {h h' h₁ : Host} {policy : RetryPolicy} {command : Command}
  {program : Program} {b : Behaviour} {lines : Notices} {elapsed : Nat} {label : String}
  {hasVariant : Bool} {status : Int} {patience : Nat} {report : RunReport}

/-- How a program has ended whose output is kept. -/
def kept (b : Behaviour) : Attempt String :=
  if (Output.ofBehaviour b).succeeded then .succeeded (Output.ofBehaviour b).out
  else .exited (some (Output.ofBehaviour b).status)

theorem outcome_alike_kept (b : Behaviour) : b.outcome.Alike (kept b) := by
  unfold Behaviour.outcome kept Output.succeeded
  cases hending : b.ending with
  | none =>
    have hstatus : (Output.ofBehaviour b).status = -1 := Output.status_signal b hending
    rw [hstatus]
    exact .exited none
  | some ending =>
    have hstatus : (Output.ofBehaviour b).status = ending := by
      rw [Output.ofBehaviour, hending]
      rfl
    rw [hstatus]
    by_cases hzero : ending = 0
    · subst hzero
      exact .succeeded _ _
    · simpa [hzero] using Attempt.Alike.exited (some ending)

/-- An attempt whose lines are passed on ends as its program does, if that exits. -/
theorem exists_run_streamingAttempt {idle : Duration} (hnul : command.isUnstartable = false)
    (hprogram : h.programs command.program = some program) (hh : h.Undisturbed)
    (hexits : (program (h.occasion command)).Exits idle) :
    ∃ lines elapsed, (streamingAttempt command idle).run h =
      (.ok (program (h.occasion command)).outcome,
        h.afterHearing command (program (h.occasion command)) lines elapsed) := by
  obtain ⟨hends, lines, elapsed, hheard⟩ := hexits
  obtain ⟨last, hlasting⟩ := Option.isSome_iff_exists.mp hends
  have hrun := run_streamingAttempt_of_closed hnul hprogram rfl hh.dropsOnStop hheard
  rw [hlasting] at hrun
  exact ⟨lines, _, hrun⟩

/-- So does an attempt whose output is kept. -/
theorem exists_run_bufferedAttempt (hnul : command.isUnstartable = false)
    (hprogram : h.programs command.program = some program) (hh : h.Undisturbed)
    (hends : (program (h.occasion command)).lasting.isSome) :
    ∃ lines elapsed, (bufferedAttempt command).run h =
      (.ok (kept (program (h.occasion command))),
        h.afterHearing command (program (h.occasion command)) lines elapsed) := by
  obtain ⟨last, hlasting⟩ := Option.isSome_iff_exists.mp hends
  obtain ⟨total, htotal⟩ : ∃ total, (program (h.occasion command)).total? = some total :=
    ⟨_, congrArg (Option.map _) hlasting⟩
  unfold bufferedAttempt kept
  rw [run_bind_of_ok (run_once hnul hprogram htotal hh.dropsOnStop)]
  generalize Output.ofBehaviour (program (h.occasion command)) = o
  cases hsucceeded : o.succeeded with
  | true =>
    refine ⟨[], total, ?_⟩
    rw [if_pos rfl, if_pos rfl, Host.afterHearing, List.append_nil]
    rfl
  | false =>
    refine ⟨errorLines o, total, ?_⟩
    rw [if_neg Bool.false_ne_true, if_neg Bool.false_ne_true, run_bind_of_ok (run_notify _)]
    rfl

/-! ## One attempt of a run -/

variable (policy label hasVariant status patience report) in
/-- On a host that nothing disturbs, an attempt ends the run or is followed by the rest of it. -/
theorem run_means_succ (attempt : Bool → Act Host (Attempt α)) {o : Attempt α}
    (hh : h.Undisturbed) (hattempt : (attempt report.usedVariant).run h = (.ok o, h₁))
    (hh₁ : h₁.Undisturbed) :
    ∃ h₂, h₁.Alike h₂ ∧ h₂.Undisturbed ∧
      (Retry.run (means attempt) policy label hasVariant status (patience + 1) report).run h =
        match (Retry.advance policy label hasVariant h₁.jitter report o).2.2 with
        | .done value =>
          (.ok (value, (Retry.advance policy label hasVariant h₁.jitter report o).1), h₂)
        | .spent => (.error (.fault (.retriesExhausted label policy.maxRetries status)), h₂)
        | _ => (Retry.run (means attempt) policy label hasVariant status patience
            (Retry.advance policy label hasVariant h₁.jitter report o).1).run h₂ := by
  have hgate : (means attempt).gate.run h = (.ok (), h) :=
    run_awaitConnection_of_good (hh.healthy _) hh.dropsOnStop
  have hjitter : (means attempt).jitter.run h₁ = (.ok h₁.jitter, h₁) := rfl
  have hmade : ((means attempt).attempt report.usedVariant).run h = (.ok o, h₁) := hattempt
  rw [Retry.run, run_bind_of_ok hgate, run_bind_of_ok hmade, run_bind_of_ok hjitter]
  generalize Retry.advance policy label hasVariant h₁.jitter report o = p
  obtain ⟨report', lines, next⟩ := p
  have hnotify : ((means attempt).notify lines).run h₁ = (.ok (), h₁.later lines 0) := rfl
  have hwait : ∀ micros, (elapse micros).run (h₁.later lines 0) = (.ok (), h₁.later lines micros) :=
    fun micros => run_elapse (by exact hh₁.dropsOnStop) micros
  simp only [run_bind_of_ok hnotify]
  cases next with
  | done value => exact ⟨_, h₁.alike_later lines 0, hh₁.later lines 0, rfl⟩
  | spent => exact ⟨_, h₁.alike_later lines 0, hh₁.later lines 0, rfl⟩
  | again => exact ⟨_, h₁.alike_later lines 0, hh₁.later lines 0, rfl⟩
  | awaitService =>
    have hservice : (means attempt).awaitService.run (h₁.later lines 0) =
      (.ok (), h₁.later lines h₁.connection.poll.micros) := hwait _
    exact ⟨_, h₁.alike_later lines _, hh₁.later lines _, run_bind_of_ok hservice _⟩
  | awaitQuota delay =>
    have hpause : ((means attempt).pause delay).run (h₁.later lines 0) =
      (.ok (), h₁.later lines delay.micros) := hwait _
    exact ⟨_, h₁.alike_later lines _, hh₁.later lines _, run_bind_of_ok hpause _⟩

/-- A run that makes an attempt starts its command, whatever comes of it. -/
theorem lt_starts_of_run {idle : Duration} (hnul : command.isUnstartable = false)
    (hprogram : h.programs command.program = some program) (hh : h.Undisturbed) :
    h.starts.length < ((Retry.run (means fun _ => streamingAttempt command idle) policy label
      hasVariant status (patience + 1) report).run h).2.starts.length := by
  obtain ⟨f, hrun, hf⟩ := exists_run_succ_eq policy label hasVariant status patience
    (fun _ => streamingAttempt command idle) report
  obtain ⟨g, hattempt, hg⟩ := exists_streamingAttempt_eq command idle
  have hrest : ∀ b, Starts h.env (fun _ => True) (g b >>= f) := fun b =>
    (hg b).bind (hf (starts_run policy label hasVariant status patience
      fun _ => starts_streamingAttempt trivial idle))
  rw [hrun, run_bind_of_ok (run_awaitConnection_of_good (hh.healthy _) hh.dropsOnStop), hattempt,
    bind_assoc, run_bind_of_ok (run_begin hnul hprogram)]
  obtain ⟨new, hstarts, -⟩ := (hrest _ (h.afterRun command _ 0) rfl).starts
  rw [hstarts, afterRun, List.length_append, List.length_append, List.length_singleton]
  omega

/-! ## Runs -/

/-- What a run of a command comes to that is not given up for its silence, after so many starts of
    the command and with such patience. -/
inductive Ends (policy : RetryPolicy) (command : Command) (status : Int)
    (programs : String → Option Program) (patience : Nat) : Nat → Except Halt RunReport → Prop
  /-- It succeeds. -/
  | succeeded (n : Nat) (report : RunReport) (hthere : ¬command.Missing programs) :
    Ends policy command status programs patience (n + 1) (.ok report)
  /-- It has used up what the policy allows. -/
  | exhausted (n : Nat) (hthere : ¬command.Missing programs) :
    Ends policy command status programs patience (n + 1)
      (.error (.fault (.retriesExhausted command.display policy.maxRetries status)))
  /-- Its command cannot be started. -/
  | unstartable (fault : IoFault) (hmissing : command.Missing programs) :
    Ends policy command status programs patience 0 (.error (.fault (.io fault)))
  /-- It has made as many attempts as are taken for endless. -/
  | endless (hthere : command.Missing programs → patience = 0) :
    Ends policy command status programs patience patience (.error .stuck)

variable (policy command status patience report) in
/-- A run that passes lines on and has no variant, from a report on. -/
abbrev streamingFrom : Act Host (Unit × RunReport) :=
  Retry.run (means fun _ => streamingAttempt command policy.idleTimeout) policy command.display
    false status patience report

variable (policy command status patience report) in
/-- A run that keeps the output, from a report on. -/
abbrev bufferedFrom : Act Host (String × RunReport) :=
  Retry.run (means fun _ => bufferedAttempt command) policy command.display false status patience
    report

/-- What a run comes to, without what its command wrote. -/
def reported {α : Type} (p : Except Halt (α × RunReport) × Host) : Except Halt RunReport × Host :=
  (p.1.map Prod.snd, p.2)

/-- Two runs have come to the same, after `n` starts of the command, and leave hosts alike. -/
structure Agree (policy : RetryPolicy) (command : Command) (status : Int) (h : Host)
    (patience n : Nat) (p p' : Except Halt RunReport × Host) : Prop where
  result : p'.1 = p.1
  alike : p.2.Alike p'.2
  starts : p.2.starts = h.starts ++ List.replicate n (h.occasion command).start
  ends : Ends policy command status h.programs patience n p.1

variable {n : Nat} {r : Except Halt RunReport} {p p' : Except Halt RunReport × Host}

theorem Ends.succ (hthere : ¬command.Missing h.programs)
    (hends : Ends policy command status h.programs patience n r) :
    Ends policy command status h.programs (patience + 1) (n + 1) r := by
  cases hends with
  | succeeded n report _ => exact .succeeded _ _ hthere
  | exhausted n _ => exact .exhausted _ hthere
  | unstartable fault hmissing => exact absurd hmissing hthere
  | endless _ => exact .endless fun hmissing => absurd hmissing hthere

/-- Runs that agree after an attempt of both agree. -/
theorem Agree.succ (hthere : ¬command.Missing h.programs)
    (hafter : (h.afterHearing command b lines elapsed).Alike h₁)
    (hagree : Agree policy command status h₁ patience n p p') :
    Agree policy command status h (patience + 1) (n + 1) p p' where
  result := hagree.result
  alike := hagree.alike
  starts := by
    rw [hagree.starts, hafter.starts, hafter.occasion, List.replicate_succ]
    exact List.append_assoc _ [_] _
  ends := by
    have hprograms : h₁.programs = h.programs := hafter.programs
    exact (hprograms ▸ hagree.ends).succ hthere

variable (status patience report) in
/-- An attempt that both runs make ends both of them alike, or both go on from hosts that are alike
    and with the same report. -/
theorem both_succ (hnul : command.isUnstartable = false)
    (hprogram : h.programs command.program = some program) (hsame : h.Alike h')
    (hh : h.Undisturbed) (hh' : h'.Undisturbed)
    (hexits : (program (h.occasion command)).Exits policy.idleTimeout) :
    ∃ lines elapsed h₁ h₁',
      (h.afterHearing command (program (h.occasion command)) lines elapsed).Alike h₁ ∧
      h₁.Alike h₁' ∧ h₁.Undisturbed ∧ h₁'.Undisturbed ∧
      ((∃ out report',
          (streamingFrom policy command status (patience + 1) report).run h =
            (.ok ((), report'), h₁) ∧
          (bufferedFrom policy command status (patience + 1) report).run h' =
            (.ok (out, report'), h₁')) ∨
        ((streamingFrom policy command status (patience + 1) report).run h =
            (.error (.fault (.retriesExhausted command.display policy.maxRetries status)), h₁) ∧
          (bufferedFrom policy command status (patience + 1) report).run h' =
            (.error (.fault (.retriesExhausted command.display policy.maxRetries status)), h₁')) ∨
        ∃ report',
          (streamingFrom policy command status (patience + 1) report).run h =
            (streamingFrom policy command status patience report').run h₁ ∧
          (bufferedFrom policy command status (patience + 1) report).run h' =
            (bufferedFrom policy command status patience report').run h₁') := by
  have hprogram' : h'.programs command.program = some program := by
    rw [hsame.programs, hprogram]
  have hends : (program (h'.occasion command)).lasting.isSome := by
    rw [hsame.occasion]
    exact hexits.ends
  obtain ⟨lines, elapsed, hattempt⟩ := exists_run_streamingAttempt hnul hprogram hh hexits
  obtain ⟨lines', elapsed', hattempt'⟩ := exists_run_bufferedAttempt hnul hprogram' hh' hends
  rw [hsame.occasion] at hattempt'
  generalize program (h.occasion command) = b at *
  obtain ⟨h₁, hafter, hh₁, hrun⟩ := run_means_succ policy command.display false status patience
    report (fun _ => streamingAttempt command policy.idleTimeout) hh hattempt
    (hh.afterHearing _ _ _ _)
  obtain ⟨h₁', hafter', hh₁', hrun'⟩ := run_means_succ policy command.display false status patience
    report (fun _ => bufferedAttempt command) hh' hattempt' (hh'.afterHearing _ _ _ _)
  refine ⟨lines, elapsed, h₁, h₁', hafter,
    hafter.symm.trans ((hsame.afterHearing command b lines lines' elapsed elapsed').trans hafter'),
    hh₁, hh₁', ?_⟩
  obtain ⟨hreport, hnext⟩ := Retry.advance_alike policy command.display false
    (outcome_alike_kept b) (h.afterHearing command b lines elapsed).jitter
    (h'.afterHearing command b lines' elapsed').jitter report
  rw [hreport] at hrun'
  generalize (Retry.advance policy command.display false _ report b.outcome).1 = report' at *
  generalize (Retry.advance policy command.display false _ report b.outcome).2.2 = next at *
  generalize (Retry.advance policy command.display false _ report (kept b)).2.2 = next' at *
  rw [hrun, hrun']
  cases hnext with
  | done value out => exact .inl ⟨out, report', rfl, rfl⟩
  | spent => exact .inr (.inl ⟨rfl, rfl⟩)
  | awaitService => exact .inr (.inr ⟨report', rfl, rfl⟩)
  | awaitQuota delay delay' => exact .inr (.inr ⟨report', rfl, rfl⟩)
  | again => exact .inr (.inr ⟨report', rfl, rfl⟩)

theorem exists_agree (hnul : command.isUnstartable = false)
    (hprogram : h.programs command.program = some program) (hsame : h.Alike h')
    (hh : h.Undisturbed) (hh' : h'.Undisturbed)
    (hexits : ∀ n, h.starts.length + n <
        ((streamingFrom policy command status patience report).run h).2.starts.length →
      (program.behaviourAt (h.occasion command) n).Exits policy.idleTimeout) :
    ∃ n, Agree policy command status h patience n
      (reported ((streamingFrom policy command status patience report).run h))
      (reported ((bufferedFrom policy command status patience report).run h')) := by
  have hthere : ¬command.Missing h.programs := by
    rw [Command.Missing, hnul, hprogram]
    simp
  induction patience generalizing h h' report with
  | zero => exact ⟨0, rfl, hsame, (List.append_nil _).symm, .endless fun _ => rfl⟩
  | succ patience ih =>
    have hfirst : (program (h.occasion command)).Exits policy.idleTimeout :=
      hexits 0 (lt_starts_of_run hnul hprogram hh)
    obtain ⟨lines, elapsed, h₁, h₁', hafter, hsame₁, hh₁, hh₁', hboth⟩ :=
      both_succ status patience report hnul hprogram hsame hh hh' hfirst
    have hstarts : h₁.starts = h.starts ++ [(h.occasion command).start] := hafter.starts
    have hprograms : h₁.programs = h.programs := hafter.programs
    rcases hboth with ⟨out, report', hrun, hrun'⟩ | ⟨hrun, hrun'⟩ | ⟨report', hrun, hrun'⟩
    · rw [hrun, hrun']
      exact ⟨1, rfl, hsame₁, hstarts, .succeeded 0 _ hthere⟩
    · rw [hrun, hrun']
      exact ⟨1, rfl, hsame₁, hstarts, .exhausted 0 hthere⟩
    · have hoccasion : h₁.occasion command =
        (h.occasion command).next (program (h.occasion command)) := hafter.occasion command
      have hexits₁ : ∀ n, h₁.starts.length + n <
            ((streamingFrom policy command status patience report').run h₁).2.starts.length →
          (program.behaviourAt (h₁.occasion command) n).Exits policy.idleTimeout := by
        intro n hn
        rw [hstarts, List.length_append, List.length_singleton, Nat.add_right_comm] at hn
        rw [hoccasion]
        exact hexits (n + 1) (hrun ▸ hn)
      obtain ⟨n, hagree⟩ :=
        ih (hprograms ▸ hprogram) hsame₁ hh₁ hh₁' hexits₁ (hprograms ▸ hthere)
      rw [hrun, hrun']
      exact ⟨n + 1, hagree.succ hthere hafter⟩

/-! ## Both forms -/

theorem run_streaming_eq (h : Host) : (streaming policy command none status).run h =
    reported ((streamingFrom policy command status h.patience .start).run h) := by
  have hmeans : streamingMeans command none policy.idleTimeout =
      means fun _ => streamingAttempt command policy.idleTimeout := by
    simp only [streamingMeans, Option.getD_none, ite_self]
  refine run_streaming_of_run ?_
  rw [hmeans]
  rfl

theorem run_means_of_missing {attempt : Bool → Act Host (Attempt α)} {fault : IoFault}
    (hh : h.Undisturbed)
    (hattempt : (attempt report.usedVariant).run h = (.error (.fault (.io fault)), h)) :
    (Retry.run (means attempt) policy label hasVariant status (patience + 1) report).run h =
      (.error (.fault (.io fault)), h) := by
  rw [Retry.run]
  refine (run_bind_of_ok (run_awaitConnection_of_good (hh.healthy _) hh.dropsOnStop) _).trans ?_
  exact run_bind_of_error hattempt _

/-- Where the connection is good and nothing is dropped, a run that passes lines on and one that
    keeps the output agree on hosts that are alike, if the command exits at every start that the
    first one makes: they start it equally often, and either both succeed with one report, or both
    have used up what the policy allows, or both fail for the same reason to start the command, or
    neither comes to an end. -/
theorem forms_agree (policy : RetryPolicy) (command : Command) (status : Int) (hsame : h.Alike h')
    (hh : h.Undisturbed) (hh' : h'.Undisturbed)
    (hexits : ∀ program, h.programs command.program = some program → ∀ n,
      h.starts.length + n < ((streaming policy command none status).run h).2.starts.length →
        (program.behaviourAt (h.occasion command) n).Exits policy.idleTimeout) :
    ∃ n, Agree policy command status h h.patience n ((streaming policy command none status).run h)
      (reported ((buffered policy command status).run h')) := by
  have hbuffered : (buffered policy command status).run h' =
      (bufferedFrom policy command status h.patience .start).run h' := by
    unfold buffered
    rw [run_get_bind, hsame.patience]
  rw [run_streaming_eq] at hexits ⊢
  rw [hbuffered]
  by_cases hmissing : command.Missing h.programs
  · obtain ⟨fault, hbegin⟩ := run_begin_of_missing hmissing
    cases hpatience : h.patience with
    | zero => exact ⟨0, rfl, hsame, (List.append_nil _).symm, .endless fun _ => rfl⟩
    | succ patience =>
      have hrun : (streamingFrom policy command status (patience + 1) .start).run h = _ :=
        run_means_of_missing hh (run_bind_of_error (hbegin h rfl) _)
      have hrun' : (bufferedFrom policy command status (patience + 1) .start).run h' = _ :=
        run_means_of_missing hh'
          (run_bind_of_error (run_bind_of_error (hbegin h' hsame.programs) _) _)
      rw [hrun, hrun']
      exact ⟨0, rfl, hsame, (List.append_nil _).symm, .unstartable fault hmissing⟩
  · obtain ⟨hnul, hprogram⟩ := not_or.mp hmissing
    obtain ⟨program, hprogram⟩ := Option.ne_none_iff_exists'.mp hprogram
    exact exists_agree (by simpa using hnul) hprogram hsame hh hh' (hexits program hprogram)

/-- Its service is out of reach, it is killed, it is told to slow down, and it succeeds. It writes
    on both streams. -/
def faltering : Script := .steps
  [{ ScriptStep.idle with errors := [0x61, 0x0A], status := 75 },
    { ScriptStep.idle with output := [0x62], signal := some 9 },
    { ScriptStep.idle with output := [0x63, 0x0A], errors := [0x64], status := 10 },
    { ScriptStep.idle with output := [0x65, 0x0A], closes := true }]

/-- The host's programs all do so. -/
def falteringStage (jitter : Float) : Host :=
  { Retry.stage fun _ => .succeeded () with
    programs := fun _ => some faltering.program
    jitter := jitter
    patience := 9 }

/-- Both forms start it four times, and their reports say so, though a rate limit is not waited out
    equally long. -/
theorem reports_of_faltering :
    ∃ h₁ h₁', (streaming .standard (.ofProgram "sync") none 1).run (falteringStage 0) =
        (.ok ⟨1, 1, 1, 0, false⟩, h₁) ∧
      reported ((buffered .standard (.ofProgram "sync") 1).run (falteringStage 0.5)) =
        (.ok ⟨1, 1, 1, 0, false⟩, h₁') ∧
      h₁.starts.length = 4 ∧ h₁'.starts.length = 4 := by
  have hreport : ((streaming .standard (.ofProgram "sync") none 1).run (falteringStage 0)).1 =
      .ok ⟨1, 1, 1, 0, false⟩ := by decide +kernel
  have hstarts : ((streaming .standard (.ofProgram "sync") none 1).run
      (falteringStage 0)).2.starts.length = 4 := by decide +kernel
  have hexits : ∀ n < 4, (faltering.program.behaviourAt
      ((falteringStage 0).occasion (.ofProgram "sync")) n).Exits
        RetryPolicy.standard.idleTimeout := by
    intro n hn
    obtain rfl | rfl | rfl | rfl : n = 0 ∨ n = 1 ∨ n = 2 ∨ n = 3 := by omega
    · exact ⟨rfl, ["a"], 0, by decide +kernel⟩
    · exact ⟨rfl, ["b"], 0, by decide +kernel⟩
    · exact ⟨rfl, ["c", "d"], 0, by decide +kernel⟩
    · exact ⟨rfl, ["e"], 0, by decide +kernel⟩
  have hsame : (falteringStage 0).Alike (falteringStage 0.5) := ⟨rfl, rfl, rfl, rfl, rfl, rfl⟩
  have hcalled : ∀ program, (falteringStage 0).programs "sync" = some program → ∀ n,
      0 + n < ((streaming .standard (.ofProgram "sync") none 1).run
        (falteringStage 0)).2.starts.length →
      (program.behaviourAt ((falteringStage 0).occasion (.ofProgram "sync")) n).Exits
        RetryPolicy.standard.idleTimeout := by
    rintro program ⟨⟩ n hn
    rw [hstarts, Nat.zero_add] at hn
    exact hexits n hn
  obtain ⟨n, hresult, halike, -, -⟩ := forms_agree .standard (.ofProgram "sync") 1 hsame
    ⟨fun _ => rfl, rfl⟩ ⟨fun _ => rfl, rfl⟩ hcalled
  -- from here on, nothing is to be computed any more
  generalize (streaming .standard (.ofProgram "sync") none 1).run (falteringStage 0) = p at *
  generalize reported ((buffered .standard (.ofProgram "sync") 1).run (falteringStage 0.5)) = p'
    at *
  exact ⟨p.2, p'.2, Prod.ext hreport rfl, Prod.ext (hresult.trans hreport) rfl, hstarts,
    (congrArg List.length halike.starts).trans hstarts⟩

end Run

end DataStaging
