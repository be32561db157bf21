import DataStaging.Proofs.Process.Attempts
import DataStaging.Proofs.Process.Starts

/-!
# Runs on a calm host

On a host whose connection has always been good, and that drops nothing, no means of a run fails:
what a run comes to is left to the programs it starts.

Results:
* `Run.run_streaming_of_run`: what a run that passes lines on makes of its loop.
* `Run.meets_streaming`: a run meets the outcomes that its programs play.
* `Run.plays_performing`: there is a program for every sequence of outcomes.
-/

namespace DataStaging

namespace Host

/-- The connection has always been good, nothing is dropped, and these programs can be started. -/
structure Calm (programs : String → Option Program) (h : Host) : Prop where
  marks : h.connection.marks = []
  dropsOnStop : h.dropsOnStop = false
  programs : h.programs = programs

variable {programs : String → Option Program} {h : Host}

/-- The number of programs started so far. -/
def startCount (h : Host) : Nat := h.starts.length

theorem Calm.brokenSince? (hcalm : h.Calm programs) (now : Nat) :
    h.connection.brokenSince? now = none := by
  rw [Connection.brokenSince?, hcalm.marks]
  rfl

/-- An attempt changes neither the connection nor the programs. -/
theorem Calm.afterHearing (hcalm : h.Calm programs) (command : Command) (b : Behaviour)
    (lines : Notices) (elapsed : Nat) : (h.afterHearing command b lines elapsed).Calm programs :=
  ⟨hcalm.marks, hcalm.dropsOnStop, hcalm.programs⟩

theorem startCount_afterHearing (command : Command) (b : Behaviour) (lines : Notices)
    (elapsed : Nat) : (h.afterHearing command b lines elapsed).startCount = h.startCount + 1 := by
  rw [startCount, Host.afterHearing, afterRun, List.length_append]
  rfl

end Host

namespace Run

open Retry

variable {programs : String → Option Program}

/-! ## The means that make no attempt -/

theorem quiet_elapse (micros : Nat) :
    Quiet Host.startCount (Host.Calm programs) (Host.elapse micros) := by
  intro h hcalm
  exact ⟨(), _, Host.run_elapse hcalm.dropsOnStop micros,
    ⟨hcalm.marks, hcalm.dropsOnStop, hcalm.programs⟩, rfl⟩

theorem quiet_notify (lines : Notices) :
    Quiet Host.startCount (Host.Calm programs) (Host.notify lines) := by
  intro h hcalm
  exact ⟨(), _, Host.run_notify lines, ⟨hcalm.marks, hcalm.dropsOnStop, hcalm.programs⟩, rfl⟩

theorem quiet_awaitConnection :
    Quiet Host.startCount (Host.Calm programs) Host.awaitConnection := by
  intro h hcalm
  exact ⟨(), _, Host.run_awaitConnection_of_good (hcalm.brokenSince? _) hcalm.dropsOnStop,
    ⟨hcalm.marks, hcalm.dropsOnStop, hcalm.programs⟩, rfl⟩

/-! ## Attempts -/

/-- How an attempt ends whose lines are passed on, if it ends. -/
def streamedOutcome (idle : Duration) (b : Behaviour) : Option (Attempt Unit) :=
  match Listening.listen idle (b.closing.or b.lasting) b.emissions .start with
  | .silent _ _ => some .timedOut
  | .closed _ _ =>
    b.lasting.map (fun _ => if b.ending = some 0 then .succeeded () else .exited b.ending)

/-- The command can be started, and its starts end with the outcomes `f`, by the number of starts
    before. -/
def Plays (programs : String → Option Program) (idle : Duration) (f : Nat → Attempt Unit)
    (command : Command) : Prop :=
  command.isUnstartable = false ∧ ∃ program, programs command.program = some program ∧
    ∀ o : Occasion, streamedOutcome idle (program o) = some (f o.earlier.length)

theorem run_streamingAttempt {command : Command} {idle : Duration} {f : Nat → Attempt Unit}
    {h : Host} (hplays : Plays programs idle f command) (hcalm : h.Calm programs) :
    ∃ h', (streamingAttempt command idle).run h = (.ok (f h.startCount), h') ∧
      h'.Calm programs ∧ h'.startCount = h.startCount + 1 := by
  obtain ⟨hstart, program, hprogram, houtcome⟩ := hplays
  have hstarted : h.programs command.program = some program :=
    (congrFun hcalm.programs command.program).trans hprogram
  have hf : streamedOutcome idle (program (h.occasion command)) = some (f h.startCount) :=
    houtcome (h.occasion command)
  generalize hb : program (h.occasion command) = b at hf
  rw [streamedOutcome] at hf
  cases hheard : Listening.listen idle (b.closing.or b.lasting) b.emissions .start with
  | silent lines elapsed =>
    rw [hheard] at hf
    obtain hf := Option.some.inj hf
    have hrun := run_streamingAttempt_of_silent hstart hstarted hb hcalm.dropsOnStop hheard
    exact ⟨_, hf ▸ hrun, hcalm.afterHearing _ _ _ _, Host.startCount_afterHearing _ _ _ _⟩
  | closed lines elapsed =>
    rw [hheard] at hf
    obtain ⟨last, hlasting, hf⟩ := Option.map_eq_some_iff.mp hf
    have hrun := run_streamingAttempt_of_closed hstart hstarted hb hcalm.dropsOnStop hheard
    have hends : b.outcome = f h.startCount := hf
    rw [hlasting] at hrun
    exact ⟨_, hends ▸ hrun, hcalm.afterHearing _ _ _ _, Host.startCount_afterHearing _ _ _ _⟩

/-- The means of a run that passes lines on. -/
abbrev streamingMeans (command : Command) (variant : Option Command) (idle : Duration) :
    Means Host Unit :=
  means (fun useVariant =>
    streamingAttempt (if useVariant then variant.getD command else command) idle)

/-- A run that passes lines on, and its loop. -/
theorem run_streaming_of_run {policy : RetryPolicy} {command : Command} {variant : Option Command}
    {status : Int} {h h' : Host} {r : Except Halt (Unit × RunReport)}
    (hrun : (Retry.run (streamingMeans command variant policy.idleTimeout) policy command.display
      variant.isSome status h.patience .start).run h = (r, h')) :
    (streaming policy command variant status).run h = (r.map Prod.snd, h') := by
  unfold streaming
  rw [run_get_bind]
  cases r with
  | error halt => exact run_bind_of_error hrun _
  | ok result => exact run_bind_of_ok hrun _

/-- The attempts of a run that passes lines on end as its programs do. -/
theorem meets_streaming {command : Command} {variant : Option Command} {idle : Duration}
    {f : Nat → Attempt Unit} (hcommand : Plays programs idle f command)
    (hvariant : ∀ c, variant = some c → Plays programs idle f c) :
    (streamingMeans command variant idle).Meets variant.isSome f Host.startCount
      (Host.Calm programs) where
  gate := quiet_awaitConnection
  attempt := by
    intro h hcalm
    refine run_streamingAttempt ?_ hcalm
    cases variant with
    | none => split_ifs <;> exact hcommand
    | some c =>
      split_ifs
      · exact hvariant c rfl
      · exact hcommand
  jitter := fun h hcalm => ⟨h.jitter, h, rfl, hcalm, rfl⟩
  notify := quiet_notify
  awaitService := fun h hcalm => quiet_elapse h.connection.poll.micros h hcalm
  pause := fun delay => quiet_elapse delay.micros

/-! ## A program for every sequence of outcomes -/

/-- A program that writes nothing and ends at once, or never. -/
def performance : Attempt Unit → Behaviour
  | .succeeded () => ⟨.empty, [], none, some 0, some 0, none⟩
  | .exited status => ⟨.empty, [], none, some 0, status, none⟩
  | .timedOut => ⟨.empty, [], none, none, none, none⟩

/-- Performs the outcomes `f`, one at each start. -/
def performing (f : Nat → Attempt Unit) : Program := fun o => performance (f o.earlier.length)

/-- A status of zero is a success, so no attempt exits with it. -/
theorem streamedOutcome_performance {idle : Duration} (hidle : 0 < idle.nanos) {o : Attempt Unit}
    (ho : o ≠ .exited (some 0)) : streamedOutcome idle (performance o) = some o := by
  have hshort : Listening.isTooLong idle 0 = false := decide_eq_false (Nat.not_le.mpr hidle)
  cases o with
  | succeeded value =>
    simp [streamedOutcome, performance, Listening.listen, Listening.start, hshort]
  | timedOut => rfl
  | exited status =>
    have hstatus : status ≠ some 0 := fun h => ho (congrArg Attempt.exited h)
    simp [streamedOutcome, performance, Listening.listen, Listening.start, hshort, hstatus]

theorem plays_performing {idle : Duration} {f : Nat → Attempt Unit} {command : Command}
    (hidle : 0 < idle.nanos) (hstart : command.isUnstartable = false)
    (hf : ∀ n, f n ≠ .exited (some 0)) :
    Plays (fun _ => some (performing f)) idle f command :=
  ⟨hstart, performing f, rfl, fun o => streamedOutcome_performance hidle (hf o.earlier.length)⟩

end Run

end DataStaging
