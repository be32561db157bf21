import DataStaging.Process.Run
import DataStaging.Proofs.Outcome
import Mathlib.Tactic.Common

/-!
# Starting a command

On a host that drops nothing, time passes and a program that ends is run to its end.

Results:
* `Host.run_moveTo`: the clock is moved, or what is going on is dropped.
* `Host.run_begin`, `Host.run_begin_of_missing`: a command whose program is there is started, and
  one that is missing is not.
* `Host.of_run_begin`: a command that was started has a program.
* `run_once`: a command that is run once.
* `run_streamingAttempt_of_silent`, `run_streamingAttempt_of_closed`: an attempt after listening.
-/

namespace DataStaging

variable {h : Host} {command : Command} {program : Program} {total : Nat}

/-- The command can be started on no host with these programs. -/
def Command.Missing (programs : String → Option Program) (c : Command) : Prop :=
  c.isUnstartable = true ∨ programs c.program = none

namespace Host

/-- What a program sees when a command is started. -/
def occasion (h : Host) (command : Command) : Occasion :=
  ⟨h.starts, ⟨command.program, command.args, overlay h.env command.env⟩, h.tree, h.folder⟩

/-- The host once a started program has ended. -/
def afterRun (h : Host) (command : Command) (b : Behaviour) (total : Nat) : Host :=
  { h with
    tree := b.tree
    starts := h.starts ++ [(h.occasion command).start]
    stopAt := sooner h.stopAt (b.stopRequest.map (h.clock + ·))
    clock := h.clock + total }

theorem advanceTo_cases (h : Host) (target : Nat) :
    (h.advanceTo target = (false, { h with clock := target }) ∧
        ∀ t, h.dropTime? = some t → target < t) ∨
      ∃ h', h.advanceTo target = (true, h') := by
  unfold advanceTo
  cases hdrop : h.dropTime? with
  | none => exact Or.inl ⟨rfl, by rintro t ⟨⟩⟩
  | some t =>
    by_cases ht : t ≤ target
    · exact Or.inr ⟨_, if_pos ht⟩
    · refine Or.inl ⟨if_neg ht, ?_⟩
      rintro t' ⟨⟩
      exact Nat.lt_of_not_le ht

/-- The clock is moved, or what is going on is dropped. -/
theorem run_moveTo (h : Host) (target : Nat) :
    ((moveTo target).run h = (.ok (), { h with clock := target }) ∧
        ∀ t, h.dropTime? = some t → target < t) ∨
      ∃ h', (moveTo target).run h = (.error .interrupted, h') := by
  unfold moveTo
  rw [run_get_bind]
  rcases h.advanceTo_cases target with ⟨hadvance, hdrop⟩ | ⟨h', hadvance⟩
  · simp only [hadvance]
    exact Or.inl ⟨rfl, hdrop⟩
  · simp only [hadvance]
    exact Or.inr ⟨h', rfl⟩

theorem run_elapse_cases (h : Host) (micros : Nat) :
    (elapse micros).run h = (.ok (), { h with clock := h.clock + micros }) ∨
      ∃ h', (elapse micros).run h = (.error .interrupted, h') := by
  unfold elapse
  rw [run_get_bind]
  exact (run_moveTo h _).imp_left And.left

theorem run_elapse (hdrops : h.dropsOnStop = false) (micros : Nat) :
    (elapse micros).run h = (.ok (), { h with clock := h.clock + micros }) := by
  unfold elapse moveTo
  rw [run_get_bind, run_get_bind, advanceTo_undisturbed _ _ hdrops]
  rfl

/-- Nobody waits for a connection that is good. -/
theorem run_awaitConnection_of_good (hgood : h.connection.brokenSince? h.clock = none)
    (hdrops : h.dropsOnStop = false) : awaitConnection.run h = (.ok (), h) := by
  have hawait : h.connection.awaitGood h.clock = .ok h.clock := by
    rw [Connection.awaitGood, hgood]
  rw [awaitConnection, run_get_bind, hawait]
  unfold moveTo
  rw [run_get_bind, advanceTo_undisturbed _ _ hdrops]
  rfl

theorem run_notify (lines : Notices) :
    (notify lines).run h = (.ok (), { h with notices := h.notices ++ lines }) := rfl

/-- Making a directory changes the files only. -/
theorem exists_run_ensureDirectory (path : String) (h : Host) :
    ∃ r tree, (ensureDirectory path).run h = (r, { h with tree := tree }) := by
  rcases hmade : h.tree.ensureDirectory h.folder path with ⟨r, tree⟩
  unfold ensureDirectory changeTree
  rw [run_get_bind]
  simp only [hmade]
  rw [run_set_bind]
  cases r with
  | error fault => exact ⟨.error (.fault (.io fault)), tree, rfl⟩
  | ok made => exact ⟨.ok (), tree, rfl⟩

theorem run_ensureDirectory {path : String} {tree : FileTree}
    (hdirectory : h.tree.ensureDirectory h.folder path = (.ok (), tree)) :
    (ensureDirectory path).run h = (.ok (), { h with tree := tree }) := by
  unfold ensureDirectory changeTree
  rw [run_get_bind]
  simp only [hdirectory]
  rfl

theorem run_begin (hnul : command.isUnstartable = false)
    (hprogram : h.programs command.program = some program) :
    (begin command).run h = (.ok (program (h.occasion command)),
      h.afterRun command (program (h.occasion command)) 0) := by
  unfold begin
  rw [run_get_bind, hnul]
  simp only [Bool.false_eq_true, if_false, hprogram]
  rw [run_set_bind]
  rfl

/-- Beginning a command that is missing changes nothing, and fails alike on every host with these
    programs. -/
theorem run_begin_of_missing {programs : String → Option Program}
    (hmissing : command.Missing programs) : ∃ fault : IoFault, ∀ h : Host, h.programs = programs →
      (begin command).run h = (.error (.fault (.io fault)), h) := by
  by_cases hnul : command.isUnstartable = true
  · refine ⟨.nulInArgument, fun h _ => ?_⟩
    unfold begin
    rw [run_get_bind, if_pos hnul]
    rfl
  · refine ⟨.notFound, fun h hprograms => ?_⟩
    unfold begin
    rw [run_get_bind, if_neg hnul, hprograms, hmissing.resolve_left hnul]
    rfl

theorem of_run_begin {b : Behaviour} {h' : Host} (hrun : (begin command).run h = (.ok b, h')) :
    ∃ program, h.programs command.program = some program ∧ b = program (h.occasion command) ∧
      h' = h.afterRun command b 0 := by
  cases hnul : command.isUnstartable with
  | true =>
    rw [begin, run_get_bind, hnul] at hrun
    cases hrun
  | false =>
    cases hprogram : h.programs command.program with
    | none =>
      rw [begin, run_get_bind, hnul] at hrun
      simp only [Bool.false_eq_true, if_false, hprogram] at hrun
      cases hrun
    | some program =>
      rw [run_begin hnul hprogram] at hrun
      cases hrun
      exact ⟨program, rfl, rfl, rfl⟩

end Host

/-- Where nothing is dropped, a program that ends is run to its end. -/
theorem run_once (hnul : command.isUnstartable = false)
    (hprogram : h.programs command.program = some program)
    (htotal : (program (h.occasion command)).total? = some total) (hdrops : h.dropsOnStop = false) :
    (Run.once command).run h = (.ok (Output.ofBehaviour (program (h.occasion command))),
      h.afterRun command (program (h.occasion command)) total) := by
  unfold Run.once
  rw [run_bind_of_ok (Host.run_begin hnul hprogram)]
  simp only [htotal]
  rw [run_bind_of_ok (Host.run_elapse (by exact hdrops) total)]
  rfl

/-! ## Attempts whose lines are passed on -/

/-- How the program has ended. -/
def Behaviour.outcome (b : Behaviour) : Attempt Unit :=
  if b.ending = some 0 then .succeeded () else .exited b.ending

theorem Behaviour.outcome_ne_timedOut (b : Behaviour) : b.outcome ≠ .timedOut := by
  unfold outcome
  split_ifs
  · rintro ⟨⟩
  · rintro ⟨⟩

/-- The host once lines were heard of a program, so long after its start. -/
def Host.afterHearing (h : Host) (command : Command) (b : Behaviour) (lines : Notices)
    (elapsed : Nat) : Host :=
  { h.afterRun command b elapsed with notices := h.notices ++ lines }

section

variable {b : Behaviour} {idle : Duration} {lines : Notices} {elapsed : Nat}

theorem Host.run_hear (hdrops : h.dropsOnStop = false) (command : Command) (b : Behaviour)
    (lines : Notices) (elapsed : Nat) :
    (do Host.notify lines; Host.elapse elapsed).run (h.afterRun command b 0) =
      (.ok (), h.afterHearing command b lines elapsed) :=
  (run_bind_of_ok (Host.run_notify lines) _).trans (Host.run_elapse (by exact hdrops) elapsed)

theorem Host.run_elapse_afterHearing (hdrops : h.dropsOnStop = false) (command : Command)
    (b : Behaviour) (lines : Notices) (elapsed last : Nat) :
    (Host.elapse last).run (h.afterHearing command b lines elapsed) =
      (.ok (), h.afterHearing command b lines (elapsed + last)) := by
  rw [Host.run_elapse (by exact hdrops)]
  simp only [afterHearing, afterRun, Nat.add_assoc]

theorem run_streamingAttempt_of_silent (hnul : command.isUnstartable = false)
    (hprogram : h.programs command.program = some program)
    (hb : program (h.occasion command) = b) (hdrops : h.dropsOnStop = false)
    (hheard : Listening.listen idle (b.closing.or b.lasting) b.emissions .start =
      .silent lines elapsed) :
    (Run.streamingAttempt command idle).run h =
      (.ok .timedOut, h.afterHearing command b lines elapsed) := by
  subst hb
  unfold Run.streamingAttempt
  rw [run_bind_of_ok (Host.run_begin hnul hprogram)]
  simp only [hheard]
  rw [← bind_assoc]
  exact run_bind_of_ok (Host.run_hear hdrops _ _ _ _) _

/-- After its program has closed its streams, an attempt waits for the end. -/
theorem run_streamingAttempt_of_closed (hnul : command.isUnstartable = false)
    (hprogram : h.programs command.program = some program)
    (hb : program (h.occasion command) = b) (hdrops : h.dropsOnStop = false)
    (hheard : Listening.listen idle (b.closing.or b.lasting) b.emissions .start =
      .closed lines elapsed) :
    (Run.streamingAttempt command idle).run h = match b.lasting with
      | none => (.error .stuck, h.afterHearing command b lines elapsed)
      | some last => (.ok b.outcome, h.afterHearing command b lines
          (elapsed + if b.closing.isSome then last else 0)) := by
  subst hb
  unfold Run.streamingAttempt
  rw [run_bind_of_ok (Host.run_begin hnul hprogram)]
  generalize program (h.occasion command) = b at *
  simp only [hheard]
  rw [← bind_assoc]
  refine (run_bind_of_ok (Host.run_hear hdrops _ _ _ _) _).trans ?_
  cases b.lasting with
  | none => rfl
  | some last =>
    simp only
    have hrest := Host.run_elapse_afterHearing hdrops command b lines elapsed last
    unfold Behaviour.outcome
    split_ifs
    · exact run_bind_of_ok hrest _
    · exact run_bind_of_ok hrest _
    · rfl
    · rfl

end

end DataStaging
