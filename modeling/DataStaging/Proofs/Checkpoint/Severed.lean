import DataStaging.Proofs.Process.Starts
import DataStaging.Transfer.Checkpoint
import DataStaging.Transfer.Stop
import DataStaging.Transfer.Transfer
import Mathlib.Tactic.Common

/-!
# Checkpoints on a severed connection

A connection is severed if it is broken from now on. Whoever waits for it does not come through, so
that no transfer makes an attempt, and checkpoints that see a stop do not come to an end well.

Results:
* `sleepUntil_spec`: what a sleep tells when it ends.
* `Run.run_means_ne_ok`: no loop of attempts succeeds on a severed connection.
* `Checkpoint.run_ne_ok`: nor do checkpoints after a stop.
-/

namespace DataStaging

namespace Connection

variable {c : Connection} {now : Nat}

/-- The connection is broken from then on. -/
def SeveredFrom (c : Connection) (now : Nat) : Prop :=
  ∀ now', now ≤ now' → c.brokenSince? now' ≠ none

theorem await_ne_ok (h : c.SeveredFrom now) (fuel t : Nat) : c.await fuel now ≠ .ok t := by
  induction fuel generalizing now with
  | zero => rintro ⟨⟩
  | succ fuel ih =>
    have hlater : c.SeveredFrom (now + c.step) :=
      fun now' hle => h now' (Nat.le_trans (Nat.le_add_right _ _) hle)
    rw [await]
    split
    · rename_i hgood
      exact absurd hgood (h now (Nat.le_refl now))
    · split
      · split_ifs
        · rintro ⟨⟩
        · exact ih hlater
      · exact ih hlater

/-- Whoever waits for a severed connection does not come through. -/
theorem awaitGood_ne_ok (h : c.SeveredFrom now) (t : Nat) : c.awaitGood now ≠ .ok t := by
  rw [awaitGood]
  split
  · rename_i hgood
    exact absurd hgood (h now (Nat.le_refl now))
  · exact await_ne_ok h _ t

end Connection

/-- The connection is severed, and a stop drops nothing. -/
structure Host.Severed (h : Host) : Prop where
  connection : h.connection.SeveredFrom h.clock
  drops_eq : h.dropsOnStop = false

theorem Host.awaitConnection_ne_ok {h : Host} (hs : h.Severed) (h' : Host) :
    awaitConnection.run h ≠ (.ok (), h') := by
  intro hrun
  rw [awaitConnection, run_get_bind] at hrun
  have hnone : h.dropTime? = none := by
    rw [dropTime?, hs.drops_eq]
    rfl
  cases hgood : h.connection.awaitGood h.clock with
  | ok t => exact Connection.awaitGood_ne_ok hs.connection t hgood
  | error halt =>
    simp only [hgood, hnone] at hrun
    cases hrun

theorem Host.eq_of_run_orFail {α : Type} {h h' : Host} {x : Except Fault α} {a : α}
    (hrun : (orFail x).run h = (.ok a, h')) : h' = h := by
  cases x with
  | ok value =>
    cases hrun
    rfl
  | error fault => cases hrun

theorem Host.exists_of_run_ensureDirectory {h h' : Host} {path : String}
    (hrun : (ensureDirectory path).run h = (.ok (), h')) :
    ∃ tree, h' = { h with tree := tree } := by
  obtain ⟨r, tree, hmade⟩ := exists_run_ensureDirectory path h
  exact ⟨tree, (Prod.ext_iff.mp (hrun.symm.trans hmade)).2⟩

/-- A sleep ends with a look for a stop, and has seen one or is over then. -/
theorem sleepUntil_spec {raised : Option Nat} {deadline now t : Nat} {seen : Bool}
    (h : sleepUntil raised deadline now = (seen, t)) :
    now ≤ t ∧ raised.any (· ≤ t) = seen ∧ (seen = false → deadline ≤ t) := by
  fun_induction sleepUntil raised deadline now with
  | case1 now hraised =>
    cases h
    exact ⟨Nat.le_refl _, hraised, nofun⟩
  | case2 now hno hover =>
    cases h
    exact ⟨Nat.le_refl _, Bool.eq_false_iff.mpr hno, fun _ => hover⟩
  | case3 now _ hearly ih =>
    obtain ⟨hle, hseen, hover⟩ := ih h
    exact ⟨by omega, hseen, hover⟩

/-- A sleep that begins after the stop sees it at once. -/
theorem Host.run_sleep_stopped {h : Host} (hstop : h.stopAt.any (· ≤ h.clock) = true)
    {span : Duration} {seen : Bool} {h' : Host} (hrun : (sleep span).run h = (.ok seen, h')) :
    seen = true ∧ h' = h := by
  rw [sleep, run_get_bind] at hrun
  have hsleep : sleepUntil h.stopAt (h.clock + span.micros) h.clock = (true, h.clock) := by
    rw [sleepUntil, if_pos hstop]
  simp only [hsleep] at hrun
  split_ifs at hrun with hlimit
  · cases hrun
  · cases hrun
    exact ⟨rfl, rfl⟩

/-- No loop of attempts comes to an end well, wherever it stands, for no attempt is made. -/
theorem Run.run_means_ne_ok {α : Type} {h : Host} (hs : h.Severed)
    (attempt : Bool → Act Host (Attempt α)) (policy : RetryPolicy) (label : String)
    (hasVariant : Bool) (status : Int) (patience : Nat) (report : RunReport)
    (result : α × RunReport) (h' : Host) :
    (Retry.run (means attempt) policy label hasVariant status patience report).run h ≠
      (.ok result, h') := by
  intro hrun
  cases patience with
  | zero => cases hrun
  | succ patience =>
    rw [Retry.run] at hrun
    obtain ⟨⟨⟩, h₁, hgate, -⟩ := exists_of_run_bind_ok hrun
    exact Host.awaitConnection_ne_ok hs h₁ hgate

theorem Run.streaming_ne_ok {h : Host} (hs : h.Severed) (policy : RetryPolicy) (command : Command)
    (variant : Option Command) (status : Int) (report : RunReport) (h' : Host) :
    (streaming policy command variant status).run h ≠ (.ok report, h') := by
  intro hrun
  rw [streaming, run_get_bind] at hrun
  obtain ⟨result, h₁, hrun, -⟩ := exists_of_run_bind_ok hrun
  exact run_means_ne_ok hs _ policy _ _ status _ _ result h₁ hrun

theorem Courier.upload_ne_ok {h : Host} (hs : h.Severed) (courier : Courier) (path uri : String)
    (pattern : Option String) (report : RunReport) (h' : Host) :
    (courier.upload path uri pattern).run h ≠ (.ok report, h') := by
  intro hrun
  rw [upload, move] at hrun
  obtain ⟨place, h₁, hparse, hmove⟩ := exists_of_run_bind_ok hrun
  obtain rfl := Host.eq_of_run_orFail hparse
  rw [run_get_bind] at hmove
  cases hfolder : courier.mover.benchmarkFolder with
  | none =>
    rw [hfolder] at hmove
    exact Run.streaming_ne_ok hs _ _ _ _ report h' hmove
  | some folder =>
    rw [hfolder] at hmove
    obtain ⟨⟨⟩, h₂, hmade, hstream⟩ := exists_of_run_bind_ok hmove
    obtain ⟨tree, rfl⟩ := Host.exists_of_run_ensureDirectory hmade
    have hs₂ : Host.Severed { h₁ with tree := tree } := ⟨hs.connection, hs.drops_eq⟩
    exact Run.streaming_ne_ok hs₂ _ _ _ _ report h' hstream

/-- After the stop, checkpoints on a severed connection do not come to an end well. -/
theorem Checkpoint.run_ne_ok {h : Host} (hs : h.Severed)
    (hstop : h.stopAt.any (· ≤ h.clock) = true) (courier : Courier) (path uri : String)
    (pattern : Option String) (frequency : Duration) (rounds uploads count : Nat) (h' : Host) :
    (run (Host.sleep frequency) (do let _ ← courier.upload path uri pattern) rounds uploads).run h ≠
      (.ok count, h') := by
  intro hrun
  cases rounds with
  | zero => cases hrun
  | succ rounds =>
    rw [run] at hrun
    obtain ⟨seen, h₁, hsleep, hrest⟩ := exists_of_run_bind_ok hrun
    obtain ⟨rfl, rfl⟩ := Host.run_sleep_stopped hstop hsleep
    rw [if_pos rfl] at hrest
    obtain ⟨u, h₂, hupload, -⟩ := exists_of_run_bind_ok hrest
    obtain ⟨report, h₃, hmove, -⟩ := exists_of_run_bind_ok hupload
    exact Courier.upload_ne_ok hs courier path uri pattern report h₃ hmove

end DataStaging
