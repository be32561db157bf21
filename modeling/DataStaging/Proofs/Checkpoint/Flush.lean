import DataStaging.Agent
import DataStaging.Proofs.Checkpoint.Looks
import DataStaging.Proofs.Checkpoint.Severed
import DataStaging.Proofs.Process.Accounting

/-!
# The last checkpoint

Checkpoints are made by calls of an upload: one after each sleep that runs out, and one more once a
sleep has seen the stop. The calls before the last one may fail, which only shows in the count. So
whenever checkpoints come to an end, the last call was begun after the stop, and it decides.

Results:
* `Host.run_sleep_cases`: a sleep tells whether there is a stop by the time it ends.
* `agent_checkpoint`: the agent's checkpoints are those of a keeper.
* `Keeper.run_of_flush`, `Keeper.run_watched_of_flush`: what comes of the rounds before the stop and
  of the last call, and all calls that were made.
* `Keeper.exists_flush`: checkpoints that come to an end have seen a stop.
* `flush_of_checkpoints`: all of this, for the sleep of a host.
-/

namespace DataStaging

/-! ## Sleeping -/

namespace Host

/-- The agent has been asked to stop. -/
def Stopped (h : Host) : Prop := h.stopAt.any (· ≤ h.clock) = true

/-- A sleep tells whether the agent has been asked to stop, or the clock breaks down. -/
theorem run_sleep_cases (span : Duration) (h : Host) :
    (∃ reason, (sleep span).run h = (.error (.crash reason), h)) ∨
      ∃ seen h', (sleep span).run h = (.ok seen, h') ∧ (seen = true ↔ h'.Stopped) := by
  rcases hsleep : sleepUntil h.stopAt (h.clock + span.micros) h.clock with ⟨seen, t⟩
  rcases Nat.lt_or_ge ((h.clock + span.micros) / 1000000) clockLimit with hclock | hclock
  · refine Or.inr ⟨seen, _, run_sleep hclock hsleep, ?_⟩
    rw [← (sleepUntil_spec hsleep).2.1]
    exact Iff.rfl
  · refine Or.inl ⟨"overflow when adding duration to instant", ?_⟩
    unfold sleep
    rw [run_get_bind]
    simp only [if_pos hclock]
    rfl

theorem stopped_iff_of_run_sleep {span : Duration} {h h' : Host} {seen : Bool}
    (hrun : (sleep span).run h = (.ok seen, h')) : seen = true ↔ h'.Stopped := by
  rcases run_sleep_cases span h with ⟨reason, hcrash⟩ | ⟨seen', h'', hslept, hstopped⟩
  · cases hrun.symm.trans hcrash
  · cases hrun.symm.trans hslept
    exact hstopped

end Host

namespace Checkpoint

/-! ## Keepers and their calls -/

/-- What is uploaded where, and how an upload is done. -/
structure Keeper (σ : Type) where
  upload : String → String → Option String → Act σ RunReport
  path : String
  destination : String
  pattern : Option String

/-- A call of the upload, and what came of it. -/
structure Call (σ : Type) where
  path : String
  destination : String
  pattern : Option String
  before : σ
  result : Except Halt RunReport
  after : σ

/-- A computation has come to an end by itself: it has succeeded, or failed with a fault. -/
def Returned {α : Type} (result : Except Halt α) : Prop :=
  ∀ halt, result = .error halt → ∃ fault, halt = .fault fault

def Call.succeeded {σ : Type} (c : Call σ) : Bool := c.result.isOk

namespace Keeper

variable {σ : Type}

/-- Uploads once. -/
def task (k : Keeper σ) : Act σ Unit := do
  let _ ← k.upload k.path k.destination k.pattern

/-- Makes checkpoints, for at most `rounds` rounds. -/
def run (k : Keeper σ) (sleep : Act σ Bool) (rounds : Nat) : Act σ Nat :=
  Checkpoint.run sleep k.task rounds 0

/-- The call that a keeper makes in this state. -/
def call (k : Keeper σ) (s : σ) : Call σ where
  path := k.path
  destination := k.destination
  pattern := k.pattern
  before := s
  result := ((k.upload k.path k.destination k.pattern).run s).1
  after := ((k.upload k.path k.destination k.pattern).run s).2

/-- The keeper with a record of all calls, whatever they were asked for. -/
def watched (k : Keeper σ) : Keeper (σ × List (Call σ)) where
  upload path destination pattern := .mk fun (s, calls) =>
    let (result, s') := (k.upload path destination pattern).run s
    (result, (s', calls ++ [⟨path, destination, pattern, s, result, s'⟩]))
  path := k.path
  destination := k.destination
  pattern := k.pattern

end Keeper

/-- A sleep beside a record of calls. -/
def watchedSleep {σ : Type} (sleep : Act σ Bool) : Act (σ × List (Call σ)) Bool := .mk
  fun (s, calls) =>
    let (seen, s') := sleep.run s
    (seen, (s', calls))

/-! ## One round -/

namespace Keeper

variable {σ : Type} {k : Keeper σ} {sleep : Act σ Bool} {s s₁ s₂ s' : σ}
  {calls : List (Call σ)}

theorem run_task (k : Keeper σ) (s : σ) :
    k.task.run s = ((k.call s).result.map (fun _ => ()), (k.call s).after) := by
  unfold task call
  rcases hupload : (k.upload k.path k.destination k.pattern).run s with ⟨_ | _, s₁⟩
  · exact run_bind_of_error hupload _
  · exact run_bind_of_ok hupload _

/-- Once a stop is seen, one more call decides. -/
theorem run_of_seen (hsleep : sleep.run s = (.ok true, s₁)) (rounds n : Nat) :
    (Checkpoint.run sleep k.task (rounds + 1) n).run s =
      ((k.call s₁).result.map (fun _ => n + 1), (k.call s₁).after) := by
  have htask := k.run_task s₁
  rw [Checkpoint.run, run_bind_of_ok hsleep, if_pos rfl]
  cases hresult : (k.call s₁).result with
  | error halt =>
    rw [hresult] at htask
    exact run_bind_of_error htask _
  | ok report =>
    rw [hresult] at htask
    exact run_bind_of_ok htask _

theorem run_of_sleep_error {halt : Halt} (hsleep : sleep.run s = (.error halt, s₁))
    (rounds n : Nat) :
    (Checkpoint.run sleep k.task (rounds + 1) n).run s = (.error halt, s₁) := by
  rw [Checkpoint.run, run_bind_of_error hsleep]

/-- A round whose call succeeds or fails with a fault passes; it only counts if it succeeds. -/
theorem run_of_returned (hsleep : sleep.run s = (.ok false, s₁))
    (hreturned : Returned (k.call s₁).result) (rounds n : Nat) :
    (Checkpoint.run sleep k.task (rounds + 1) n).run s =
      (Checkpoint.run sleep k.task rounds
        (n + if (k.call s₁).succeeded then 1 else 0)).run (k.call s₁).after := by
  have htask := k.run_task s₁
  rw [Checkpoint.run, run_bind_of_ok hsleep, if_neg Bool.false_ne_true]
  unfold Call.succeeded
  cases hresult : (k.call s₁).result with
  | ok report =>
    rw [hresult] at htask
    have hattempt : (attempt k.task).run s₁ = (.ok true, (k.call s₁).after) :=
      run_tryCatch_of_ok (run_bind_of_ok htask _) _
    exact run_bind_of_ok hattempt _
  | error halt =>
    obtain ⟨fault, rfl⟩ := hreturned halt hresult
    rw [hresult] at htask
    have hattempt : (attempt k.task).run s₁ = (.ok false, (k.call s₁).after) :=
      run_tryCatch_of_error (run_bind_of_error htask _) _
    exact run_bind_of_ok hattempt _

/-- Whatever else ends a call ends all. -/
theorem run_of_not_returned (hsleep : sleep.run s = (.ok false, s₁))
    (hreturned : ¬ Returned (k.call s₁).result) (rounds n : Nat) :
    (Checkpoint.run sleep k.task (rounds + 1) n).run s =
      ((k.call s₁).result.map (fun _ => n), (k.call s₁).after) := by
  have htask := k.run_task s₁
  rw [Checkpoint.run, run_bind_of_ok hsleep, if_neg Bool.false_ne_true]
  cases hresult : (k.call s₁).result with
  | ok report => exact absurd (fun halt hhalt => by rw [hresult] at hhalt; cases hhalt) hreturned
  | error halt =>
    rw [hresult] at htask
    refine run_bind_of_error ((run_tryCatch_of_error (run_bind_of_error htask _) _).trans ?_) _
    cases halt with
    | fault fault =>
      exact absurd (fun halt hhalt => ⟨fault, by rw [hresult] at hhalt; cases hhalt; rfl⟩) hreturned
    | interrupted | stuck | crash reason => rfl

/-! ## Rounds -/

/-- From one state to a later one there were these calls: each after a sleep that ran out, and each
    with a result or a fault. -/
inductive Rounds (k : Keeper σ) (sleep : Act σ Bool) : σ → List (Call σ) → σ → Prop
  | nil (s : σ) : Rounds k sleep s [] s
  | cons {s s₁ s' : σ} {calls : List (Call σ)} (hsleep : sleep.run s = (.ok false, s₁))
      (hreturned : Returned (k.call s₁).result)
      (hrest : Rounds k sleep (k.call s₁).after calls s') :
      Rounds k sleep s (k.call s₁ :: calls) s'

theorem run_of_rounds (h : k.Rounds sleep s calls s₁) (rounds n : Nat) :
    (Checkpoint.run sleep k.task (calls.length + rounds) n).run s =
      (Checkpoint.run sleep k.task rounds (n + calls.countP Call.succeeded)).run s₁ := by
  induction h generalizing n with
  | nil s => simp
  | @cons s s₁ s' calls hsleep hreturned hrest ih =>
    rw [List.length_cons, Nat.add_right_comm, run_of_returned hsleep hreturned, ih,
      List.countP_cons, Nat.add_assoc, Nat.add_comm (calls.countP _)]

/-- What may come after the rounds so far. -/
inductive Ending (k : Keeper σ) (sleep : Act σ Bool) (s : σ) : Prop
  | seen {s₁ : σ} (hsleep : sleep.run s = (.ok true, s₁))
  | awake {s₁ : σ} {halt : Halt} (hsleep : sleep.run s = (.error halt, s₁))
  | cut {s₁ : σ} (hsleep : sleep.run s = (.ok false, s₁))
      (hreturned : ¬ Returned (k.call s₁).result)

/-- Checkpoints go on for as many rounds as they may, or there is an end before. -/
theorem exists_rounds (k : Keeper σ) (sleep : Act σ Bool) (s : σ) (rounds : Nat) :
    ∃ calls s₁, k.Rounds sleep s calls s₁ ∧
      (calls.length = rounds ∨ calls.length < rounds ∧ k.Ending sleep s₁) := by
  induction rounds generalizing s with
  | zero => exact ⟨[], s, .nil s, Or.inl rfl⟩
  | succ rounds ih =>
    rcases hsleep : sleep.run s with ⟨halt | seen, s₁⟩
    · exact ⟨[], s, .nil s, Or.inr ⟨Nat.succ_pos rounds, .awake hsleep⟩⟩
    cases seen with
    | true => exact ⟨[], s, .nil s, Or.inr ⟨Nat.succ_pos rounds, .seen hsleep⟩⟩
    | false =>
      by_cases hreturned : Returned (k.call s₁).result
      · obtain ⟨calls, s', hrounds, hend⟩ := ih (k.call s₁).after
        refine ⟨_, s', .cons hsleep hreturned hrounds, ?_⟩
        rw [List.length_cons]
        exact hend.imp (congrArg (· + 1)) (And.imp_left Nat.succ_lt_succ)
      · exact ⟨[], s, .nil s, Or.inr ⟨Nat.succ_pos rounds, .cut hsleep hreturned⟩⟩

/-! ## Watching -/

theorem run_watchedSleep {seen : Except Halt Bool} (hsleep : sleep.run s = (seen, s₁))
    (log : List (Call σ)) : (watchedSleep sleep).run (s, log) = (seen, (s₁, log)) := by
  show (((sleep.run s).1, ((sleep.run s).2, log)) : Except Halt Bool × σ × List (Call σ)) = _
  rw [hsleep]

theorem Rounds.watched (h : k.Rounds sleep s calls s₁) (log : List (Call σ)) :
    ∃ calls', k.watched.Rounds (watchedSleep sleep) (s, log) calls' (s₁, log ++ calls) ∧
      calls'.map Call.result = calls.map Call.result := by
  induction h generalizing log with
  | nil s => exact ⟨[], by rw [List.append_nil]; exact .nil _, rfl⟩
  | @cons s s₁ s' calls hsleep hreturned hrest ih =>
    obtain ⟨calls', hrounds, hresults⟩ := ih (log ++ [k.call s₁])
    rw [List.append_assoc, List.singleton_append] at hrounds
    exact ⟨k.watched.call (s₁, log) :: calls',
      .cons (run_watchedSleep hsleep log) hreturned hrounds, congrArg (List.cons _) hresults⟩

theorem Rounds.countP_watched {calls' : List (Call (σ × List (Call σ)))}
    (h : calls'.map Call.result = calls.map Call.result) :
    calls'.countP Call.succeeded = calls.countP Call.succeeded := by
  have hcount := congrArg (List.countP Except.isOk) h
  rwa [List.countP_map, List.countP_map] at hcount

/-! ## The last call -/

/-- What comes of the rounds before the stop and of the last call. -/
def verdict (earlier : List (Call σ)) (last : Call σ) : Except Halt Nat :=
  last.result.map fun _ => earlier.countP Call.succeeded + 1

theorem run_of_flush (h : k.Rounds sleep s calls s₁) (hseen : sleep.run s₁ = (.ok true, s₂))
    {rounds : Nat} (hmore : calls.length < rounds) :
    (k.run sleep rounds).run s = (verdict calls (k.call s₂), (k.call s₂).after) := by
  obtain ⟨more, rfl⟩ := Nat.exists_eq_add_of_lt hmore
  rw [run, Nat.add_assoc, run_of_rounds h, run_of_seen hseen, Nat.zero_add]
  rfl

theorem run_watched_of_flush (h : k.Rounds sleep s calls s₁)
    (hseen : sleep.run s₁ = (.ok true, s₂)) {rounds : Nat} (hmore : calls.length < rounds) :
    (k.watched.run (watchedSleep sleep) rounds).run (s, []) =
      (verdict calls (k.call s₂), ((k.call s₂).after, calls ++ [k.call s₂])) := by
  obtain ⟨calls', hrounds, hresults⟩ := h.watched []
  have hlength : calls'.length = calls.length := by
    simpa using congrArg List.length hresults
  rw [run_of_flush hrounds (run_watchedSleep hseen _) (hlength ▸ hmore), verdict,
    Rounds.countP_watched hresults]
  rfl

/-- Checkpoints that come to an end by themselves have seen a stop, if their sleep has no faults. -/
theorem exists_flush (hsleep : ∀ s fault s', sleep.run s ≠ (.error (.fault fault), s'))
    {rounds : Nat} (hreturned : Returned ((k.run sleep rounds).run s).1) :
    ∃ calls s₁ s₂, k.Rounds sleep s calls s₁ ∧ sleep.run s₁ = (.ok true, s₂) ∧
      calls.length < rounds := by
  obtain ⟨calls, s₁, hrounds, hend⟩ := k.exists_rounds sleep s rounds
  have hrun := run_of_rounds hrounds (rounds - calls.length) 0
  rcases hend with hlength | ⟨hmore, hend⟩
  · -- the rounds are used up
    exfalso
    rw [hlength, Nat.sub_self] at hrun
    rw [run, ← Nat.add_zero rounds, hrun] at hreturned
    obtain ⟨fault, hfault⟩ := hreturned .stuck rfl
    cases hfault
  obtain ⟨more, rfl⟩ := Nat.exists_eq_add_of_lt hmore
  rw [show calls.length + more + 1 - calls.length = more + 1 by omega, ← Nat.add_assoc] at hrun
  unfold run at hreturned
  rw [hrun] at hreturned
  cases hend with
  | seen hseen => exact ⟨calls, s₁, _, hrounds, hseen, hmore⟩
  | awake hawake =>
    rw [run_of_sleep_error hawake] at hreturned
    obtain ⟨fault, rfl⟩ := hreturned _ rfl
    exact absurd hawake (hsleep _ fault _)
  | cut hslept hcut =>
    rw [run_of_not_returned hslept hcut] at hreturned
    refine absurd (fun halt hhalt => ?_) hcut
    exact hreturned halt (by rw [hhalt]; rfl)

theorem Rounds.mem (h : k.Rounds sleep s calls s₁) {c : Call σ} (hc : c ∈ calls) :
    (∃ s, sleep.run s = (.ok false, c.before)) ∧ c = k.call c.before := by
  induction h with
  | nil s => cases hc
  | @cons s s₁ s' calls hsleep _ _ ih =>
    rcases List.mem_cons.mp hc with rfl | hc
    · exact ⟨⟨s, hsleep⟩, rfl⟩
    · exact ih hc

end Keeper

/-- The agent's checkpoints are those of a keeper that uploads with the agent's courier. -/
theorem agent_checkpoint (r : CheckpointRequest) : Agent.checkpoint r = (do
    let courier ← Agent.courier r.transfer.runner
    let k : Keeper Host :=
      ⟨courier.upload, r.transfer.path, r.transfer.uri, r.transfer.pattern⟩
    let _ ← k.run (Host.sleep (.ofSeconds r.frequency)) (← get).patience) := rfl

/-- Whenever some sleeps have run out, each followed by a call with a result or a fault, and the
    next sleep sees the stop, there is exactly one more call. All calls ask for the same. The last
    one begins after the stop and the others before it. If the last one fails, its fault is what
    comes of it all, and otherwise the number of calls that have succeeded, as long as these are
    fewer than `2 ^ 32`. And this is the only way in which checkpoints come to an end, well or with
    a fault. -/
theorem flush_of_checkpoints (k : Keeper Host) (frequency : Duration) (h : Host) (rounds : Nat) :
    (∀ earlier h₁ h₂, k.Rounds (Host.sleep frequency) h earlier h₁ →
      (Host.sleep frequency).run h₁ = (.ok true, h₂) → earlier.length < rounds →
      let last := k.call h₂
      (k.run (Host.sleep frequency) rounds).run h = (Keeper.verdict earlier last, last.after) ∧
        (k.watched.run (watchedSleep (Host.sleep frequency)) rounds).run (h, []) =
          (Keeper.verdict earlier last, (last.after, earlier ++ [last])) ∧
        (∀ c ∈ earlier ++ [last],
          c.path = k.path ∧ c.destination = k.destination ∧ c.pattern = k.pattern) ∧
        (∀ c ∈ earlier, ¬ c.before.Stopped) ∧ last.before.Stopped) ∧
    (Returned ((k.run (Host.sleep frequency) rounds).run h).1 →
      ∃ earlier h₁ h₂, k.Rounds (Host.sleep frequency) h earlier h₁ ∧
        (Host.sleep frequency).run h₁ = (.ok true, h₂) ∧ earlier.length < rounds) ∧
    (∀ n h', (k.run (Host.sleep frequency) rounds).run h = (.ok n, h') →
      ∃ last : Call Host, last.before.Stopped ∧ last = k.call last.before ∧
        last.succeeded = true ∧ last.after = h') := by
  have hfaultless : ∀ h fault h', (Host.sleep frequency).run h ≠ (.error (.fault fault), h') := by
    intro h fault h' hfault
    rcases Host.run_sleep_cases frequency h with ⟨reason, hcrash⟩ | ⟨seen, h'', hslept, -⟩
    · cases hfault.symm.trans hcrash
    · cases hfault.symm.trans hslept
  refine ⟨fun earlier h₁ h₂ hrounds hseen hmore => ?_, Keeper.exists_flush hfaultless, ?_⟩
  · have hcalls : ∀ c ∈ earlier ++ [k.call h₂], c = k.call c.before := by
      intro c hc
      rcases List.mem_append.mp hc with hc | hc
      · exact (hrounds.mem hc).2
      · rw [List.mem_singleton.mp hc]
        rfl
    refine ⟨Keeper.run_of_flush hrounds hseen hmore,
      Keeper.run_watched_of_flush hrounds hseen hmore, fun c hc => ?_, fun c hc hstopped => ?_,
      (Host.stopped_iff_of_run_sleep hseen).mp rfl⟩
    · rw [hcalls c hc]
      exact ⟨rfl, rfl, rfl⟩
    · obtain ⟨⟨s, hslept⟩, -⟩ := hrounds.mem hc
      cases (Host.stopped_iff_of_run_sleep hslept).mpr hstopped
  · intro n h' hrun
    have hreturned : Returned ((k.run (Host.sleep frequency) rounds).run h).1 := by
      intro halt hhalt
      rw [hrun] at hhalt
      cases hhalt
    obtain ⟨earlier, h₁, h₂, hrounds, hseen, hmore⟩ := Keeper.exists_flush hfaultless hreturned
    have hflush := Keeper.run_of_flush hrounds hseen hmore
    refine ⟨k.call h₂, (Host.stopped_iff_of_run_sleep hseen).mp rfl, rfl, ?_, ?_⟩
    · have hverdict : Keeper.verdict earlier (k.call h₂) = .ok n :=
        congrArg Prod.fst (hflush.symm.trans hrun)
      unfold Keeper.verdict at hverdict
      unfold Call.succeeded
      cases hresult : (k.call h₂).result with
      | ok report => rfl
      | error halt =>
        rw [hresult] at hverdict
        cases hverdict
    · exact congrArg Prod.snd (hflush.symm.trans hrun)

/-! ## Checkpoints with a stop in a call -/

/-- A call that takes half a second. The stop comes in the first one after half a second, and those
    before fail. -/
def lateUpload : Act Host RunReport := do
  let h ← get
  set { h with
    clock := h.clock + 500000
    stopAt := if h.clock < 500000 then none else some h.clock }
  if h.clock < 500000 then throw (.fault (.io .notFound)) else return .start

def lateKeeper : Keeper Host := ⟨fun _ _ _ => lateUpload, "out", "s3://b/out", none⟩

/-- A host at a time, and with a stop or without one. -/
def lateHost (clock : Nat) (stopAt : Option Nat) : Host :=
  { Retry.stage fun _ => .succeeded () with clock := clock, stopAt := stopAt }

/-- A call fails, the stop comes in the next one, and then there is one more. -/
theorem flush_of_late_stop :
    ∃ earlier h₁ h₂, lateKeeper.Rounds (Host.sleep ⟨100000000⟩) (lateHost 0 none) earlier h₁ ∧
      (Host.sleep ⟨100000000⟩).run h₁ = (.ok true, h₂) ∧
      earlier.map Call.succeeded = [false, true] ∧ h₂.Stopped ∧
      (lateKeeper.run (Host.sleep ⟨100000000⟩) 3).run (lateHost 0 none) =
        (.ok 2, (lateKeeper.call h₂).after) := by
  have hfirst : (Host.sleep ⟨100000000⟩).run (lateHost 0 none) =
      (.ok false, lateHost 100000 none) := Host.run_sleep (by decide) (by decide +kernel)
  have hsecond : (Host.sleep ⟨100000000⟩).run (lateHost 600000 none) =
      (.ok false, lateHost 700000 none) := Host.run_sleep (by decide) (by decide +kernel)
  have hseen : (Host.sleep ⟨100000000⟩).run (lateHost 1200000 (some 700000)) =
      (.ok true, lateHost 1200000 (some 700000)) := Host.run_sleep (by decide) (by decide +kernel)
  have hfault : (lateKeeper.call (lateHost 100000 none)).result =
      .error (.fault (.io .notFound)) := rfl
  have hreport : (lateKeeper.call (lateHost 700000 none)).result = .ok .start := rfl
  have hrounds : lateKeeper.Rounds (Host.sleep ⟨100000000⟩) (lateHost 0 none)
      [lateKeeper.call (lateHost 100000 none), lateKeeper.call (lateHost 700000 none)]
      (lateHost 1200000 (some 700000)) := by
    refine .cons hfirst (fun halt hhalt => ?_) (.cons hsecond (fun halt hhalt => ?_) (.nil _))
    · cases hfault.symm.trans hhalt
      exact ⟨_, rfl⟩
    · cases hreport.symm.trans hhalt
  obtain ⟨hrun, -, -, -, hstopped⟩ := (flush_of_checkpoints lateKeeper ⟨100000000⟩
    (lateHost 0 none) 3).1 _ _ _ hrounds hseen (by decide)
  exact ⟨_, _, _, hrounds, hseen, rfl, hstopped, hrun⟩

end Checkpoint

end DataStaging
