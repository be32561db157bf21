import DataStaging.Proofs.Process.Outage
import Mathlib.Logic.Relation

/-!
# A run and the marks of its connection

A run looks at the connection before each attempt and, while it is broken, again and again. Between
two looks the connection may be marked good and bad any number of times, and so it may between a
look and what follows from it.

The run, the clock and the marks take their steps in any order. What an attempt comes to, how long
it takes and how a wait is drawn are left open. Everything that happens is put down.

Results:
* `account_of_runs`: the connection is kept as its marks tell, and whatever was put down fits what
  was put down before it.
* `Fitting.outage`: what a look says that finds the connection broken.
* `Fitting.gaveUp`: what a wait says that was given up.
-/

namespace DataStaging

variable {α : Type}

/-- A command that is tried until it succeeds, and how its connection is watched. -/
structure Trial where
  policy : RetryPolicy
  label : String
  hasVariant : Bool
  status : Int
  poll : Duration
  limit : Option Duration

/-- What happens, and when. -/
inductive Happening
  | marked (m : Mark)
  /-- The run looks, and the connection is broken since then, if it is. -/
  | looked (time : Nat) (since : Option Nat)
  /-- The wait for the connection is over. -/
  | waited (time : Nat) (result : Except Fault Unit)
  /-- An attempt begins. -/
  | began (time : Nat)
  /-- An attempt ends. -/
  | ended (time : Nat)

namespace Happening

def time : Happening → Nat
  | marked m => m.time
  | looked time _ | waited time _ | began time | ended time => time

def mark? : Happening → Option Mark
  | marked m => some m
  | _ => none

/-- Neither does the run look, nor does an attempt begin or end. -/
def isQuiet : Happening → Bool
  | marked _ | waited _ _ => true
  | looked _ _ | began _ | ended _ => false

end Happening

/-- The marks among what happened. -/
def marksOf (past : List Happening) : List Mark := past.filterMap Happening.mark?

/-- Where a run stands. -/
inductive Stage (α : Type)
  /-- It looks at the connection when this time has come. -/
  | due (time : Nat)
  /-- It has looked, and the connection was broken for so long, if it was. -/
  | seen (gone : Option Nat)
  /-- The wait for the connection has ended well. -/
  | admitted
  | attempting
  | done (result : Except Fault (α × RunReport))

/-- A run with its clock and its connection. -/
structure Gated (α : Type) where
  clock : Nat
  health : Health
  stage : Stage α
  report : RunReport
  /-- What happened so far, in order. -/
  past : List Happening

namespace Gated

/-- Before the first step. -/
def start : Gated α := ⟨0, .start, .due 0, .start, []⟩

/-- Whether the connection may be broken for so long. -/
def Bearable (limit : Option Duration) (gone : Nat) : Prop :=
  ∀ l, limit = some l → (Duration.ofMicros gone).nanos < l.nanos

/-- Where a run stands after an attempt. -/
def stageAfter (k : Trial) (clock : Nat) (report : RunReport) : Retry.Next α → Stage α
  | .done value => .done (.ok (value, report))
  | .awaitService => .due (clock + k.poll.micros)
  | .awaitQuota delay => .due (clock + delay.micros)
  | .again => .due clock
  | .spent => .done (.error (.retriesExhausted k.label k.policy.maxRetries k.status))

/-- The run after an attempt that came to an outcome. -/
def finish (k : Trial) (s : Gated α) (jitter : Float) (outcome : Attempt α) : Gated α :=
  let (report, _, next) :=
    Retry.advance k.policy k.label k.hasVariant jitter s.report outcome
  { s with
    stage := stageAfter k s.clock report next
    report := report
    past := s.past ++ [.ended s.clock] }

/-- One step of the clock, of a mark or of the run: `ProcessRunner::retry_loop` (`process/runner`,
    lines 191–276) behind `ConnectionHealth::wait_until_healthy`, with the marks of
    `ConnectionHealth` (`process/health`, lines 71–117). -/
inductive Step (k : Trial) (s : Gated α) : Gated α → Prop where
  | pass {time : Nat} : s.clock ≤ time → Step k s { s with clock := time }
  | mark (good : Bool) : Step k s { s with
      health := s.health.mark ⟨s.clock, good⟩
      past := s.past ++ [.marked ⟨s.clock, good⟩] }
  | look {time : Nat} : s.stage = .due time → time ≤ s.clock → Step k s { s with
      stage := .seen (s.health.since.map (s.clock - ·))
      past := s.past ++ [.looked s.clock s.health.since] }
  /-- The connection was good. -/
  | enter : s.stage = .seen none → Step k s { s with
      stage := .admitted
      past := s.past ++ [.waited s.clock (.ok ())] }
  /-- The connection was broken for too long. -/
  | giveUp {gone : Nat} {limit : Duration} : s.stage = .seen (some gone) → k.limit = some limit →
      limit.nanos ≤ (Duration.ofMicros gone).nanos → Step k s { s with
        stage := .done (.error (.serviceGone (.ofMicros gone) limit))
        past := s.past ++ [.waited s.clock (.error (.serviceGone (.ofMicros gone) limit))] }
  /-- The connection was broken, and the run waits before it looks again. -/
  | nap {gone : Nat} : s.stage = .seen (some gone) → Bearable k.limit gone →
      Step k s { s with stage := .due (s.clock + k.poll.micros) }
  | begin : s.stage = .admitted → Step k s { s with
      stage := .attempting
      past := s.past ++ [.began s.clock] }
  | finish (jitter : Float) (outcome : Attempt α) : s.stage = .attempting →
      Step k s (s.finish k jitter outcome)
  /-- The attempt could not be made. -/
  | fail (fault : Fault) : s.stage = .attempting → Step k s { s with
      stage := .done (.error fault)
      past := s.past ++ [.ended s.clock] }

/-- Any number of steps. -/
def Runs (k : Trial) : Gated α → Gated α → Prop := Relation.ReflTransGen (Step k)

/-! ## What happens fits what happened before -/

/-- The last look was at this time and found the connection as told, and no attempt began or ended
    since. -/
def LastLook (past : List Happening) (time : Nat) (since : Option Nat) : Prop :=
  ∃ earlier later, past = earlier ++ .looked time since :: later ∧ ∀ e ∈ later, e.isQuiet = true

/-- That the wait ended with this fault fits what happened before it: the last look found the
    connection broken for so long, a limit is set and was reached. -/
def GaveUp (limit : Option Duration) (past : List Happening) (fault : Fault) : Prop :=
  ∃ l time since, limit = some l ∧ LastLook past time (some since) ∧
    fault = .serviceGone (.ofMicros (time - since)) l ∧
    l.nanos ≤ (Duration.ofMicros (time - since)).nanos

/-- That something happens fits what happened before it. -/
def Fits (limit : Option Duration) (past : List Happening) : Happening → Prop
  | .marked _ | .ended _ => True
  | .looked _ since => since = (Health.after (marksOf past)).since
  | .waited _ (.ok ()) | .began _ => ∃ time, LastLook past time none
  | .waited _ (.error fault) => GaveUp limit past fault

/-- Everything that happened fits what happened before it, and came in the order of time. -/
inductive Fitting (limit : Option Duration) : List Happening → Prop where
  | nil : Fitting limit []
  | concat {past : List Happening} {e : Happening} : Fitting limit past → Fits limit past e →
      (∀ x ∈ past, x.time ≤ e.time) → Fitting limit (past ++ [e])

variable {k : Trial} {limit : Option Duration} {past : List Happening} {s s' : Gated α}

theorem LastLook.concat {time : Nat} {since : Option Nat} (h : LastLook past time since)
    {e : Happening} (he : e.isQuiet = true) : LastLook (past ++ [e]) time since := by
  obtain ⟨earlier, later, rfl, hlater⟩ := h
  refine ⟨earlier, later ++ [e], by simp, fun x hx => ?_⟩
  rcases List.mem_append.mp hx with hx | hx
  · exact hlater x hx
  · rwa [List.mem_singleton.mp hx]

theorem lastLook_concat (past : List Happening) (time : Nat) (since : Option Nat) :
    LastLook (past ++ [.looked time since]) time since :=
  ⟨past, [], rfl, fun _ hx => absurd hx List.not_mem_nil⟩

theorem Fitting.of_append {later : List Happening} (h : Fitting limit (past ++ later)) :
    Fitting limit past := by
  induction later using List.reverseRecOn with
  | nil => rwa [List.append_nil] at h
  | append_singleton later e ih =>
    rw [← List.append_assoc] at h
    generalize hp : past ++ later ++ [e] = p at h
    cases h with
    | nil => simp at hp
    | concat h _ _ =>
      obtain ⟨rfl, -⟩ := List.append_inj' hp rfl
      exact ih h

/-- What happened fits what happened before it. -/
theorem Fitting.fits {e : Happening} {later : List Happening}
    (h : Fitting limit (past ++ e :: later)) :
    Fits limit past e ∧ ∀ x ∈ past, x.time ≤ e.time := by
  have hconcat : Fitting limit (past ++ [e]) := by
    rw [← List.singleton_append, ← List.append_assoc] at h
    exact h.of_append
  generalize hp : past ++ [e] = p at hconcat
  cases hconcat with
  | nil => simp at hp
  | concat _ hfits htime =>
    obtain ⟨rfl, he⟩ := List.append_inj' hp rfl
    cases he
    exact ⟨hfits, htime⟩

theorem Fitting.pairwise (h : Fitting limit past) :
    past.Pairwise fun e e' => e.time ≤ e'.time := by
  induction h with
  | nil => exact .nil
  | concat _ _ htime ih =>
    refine List.pairwise_append.mpr ⟨ih, List.pairwise_singleton _ _, fun x hx y hy => ?_⟩
    rw [List.mem_singleton.mp hy]
    exact htime x hx

/-! ## What is kept -/

/-- The connection is kept as its marks tell, everything that happened fits what happened before it,
    and where a run stands before an attempt is owed to its last look. -/
structure Account (k : Trial) (s : Gated α) : Prop where
  health : s.health = Health.after (marksOf s.past)
  fitting : Fitting k.limit s.past
  clock : ∀ e ∈ s.past, e.time ≤ s.clock
  seen : ∀ gone, s.stage = .seen gone →
    ∃ time since, LastLook s.past time since ∧ gone = since.map (time - ·)
  admitted : s.stage = .admitted → ∃ time, LastLook s.past time none

theorem marksOf_concat {e : Happening} (past : List Happening) (he : e.mark? = none) :
    marksOf (past ++ [e]) = marksOf past := by
  rw [marksOf, List.filterMap_append, List.filterMap_cons_none he, List.filterMap_nil,
    List.append_nil]
  rfl

theorem marksOf_concat_marked (past : List Happening) (m : Mark) :
    marksOf (past ++ [.marked m]) = marksOf past ++ [m] := by
  rw [marksOf, List.filterMap_append]
  rfl

theorem account_start (k : Trial) : Account k (start : Gated α) where
  health := rfl
  fitting := .nil
  clock := fun _ he => absurd he List.not_mem_nil
  seen := by rintro gone ⟨⟩
  admitted := by rintro ⟨⟩

/-- What happens now comes after everything else. -/
theorem Account.clock_concat (acc : Account k s) {e : Happening} (he : e.time = s.clock) :
    ∀ x ∈ s.past ++ [e], x.time ≤ s.clock := by
  intro x hx
  rcases List.mem_append.mp hx with hx | hx
  · exact acc.clock x hx
  · rw [List.mem_singleton.mp hx]
    exact Nat.le_of_eq he

theorem Account.fitting_concat (acc : Account k s) {e : Happening} (he : e.time = s.clock)
    (hfits : Fits k.limit s.past e) : Fitting k.limit (s.past ++ [e]) :=
  .concat acc.fitting hfits fun x hx => he ▸ acc.clock x hx

/-- A step that puts something down which is no mark. -/
theorem Account.happen (acc : Account k s) (e : Happening) (he : e.time = s.clock)
    (hmark : e.mark? = none) (hfits : Fits k.limit s.past e) {stage : Stage α} (report : RunReport)
    (hseen : ∀ gone, stage = .seen gone →
      ∃ time since, LastLook (s.past ++ [e]) time since ∧ gone = since.map (time - ·))
    (hadmitted : stage = .admitted → ∃ time, LastLook (s.past ++ [e]) time none) :
    Account k { s with stage := stage, report := report, past := s.past ++ [e] } where
  health := acc.health.trans (congrArg Health.after (marksOf_concat _ hmark).symm)
  fitting := acc.fitting_concat he hfits
  clock := acc.clock_concat he
  seen := hseen
  admitted := hadmitted

/-- After an attempt the run waits, or it is over. -/
theorem stageAfter_eq (k : Trial) (clock : Nat) (report : RunReport) (next : Retry.Next α) :
    (∃ time, stageAfter k clock report next = .due time) ∨
      ∃ result, stageAfter k clock report next = .done result := by
  cases next with
  | done _ | spent => exact Or.inr ⟨_, rfl⟩
  | awaitService | awaitQuota _ | again => exact Or.inl ⟨_, rfl⟩

theorem account_finish (acc : Account k s) (jitter : Float) (outcome : Attempt α) :
    Account k (s.finish k jitter outcome) := by
  rcases h : Retry.advance k.policy k.label k.hasVariant jitter s.report outcome
    with ⟨report, notices, next⟩
  simp only [finish, h]
  have hstage := stageAfter_eq k s.clock report next
  generalize stageAfter k s.clock report next = stage at hstage
  refine acc.happen (.ended s.clock) rfl rfl trivial report ?_ ?_
  · rintro gone rfl
    simp at hstage
  · rintro rfl
    simp at hstage

/-- The wait for the connection ends as its last look demands. -/
theorem Account.fits_giveUp (acc : Account k s) {gone : Nat} {limit : Duration}
    (hseen : s.stage = .seen (some gone)) (hlimit : k.limit = some limit)
    (hlong : limit.nanos ≤ (Duration.ofMicros gone).nanos) :
    GaveUp k.limit s.past (.serviceGone (.ofMicros gone) limit) := by
  obtain ⟨time, since, hlook, hgone⟩ := acc.seen _ hseen
  obtain ⟨since, rfl, rfl⟩ := Option.map_eq_some_iff.mp hgone.symm
  exact ⟨limit, time, since, hlimit, hlook, rfl, hlong⟩

theorem Account.fits_enter (acc : Account k s) (hseen : s.stage = .seen none) :
    ∃ time, LastLook s.past time none := by
  obtain ⟨time, since, hlook, hgone⟩ := acc.seen _ hseen
  obtain rfl := Option.map_eq_none_iff.mp hgone.symm
  exact ⟨time, hlook⟩

theorem account_step (h : Step k s s') (acc : Account k s) : Account k s' := by
  cases h with
  | pass hclock =>
    exact ⟨acc.health, acc.fitting, fun e he => Nat.le_trans (acc.clock e he) hclock, acc.seen,
      acc.admitted⟩
  | mark good =>
    refine ⟨?_, acc.fitting_concat rfl trivial, acc.clock_concat rfl, fun gone hgone => ?_,
      fun hadmitted => ?_⟩
    · rw [marksOf_concat_marked, Health.after_concat, acc.health]
    · obtain ⟨time, since, hlook, hgone⟩ := acc.seen gone hgone
      exact ⟨time, since, hlook.concat rfl, hgone⟩
    · obtain ⟨time, hlook⟩ := acc.admitted hadmitted
      exact ⟨time, hlook.concat rfl⟩
  | look _ _ =>
    refine acc.happen (.looked s.clock s.health.since) rfl rfl (congrArg Health.since acc.health)
      s.report ?_ (by rintro ⟨⟩)
    rintro gone ⟨⟩
    exact ⟨s.clock, s.health.since, lastLook_concat _ _ _, rfl⟩
  | enter hseen =>
    obtain ⟨time, hlook⟩ := acc.fits_enter hseen
    exact acc.happen (.waited s.clock (.ok ())) rfl rfl ⟨time, hlook⟩ s.report (by rintro gone ⟨⟩)
      fun _ => ⟨time, hlook.concat rfl⟩
  | giveUp hseen hlimit hlong =>
    exact acc.happen (.waited s.clock (.error _)) rfl rfl (acc.fits_giveUp hseen hlimit hlong)
      s.report (by rintro gone ⟨⟩) (by rintro ⟨⟩)
  | nap _ _ => exact ⟨acc.health, acc.fitting, acc.clock, by rintro gone ⟨⟩, by rintro ⟨⟩⟩
  | begin hadmitted =>
    exact acc.happen (.began s.clock) rfl rfl (acc.admitted hadmitted) s.report
      (by rintro gone ⟨⟩) (by rintro ⟨⟩)
  | finish jitter outcome _ => exact account_finish acc jitter outcome
  | fail fault _ =>
    exact acc.happen (.ended s.clock) rfl rfl trivial s.report (by rintro gone ⟨⟩) (by rintro ⟨⟩)

theorem account_of_runs (h : Runs k start s) : Account k s := by
  induction h with
  | refl => exact account_start k
  | tail _ hstep ih => exact account_step hstep ih

/-! ## What a look says -/

theorem mem_marksOf {m : Mark} : m ∈ marksOf past ↔ .marked m ∈ past := by
  rw [marksOf, List.mem_filterMap]
  constructor
  · rintro ⟨e, he, hm⟩
    cases e <;> cases hm
    exact he
  · exact fun h => ⟨.marked m, h, rfl⟩

theorem Fitting.marks_pairwise (h : Fitting limit past) :
    (marksOf past).Pairwise fun m m' => m.time ≤ m'.time := by
  rw [marksOf, List.pairwise_filterMap]
  refine h.pairwise.imp fun {e e'} htime m hm m' hm' => ?_
  cases e <;> cases hm
  cases e' <;> cases hm'
  exact htime

/-- A look that finds the connection broken follows a bad mark of the time that it tells, and no
    good mark came later than that. -/
theorem Fitting.outage {time since : Nat} {later : List Happening}
    (h : Fitting limit (past ++ .looked time (some since) :: later)) :
    since ≤ time ∧ Outage (marksOf past) since ∧
      ∀ m ∈ marksOf past, m.good = true → m.time ≤ since := by
  obtain ⟨hsince, htime⟩ := h.fits
  have houtage := Health.since_eq_some_iff.mp hsince.symm
  refine ⟨?_, houtage, fun m hm => houtage.le_of_good h.of_append.marks_pairwise hm⟩
  obtain ⟨earlier, later, hmarks, -, -⟩ := houtage
  refine htime (.marked ⟨since, false⟩) (mem_marksOf.mp ?_)
  rw [hmarks]
  exact List.mem_append_cons_self

/-- A wait is given up for an outage that has lasted for as long as is told, and as the limit
    demands. -/
theorem Fitting.gaveUp {fault : Fault} (h : Fitting limit past) (hfault : GaveUp limit past fault) :
    ∃ l looked elapsed before after, limit = some l ∧ fault = .serviceGone (.ofMicros elapsed) l ∧
      l.nanos ≤ (Duration.ofMicros elapsed).nanos ∧ elapsed ≤ looked ∧
      past = before ++ .looked looked (some (looked - elapsed)) :: after ∧
      (∀ e ∈ after, e.isQuiet = true) ∧
      ∀ m ∈ marksOf before, m.good = true → m.time ≤ looked - elapsed := by
  obtain ⟨l, looked, since, hlimit, ⟨before, after, rfl, hafter⟩, hfault, hlong⟩ := hfault
  obtain ⟨hsince, -, hgood⟩ := h.outage
  have hback : looked - (looked - since) = since := Nat.sub_sub_self hsince
  refine ⟨l, looked, looked - since, before, after, hlimit, hfault, hlong, Nat.sub_le _ _, ?_,
    hafter, ?_⟩
  · rw [hback]
  · rw [hback]
    exact hgood

end Gated

end DataStaging
