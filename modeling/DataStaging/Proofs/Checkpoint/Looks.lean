import DataStaging.Proofs.Process.Accounting
import DataStaging.Transfer.Stop
import Mathlib.Algebra.Order.Floor.Div
import Mathlib.Tactic.Common

/-!
# When a sleep looks for a stop

A sleep looks for a stop, is over if it sees one or its time has come, and otherwise waits for a
tick, or for what is left of its time if that is less. A timer wakes it exactly when it asked to be
woken. `Looks` is that loop with all its looks, for a clock and a tick of any unit.

Results:
* `Looks.exists_run`, `Looks.unique`: a sleep comes to an end, in one way.
* `Looks.kept`: its looks are at the start, at every tick and at the deadline, for as long as none
  has seen a stop.
* `sleepUntil_of_looks`: these are the looks of `sleepUntil`.
* `Host.sleep_kept`: all of this for every span, in nanoseconds and on a host's clock.
-/

namespace DataStaging

/-- The stop has come by then. -/
abbrev RaisedBy (raised : Option Nat) (now : Nat) : Prop := raised.any (· ≤ now) = true

/-- A sleep until the deadline looks for a stop at these times, the first of which is `now`, and
    tells in the end whether it has seen one. -/
inductive Looks (tick : Nat) (raised : Option Nat) (deadline : Nat) :
    Nat → List Nat → Bool → Prop
  | stopped {now : Nat} (stop : RaisedBy raised now) : Looks tick raised deadline now [now] true
  | ended {now : Nat} (quiet : ¬ RaisedBy raised now) (due : deadline ≤ now) :
      Looks tick raised deadline now [now] false
  | wait {now : Nat} {times : List Nat} {seen : Bool} (quiet : ¬ RaisedBy raised now)
      (early : now < deadline)
      (more : Looks tick raised deadline (now + min (deadline - now) tick) times seen) :
      Looks tick raised deadline now (now :: times) seen

/-- The looks of a sleep that sees no stop: at the start, at every tick and at the deadline. -/
def schedule (tick start span : Nat) : List Nat :=
  (List.range (span ⌈/⌉ tick)).map (fun k => start + k * tick) ++ [start + span]

/-- What the looks of a sleep tell. -/
structure Kept (tick : Nat) (raised : Option Nat) (start span : Nat) (times : List Nat)
    (seen : Bool) : Prop where
  /-- The looks are on schedule, and none is left out. -/
  on_schedule : times <+: schedule tick start span
  length_le : times.length ≤ span ⌈/⌉ tick + 1
  /-- Nothing was seen before the last look. -/
  quiet_before : ∀ t ∈ times.dropLast, ¬ RaisedBy raised t
  /-- The last look decides. -/
  seen_iff : ∃ last, times.getLast? = some last ∧ (seen = true ↔ RaisedBy raised last)
  /-- A sleep that saw no stop has lasted until its deadline, and there was none by then. -/
  of_unseen : seen = false → times = schedule tick start span ∧
    times.getLast? = some (start + span) ∧ ¬ RaisedBy raised (start + span)

variable {tick deadline now start span : Nat} {raised : Option Nat} {times times' : List Nat}
  {seen seen' : Bool}

/-! ## The schedule -/

theorem schedule_zero : schedule tick start 0 = [start] := by
  have hnone : 0 ⌈/⌉ tick = 0 := zero_ceilDiv tick
  rw [schedule, hnone]
  rfl

/-- One tick more is one look more. -/
theorem ceilDiv_of_pos (htick : 0 < tick) (hspan : 0 < span) :
    span ⌈/⌉ tick = (span - min span tick) ⌈/⌉ tick + 1 := by
  rw [Nat.ceilDiv_eq_add_pred_div, Nat.ceilDiv_eq_add_pred_div]
  rcases Nat.le_total span tick with hle | hle
  · rw [Nat.min_eq_left hle, Nat.sub_self, Nat.zero_add,
      Nat.div_eq_of_lt (Nat.sub_lt htick Nat.one_pos),
      show span + tick - 1 = span - 1 + tick by omega, Nat.add_div_right _ htick,
      Nat.div_eq_of_lt (by omega)]
  · rw [Nat.min_eq_right hle, show span + tick - 1 = span - tick + tick - 1 + tick by omega,
      Nat.add_div_right _ htick]

/-- After a look the schedule goes on from the next one. -/
theorem schedule_of_pos (htick : 0 < tick) (hspan : 0 < span) :
    schedule tick start span =
      start :: schedule tick (start + min span tick) (span - min span tick) := by
  have hmin : min span tick ≤ span := Nat.min_le_left _ _
  have hend : start + min span tick + (span - min span tick) = start + span := by omega
  rw [schedule, schedule, ceilDiv_of_pos htick hspan, List.range_succ_eq_map, List.map_cons,
    List.map_map, Nat.zero_mul, Nat.add_zero, hend, List.cons_append]
  congr 2
  apply List.map_congr_left
  intro k hk
  rw [List.mem_range] at hk
  -- a further look before the deadline means that this wait is a whole tick
  have hwhole : min span tick = tick := by
    rcases Nat.le_total span tick with hle | hle
    · rw [Nat.min_eq_left hle, Nat.sub_self, zero_ceilDiv] at hk
      exact absurd hk (Nat.not_lt_zero k)
    · exact Nat.min_eq_right hle
  rw [Function.comp_apply, hwhole, Nat.succ_mul]
  omega

/-! ## One sleep -/

namespace Looks

/-- A wait brings the deadline closer. -/
theorem exists_run (htick : 0 < tick) (raised : Option Nat) (deadline now : Nat) :
    ∃ times seen, Looks tick raised deadline now times seen := by
  by_cases hstop : RaisedBy raised now
  · exact ⟨[now], true, .stopped hstop⟩
  · rcases Nat.lt_or_ge now deadline with hearly | hdue
    · obtain ⟨times, seen, hmore⟩ :=
        exists_run htick raised deadline (now + min (deadline - now) tick)
      exact ⟨now :: times, seen, .wait hstop hearly hmore⟩
    · exact ⟨[now], false, .ended hstop hdue⟩
termination_by deadline - now

theorem unique (h : Looks tick raised deadline now times seen)
    (h' : Looks tick raised deadline now times' seen') : times = times' ∧ seen = seen' := by
  induction h generalizing times' seen' with
  | stopped stop =>
    cases h' with
    | stopped _ => exact ⟨rfl, rfl⟩
    | ended quiet _ => exact absurd stop quiet
    | wait quiet _ _ => exact absurd stop quiet
  | ended quiet due =>
    cases h' with
    | stopped stop => exact absurd stop quiet
    | ended _ _ => exact ⟨rfl, rfl⟩
    | wait _ early _ => exact absurd early (Nat.not_lt.mpr due)
  | wait quiet early _ ih =>
    cases h' with
    | stopped stop => exact absurd stop quiet
    | ended _ due => exact absurd early (Nat.not_lt.mpr due)
    | wait _ _ more =>
      obtain ⟨rfl, rfl⟩ := ih more
      exact ⟨rfl, rfl⟩

theorem ne_nil (h : Looks tick raised deadline now times seen) : times ≠ [] := by
  cases h <;> exact List.cons_ne_nil _ _

end Looks

/-- A wait of at most a tick that does not pass the deadline keeps what the looks after it tell. -/
theorem Kept.wait (htick : 0 < tick) (hspan : 0 < span) (hquiet : ¬ RaisedBy raised start)
    (hne : times ≠ [])
    (h : Kept tick raised (start + min span tick) (span - min span tick) times seen) :
    Kept tick raised start span (start :: times) seen := by
  have hmin : min span tick ≤ span := Nat.min_le_left _ _
  have hend : start + min span tick + (span - min span tick) = start + span := by omega
  obtain ⟨last, hlast, hseen⟩ := h.seen_iff
  have hlast' : (start :: times).getLast? = times.getLast? := List.getLast?_cons_of_ne_nil hne
  constructor
  · rw [schedule_of_pos htick hspan]
    exact List.cons_prefix_cons.mpr ⟨rfl, h.on_schedule⟩
  · rw [List.length_cons, ceilDiv_of_pos htick hspan]
    exact Nat.succ_le_succ h.length_le
  · rw [List.dropLast_cons_of_ne_nil hne, List.forall_mem_cons]
    exact ⟨hquiet, h.quiet_before⟩
  · exact ⟨last, hlast'.trans hlast, hseen⟩
  · intro hunseen
    obtain ⟨hall, hover, hnone⟩ := h.of_unseen hunseen
    rw [hend] at hover hnone
    refine ⟨?_, hlast'.trans hover, hnone⟩
    rw [schedule_of_pos htick hspan, ← hall]

/-- The first look of a schedule that a stop ends. -/
theorem Kept.stopped (htick : 0 < tick) (hstop : RaisedBy raised start) :
    Kept tick raised start span [start] true := by
  constructor
  · rcases Nat.eq_zero_or_pos span with rfl | hspan
    · rw [schedule_zero]
    · rw [schedule_of_pos htick hspan]
      exact List.cons_prefix_cons.mpr ⟨rfl, List.nil_prefix⟩
  · exact Nat.le_add_left 1 _
  · intro t ht
    exact absurd ht List.not_mem_nil
  · exact ⟨start, rfl, iff_of_true rfl hstop⟩
  · intro hunseen
    exact absurd hunseen (by decide)

theorem Kept.ended (hquiet : ¬ RaisedBy raised start) :
    Kept tick raised start 0 [start] false := by
  constructor
  · rw [schedule_zero]
  · exact Nat.le_add_left 1 _
  · intro t ht
    exact absurd ht List.not_mem_nil
  · exact ⟨start, rfl, iff_of_false Bool.false_ne_true hquiet⟩
  · intro _
    exact ⟨schedule_zero.symm, rfl, hquiet⟩

/-- The looks of a sleep are kept, by induction on them: what is left of the span shrinks with every
    wait, and is nothing when the deadline has come. -/
theorem Looks.kept (htick : 0 < tick) (hnow : now ≤ deadline)
    (h : Looks tick raised deadline now times seen) :
    Kept tick raised now (deadline - now) times seen := by
  induction h with
  | stopped stop => exact Kept.stopped htick stop
  | ended quiet due =>
    rw [Nat.sub_eq_zero_of_le due]
    exact Kept.ended quiet
  | @wait now times seen quiet early more ih =>
    have hmin : min (deadline - now) tick ≤ deadline - now := Nat.min_le_left _ _
    have hkept := ih (by omega)
    rw [Nat.sub_add_eq] at hkept
    exact hkept.wait htick (Nat.sub_pos_of_lt early) quiet more.ne_nil

/-! ## The sleep of a host -/

/-- A sleep ends with its last look. -/
theorem sleepUntil_of_looks
    (h : Looks Defaults.stopTick.micros raised deadline now times seen) :
    ∃ last, times.getLast? = some last ∧ sleepUntil raised deadline now = (seen, last) := by
  induction h with
  | stopped stop =>
    rw [sleepUntil, if_pos stop]
    exact ⟨_, rfl, rfl⟩
  | ended quiet due =>
    rw [sleepUntil, if_neg quiet, if_pos due]
    exact ⟨_, rfl, rfl⟩
  | @wait now times seen quiet early more ih =>
    obtain ⟨last, hlast, hsleep⟩ := ih
    have hnext : min deadline (now + Defaults.stopTick.micros) =
        now + min (deadline - now) Defaults.stopTick.micros := by omega
    refine ⟨last, (List.getLast?_cons_of_ne_nil more.ne_nil).trans hlast, ?_⟩
    rw [sleepUntil, if_neg quiet, if_neg (Nat.not_le.mpr early), hnext, hsleep]

theorem Host.run_sleep {span : Duration} {h : Host}
    (hclock : (h.clock + span.micros) / 1000000 < clockLimit) {last : Nat}
    (hsleep : sleepUntil h.stopAt (h.clock + span.micros) h.clock = (seen, last)) :
    (sleep span).run h = (.ok seen, { h with clock := last }) := by
  rw [sleep, run_get_bind]
  simp only [if_neg (Nat.not_le.mpr hclock), hsleep]
  rfl

/-- Where the clock can count to its deadline, a sleep is kept. -/
theorem Host.exists_looks {span : Duration} {h : Host}
    (hclock : (h.clock + span.micros) / 1000000 < clockLimit) : ∃ times seen last,
      Looks Defaults.stopTick.micros h.stopAt (h.clock + span.micros) h.clock times seen ∧
      Kept Defaults.stopTick.micros h.stopAt h.clock span.micros times seen ∧
      times.getLast? = some last ∧ (sleep span).run h = (.ok seen, { h with clock := last }) := by
  have htick : 0 < Defaults.stopTick.micros := by decide
  obtain ⟨times, seen, hlooks⟩ := Looks.exists_run htick h.stopAt (h.clock + span.micros) h.clock
  have hkept := hlooks.kept htick (Nat.le_add_right _ _)
  rw [Nat.add_sub_cancel_left] at hkept
  obtain ⟨last, hlast, hsleep⟩ := sleepUntil_of_looks hlooks
  exact ⟨times, seen, last, hlooks, hkept, hlast, run_sleep hclock hsleep⟩

/-- A sleep of any span comes to an end in one way, whenever a stop comes. Its looks are at the
    start, at every tick and at the deadline; one that sees a stop is the last, and it sees one if
    there is one by then. On a host whose clock can count to the deadline this is what `sleep`
    does. -/
theorem Host.sleep_kept (span : Duration) :
    (∀ raised start, ∃ times seen,
      (∀ times' seen',
        Looks Defaults.stopTick.nanos raised (start + span.nanos) start times' seen' ↔
          times' = times ∧ seen' = seen) ∧
      Kept Defaults.stopTick.nanos raised start span.nanos times seen) ∧
    ∀ h : Host, (h.clock + span.micros) / 1000000 < clockLimit → ∃ times seen last,
      Looks Defaults.stopTick.micros h.stopAt (h.clock + span.micros) h.clock times seen ∧
      Kept Defaults.stopTick.micros h.stopAt h.clock span.micros times seen ∧
      times.getLast? = some last ∧
      (Host.sleep span).run h = (.ok seen, { h with clock := last }) := by
  refine ⟨fun raised start => ?_, fun h hclock => exists_looks hclock⟩
  have htick : 0 < Defaults.stopTick.nanos := by decide
  obtain ⟨times, seen, hlooks⟩ := Looks.exists_run htick raised (start + span.nanos) start
  have hkept := hlooks.kept htick (Nat.le_add_right _ _)
  rw [Nat.add_sub_cancel_left] at hkept
  refine ⟨times, seen, fun times' seen' => ⟨fun h => h.unique hlooks, ?_⟩, hkept⟩
  rintro ⟨rfl, rfl⟩
  exact hlooks

/-- A stop a quarter of a second into a sleep of a second is seen by the fourth look. -/
theorem Host.sleep_kept_quarter :
    (0 + (Duration.ofSeconds 1).micros) / 1000000 < clockLimit ∧
      (Host.sleep (.ofSeconds 1)).run
          { Retry.stage fun _ => .succeeded () with stopAt := some 250000 } =
        (.ok true, { Retry.stage fun _ => .succeeded () with
          stopAt := some 250000, clock := 300000 }) := by
  obtain ⟨-, hhost⟩ := Host.sleep_kept (.ofSeconds 1)
  obtain ⟨times, seen, last, hlooks, -, hlast, hrun⟩ :=
    hhost { Retry.stage fun _ => .succeeded () with stopAt := some 250000 } (by decide)
  refine ⟨by decide, ?_⟩
  have hfour : Looks Defaults.stopTick.micros (some 250000) 1000000 0
      [0, 100000, 200000, 300000] true :=
    .wait (by decide) (by decide) (.wait (by decide) (by decide)
      (.wait (by decide) (by decide) (.stopped (by decide))))
  obtain ⟨rfl, rfl⟩ := hlooks.unique hfour
  cases hlast
  exact hrun

end DataStaging
