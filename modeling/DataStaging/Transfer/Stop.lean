import DataStaging.Host.State

/-!
# Sleeping until a stop

A task that sleeps looks for a stop when it begins, at every tick, and when its time is over. A stop
that is seen ends the sleep; one that comes after the last look is not seen.

Times are microseconds.
-/

namespace DataStaging

/-- The looks of one sleep from `now` to `deadline`; `raised` is when the stop comes, if it does.
    Gives whether the stop was seen, and when the sleep ended. -/
def sleepUntil (raised : Option Nat) (deadline now : Nat) : Bool × Nat :=
  if raised.any (· ≤ now) then (true, now)
  else if deadline ≤ now then (false, now)
  else sleepUntil raised deadline (min deadline (now + Defaults.stopTick.micros))
termination_by deadline - now
decreasing_by
  have : Defaults.stopTick.micros = 100000 := by decide
  omega

/-- The seconds that the clock can count. -/
def clockLimit : Nat := 9223372036854775808

namespace Host

/-- Sleeps, looking for a stop. -/
def sleep (span : Duration) : Act Host Bool := do
  let h ← get
  let deadline := h.clock + span.micros
  if clockLimit ≤ deadline / 1000000 then throw (.crash "overflow when adding duration to instant")
  else
    let (seen, t) := sleepUntil h.stopAt deadline h.clock
    set { h with clock := t }
    return seen

end Host

end DataStaging
