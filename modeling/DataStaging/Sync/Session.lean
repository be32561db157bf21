import DataStaging.Host.State
import DataStaging.Sync.ReportQueue

/-!
# Sync sessions

A sync command runs until it ends by itself or a stop is seen. At its start and at regular times
after it, the session reports that it is alive; when it is over, it reports so once.

The session looks for a stop when it begins, after each report, and at every tick since the last of
these. Times are microseconds since its start.

Results:
* `le_stopLook`: a stop is not seen before it is asked for.
* `stopLook_le`: it is seen by the next report at the latest.
-/

namespace DataStaging

/-- How a session ended. -/
inductive SessionEnd
  /-- The command ended with a status, or by a signal. -/
  | exited (status : Option Int)
  | stopped
deriving DecidableEq, Repr

/-- Who listens to the reports of a session. -/
inductive Audience
  | nobody
  /-- Somebody who reads when the session is over; until then this many reports can wait. -/
  | later (capacity : Nat)
  /-- Somebody who reads each report at once. -/
  | prompt
deriving DecidableEq, Repr

/-- What is known of a session that is over. -/
structure SessionReport where
  /-- The reports that the audience heard. -/
  heard : List Bool
  /-- What the command wrote to its output, which is the agent's own. -/
  written : Bytes
  outcome : Except Fault Unit

namespace Session

/-- The first look at or after `raised`, for reports every `interval` and ticks of `tick`. -/
def stopLook (interval tick raised : Nat) : Nat :=
  let report := raised / interval * interval
  min (report + interval) (report + (raised - report + tick - 1) / tick * tick)

theorem le_stopLook {interval tick raised : Nat} (hi : 0 < interval) (ht : 0 < tick) :
    raised ≤ stopLook interval tick raised := by
  have h1 := Nat.div_add_mod raised interval
  have h2 := Nat.mod_lt raised hi
  have h3 := Nat.mul_comm interval (raised / interval)
  unfold stopLook
  have h4 := Nat.div_add_mod (raised - raised / interval * interval + tick - 1) tick
  have h5 := Nat.mod_lt (raised - raised / interval * interval + tick - 1) ht
  have h6 := Nat.mul_comm tick ((raised - raised / interval * interval + tick - 1) / tick)
  simp only [Nat.le_min]
  omega

theorem stopLook_le (interval tick raised : Nat) :
    stopLook interval tick raised ≤ raised / interval * interval + interval :=
  Nat.min_le_left _ _

/-- When a session ends, and how: by the end of its command after `lasting`, or by the look that
    sees a stop. -/
def ending (lasting : Option Nat) (status : Option Int) (look : Option Nat) :
    Option (Nat × SessionEnd) :=
  match lasting, look with
  | some last, some t => some (if last ≤ t then (last, .exited status) else (t, .stopped))
  | some last, none => some (last, .exited status)
  | none, some t => some (t, .stopped)
  | none, none => none

/-- How often a session that lasts so long reports that it is alive. -/
def reportCount (interval time : Nat) : Nat := max 1 ((time + interval - 1) / interval)

/-- What happens at the queue: reports, each read at once or not at all. -/
def events (audience : Audience) (count : Nat) : List QueueEvent :=
  match audience with
  | .nobody => .leave :: List.replicate count .alive
  | .later _ => List.replicate count .alive
  | .prompt => (List.replicate count [QueueEvent.alive, .read]).flatten

def queueFor : Audience → ReportQueue
  | .later capacity => .ofCapacity capacity
  | _ => .ofCapacity 1

/-- What an audience hears of a session that reports `count` times that it is alive. -/
def heard (audience : Audience) (count : Nat) : List Bool :=
  (((queueFor audience).after (events audience count)).offerLast false []).drain.received

/-- The fault of a session, if its end is one. -/
def outcome : SessionEnd → Except Fault Unit
  | .stopped => .ok ()
  | .exited status => if status = some 0 then .ok () else .error (.syncExited status)

/-- Runs a sync command. -/
def run (command : Command) (interval : Duration) (audience : Audience) :
    Act Host SessionReport := do
  let began := (← get).clock
  let b ← Host.begin command
  if interval.nanos = 0 then throw (.crash "`period` must be non-zero.")
  -- a report needs some time, however short the interval
  let micros := max interval.micros 1
  let raised := (← get).stopAt.map (· - began)
  match ending b.total? b.ending (raised.map (stopLook micros Defaults.stopTick.micros)) with
  | none => throw .stuck
  | some (time, finish) =>
    Host.elapse time
    return ⟨heard audience (reportCount micros time), b.writtenBy time false, outcome finish⟩

end Session

end DataStaging
