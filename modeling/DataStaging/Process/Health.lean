import DataStaging.Defaults
import DataStaging.Process.Retry

/-!
# The connection to the service

A connection is a list of marks: at a time, the service was found reachable or not. While it is
broken, the first bad mark since it was last good tells how long it has been gone. Whoever needs the
service looks at regular times until the connection is good again or has been gone for too long.

Times are microseconds.
-/

namespace DataStaging

/-- The connection was found good or bad at a time. -/
structure Mark where
  time : Nat
  good : Bool
deriving DecidableEq, Repr

/-- Marks in the order of their times, and how the connection is watched. -/
structure Connection where
  marks : List Mark
  /-- How often a broken connection is looked at again. -/
  poll : Duration
  /-- How long the connection may be broken. -/
  limit : Option Duration
deriving DecidableEq, Repr

namespace Connection

/-- Since when the connection is broken after these marks, where it was broken since `since` before
    them. -/
def brokenAfter (since : Option Nat) (mark : Mark) : Option Nat :=
  if mark.good then none else some (since.getD mark.time)

def brokenBy (marks : List Mark) : Option Nat := marks.foldl brokenAfter none

/-- Since when the connection is broken at a time, if it is. -/
def brokenSince? (c : Connection) (now : Nat) : Option Nat :=
  brokenBy (c.marks.filter (fun m => m.time ≤ now))

def isGood (c : Connection) (now : Nat) : Bool := (c.brokenSince? now).isNone

/-- Puts a mark behind those of its time and before. -/
def mark (c : Connection) (m : Mark) : Connection :=
  { c with marks :=
      c.marks.filter (fun x => x.time ≤ m.time) ++ m :: c.marks.filter (fun x => m.time < x.time) }

/-- The next look at a broken connection is later, if only by a microsecond. -/
def step (c : Connection) : Nat := max c.poll.micros 1

/-- The time after which nothing about the wait changes any more. -/
def horizon (c : Connection) (since : Nat) : Nat :=
  (c.marks.map (·.time)).foldl max (match c.limit with
    | some limit => since + limit.micros + 1
    | none => 0)

/-- Looks at the connection until it is good; gives the time of the last look. -/
def await (c : Connection) : Nat → Nat → Except Halt Nat
  | 0, _ => .error .stuck
  | fuel + 1, now =>
    match c.brokenSince? now with
    | none => .ok now
    | some since =>
      match c.limit with
      | some limit =>
        if limit.nanos ≤ (now - since) * 1000 then
          .error (.fault (.serviceGone (.ofMicros (now - since)) limit))
        else c.await fuel (now + c.step)
      | none => c.await fuel (now + c.step)

/-- Waits until the connection is good, from `now` on; the looks are counted up to the time after
    which nothing changes. -/
def awaitGood (c : Connection) (now : Nat) : Except Halt Nat :=
  match c.brokenSince? now with
  | none => .ok now
  | some since => c.await ((c.horizon since - now) / c.step + 2) now

end Connection

end DataStaging
