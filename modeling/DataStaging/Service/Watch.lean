import DataStaging.Process.Health
import DataStaging.Transfer.Stop

/-!
# The watch on the service

The service is probed again and again, and each answer is marked on the connection. The watch ends
when it sees a stop.

Times are microseconds.
-/

namespace DataStaging.Watch

/-- Marks the answers of probes in turn. Also gives, for each probe, whether the connection was good
    before it. -/
def observe (c : Connection) : List Mark → List Bool × Connection
  | [] => ([], c)
  | answer :: rest =>
    let (seen, after) := observe (c.mark answer) rest
    (c.isGood answer.time :: seen, after)

/-- Answers at regular times from `start` on. -/
def answersFrom (start interval : Nat) : List Bool → List Mark
  | [] => []
  | good :: rest => ⟨start, good⟩ :: answersFrom (start + interval) interval rest

/-- Probes at most `rounds` times from `now` on, `interval` apart, until a stop is seen; `raised` is
    when it comes, if it does. -/
def watch (probe : Nat → Bool) (interval : Nat) (raised : Option Nat) :
    Nat → Nat → Connection → Connection
  | 0, _, c => c
  | rounds + 1, now, c =>
    if raised.any (· ≤ now) then c
    else
      let c := c.mark ⟨now, probe now⟩
      match sleepUntil raised (now + interval) now with
      | (true, _) => c
      | (false, t) => watch probe interval raised rounds t c

end DataStaging.Watch
