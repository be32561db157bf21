/-!
# A queue of reports

Reports on a session wait for their listener in a queue of bounded length. The session never waits
for the listener while it lives: a report that finds the queue full, or nobody at its other end, is
dropped. Only the last report may wait for a while.
-/

namespace DataStaging

/-- Reports between a session and its listener. -/
structure ReportQueue where
  capacity : Nat
  /-- Reports not read yet, the oldest first. -/
  waiting : List Bool
  /-- Reports that the listener has read, the oldest first. -/
  received : List Bool
  /-- Whether the listener is still there. -/
  heard : Bool
deriving DecidableEq, Repr

/-- What happens at a queue while a session lives. -/
inductive QueueEvent
  /-- The session reports that it is alive. -/
  | alive
  /-- The listener reads a report, if there is one. -/
  | read
  /-- The listener leaves. -/
  | leave
deriving DecidableEq, Repr

namespace ReportQueue

def ofCapacity (capacity : Nat) : ReportQueue := ⟨capacity, [], [], true⟩

/-- Whether a report is taken up at once. -/
def hasRoom (q : ReportQueue) : Bool := q.heard && q.waiting.length < q.capacity

/-- Puts a report into the queue, if it is taken up. -/
def offer (q : ReportQueue) (report : Bool) : ReportQueue :=
  if q.hasRoom then { q with waiting := q.waiting ++ [report] } else q

/-- Hands the oldest report to the listener. -/
def read (q : ReportQueue) : ReportQueue :=
  match q.waiting with
  | [] => q
  | report :: rest => { q with waiting := rest, received := q.received ++ [report] }

/-- The listener leaves, and what was waiting for it is lost. -/
def leave (q : ReportQueue) : ReportQueue := { q with waiting := [], heard := false }

def step (q : ReportQueue) : QueueEvent → ReportQueue
  | .alive => q.offer true
  | .read => q.read
  | .leave => q.leave

/-- The queue after some events. -/
def after (q : ReportQueue) (events : List QueueEvent) : ReportQueue := events.foldl step q

/-- Offers the last report, which waits until there is room, the listener has left, or the events
    are over. -/
def offerLast (q : ReportQueue) (report : Bool) : List QueueEvent → ReportQueue
  | [] => q.offer report
  | event :: rest =>
    if q.hasRoom || !q.heard then (q.offer report).after (event :: rest)
    else (q.step event).offerLast report rest

/-- The listener reads everything that waits for it. -/
def drain (q : ReportQueue) : ReportQueue :=
  { q with waiting := [], received := q.received ++ q.waiting }

end ReportQueue

end DataStaging
