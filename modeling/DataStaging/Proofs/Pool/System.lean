import DataStaging.Manifest.Survey
import Mathlib.Logic.Relation

/-!
# The pool of workers

Both passes over a manifest run in a pool. A reader decodes the entries in order and puts them into
a queue of limited depth; workers take entries from the queue, one worker at a time having it for
itself, and handle them next to each other on a state that they share. The first fault sets a mark
that makes every worker leave before its next entry. When all workers have left, the queue is
closed, which releases a reader that waits for room, and the pool has its result.

The pool is a transition system: a step of the reader, of one worker or of the pool itself, in any
order. The state carries two lists that no step looks at: the entries taken from the queue and the
entries whose handling has ended.
-/

namespace DataStaging

/-! ## What a worker does -/

/-- The handling of one entry: looks at the shared state and changes it, step after step. How it
    goes on depends on what it saw. -/
inductive Task (σ : Type) where
  | done (outcome : Except Fault Unit)
  | act (change : σ → σ) (next : σ → Task σ)

namespace Task

/-- What a task comes to when nothing else happens, and the state that it leaves. -/
def alone {σ : Type} : Task σ → σ → Except Fault Unit × σ
  | done outcome, s => (outcome, s)
  | act change next, s => (next s).alone (change s)

/-- Whatever a task sees, every change that it makes is one of `R`, and every outcome that it may
    come to is one of `Q`. -/
def Within {σ : Type} (R : σ → σ → Prop) (Q : Except Fault Unit → Prop) : Task σ → Prop
  | done outcome => Q outcome
  | act change next => ∀ s, R s (change s) ∧ (next s).Within R Q

end Task

/-- Where a worker stands. -/
inductive Worker (σ : Type) where
  /-- About to look at the mark. -/
  | idle
  /-- Waits until it has the queue for itself. -/
  | queueing
  /-- Has the queue for itself and waits for an entry. -/
  | receiving
  | handling (entry : ManifestEntry) (task : Task σ)
  | left (outcome : Except Fault Unit)

namespace Worker

variable {σ : Type}

def isReceiving : Worker σ → Bool
  | receiving => true
  | _ => false

def hasLeft : Worker σ → Bool
  | left _ => true
  | _ => false

/-- The fault that a worker left with. -/
def fault? : Worker σ → Option Fault
  | left (.error fault) => some fault
  | _ => none

/-- The entry that a worker handles. -/
def entry? : Worker σ → Option ManifestEntry
  | handling entry _ => some entry
  | _ => none

end Worker

/-- Where the reader stands. -/
inductive Reader where
  /-- These entries have still to be put into the queue. -/
  | reading (ahead : List ManifestEntry)
  | finished (outcome : Except Fault Nat)

/-! ## The system -/

/-- A pass over a manifest: the entries that the reader decodes, how its reading ends after them,
    the depth of the queue and what is done with an entry. -/
structure Job (σ : Type) where
  entries : List ManifestEntry
  ending : Except Fault Nat
  depth : Nat
  handle : ManifestEntry → Task σ

structure Pool (σ : Type) where
  reader : Reader
  /-- The entries put into the queue and not yet taken, the oldest first. -/
  queue : List ManifestEntry
  workers : List (Worker σ)
  /-- The mark that a fault sets. -/
  aborted : Bool
  /-- Whether the queue was closed. -/
  closed : Bool
  result : Option (Except Fault Unit)
  shared : σ
  /-- The entries taken so far, in order. -/
  taken : List ManifestEntry
  /-- The entries whose handling has ended, in order, and how. -/
  ended : List (ManifestEntry × Except Fault Unit)

namespace Pool

variable {σ : Type}

/-- A pool of `n` workers, or of one, before its first step. -/
def start (job : Job σ) (n : Nat) (shared : σ) : Pool σ where
  reader := .reading job.entries
  queue := []
  workers := List.replicate (Manifest.workers n) .idle
  aborted := false
  closed := false
  result := none
  shared := shared
  taken := []
  ended := []

/-- The entries that were ever put into the queue. -/
def forwarded (s : Pool σ) : Nat := s.taken.length + s.queue.length

/-- The first fault of a worker, or else what became of the reading. -/
def verdict (workers : List (Worker σ)) (reading : Except Fault Nat) : Except Fault Unit :=
  match workers.findSome? Worker.fault? with
  | some fault => .error fault
  | none => reading.map (fun _ => ())

/-- One step of the reader, of a worker or of the pool: `ManifestLinker::run_pool`
    (`manifest/linker`, lines 182–233), whose workers lock the receiver of the queue for one entry
    at a time, next to the task of `spawn_manifest_reader` (`manifest/reader`, lines 94–101). -/
inductive Step (job : Job σ) (s : Pool σ) : Pool σ → Prop where
  /-- The reader puts an entry into the queue, where there is room. -/
  | send {e : ManifestEntry} {ahead : List ManifestEntry} :
      s.reader = .reading (e :: ahead) → s.closed = false → s.queue.length < max job.depth 1 →
      Step job s { s with reader := .reading ahead, queue := s.queue ++ [e] }
  /-- The reader finds the queue closed; nothing is wrong with the manifest any more. -/
  | turnAway {e : ManifestEntry} {ahead : List ManifestEntry} :
      s.reader = .reading (e :: ahead) → s.closed = true →
      Step job s { s with reader := .finished (.ok s.forwarded) }
  /-- The reader comes to the end, or to what is wrong with the manifest. -/
  | finish : s.reader = .reading [] →
      Step job s { s with reader := .finished (if s.closed then .ok s.forwarded else job.ending) }
  /-- A worker leaves if the mark is set, and asks for the queue otherwise. -/
  | look {before after : List (Worker σ)} : s.workers = before ++ .idle :: after →
      Step job s { s with
        workers := before ++ (if s.aborted then .left (.ok ()) else .queueing) :: after }
  /-- A worker gets the queue for itself. -/
  | grasp {before after : List (Worker σ)} : s.workers = before ++ .queueing :: after →
      (∀ w ∈ s.workers, w.isReceiving = false) →
      Step job s { s with workers := before ++ .receiving :: after }
  /-- A worker takes the oldest entry and gives the queue back. -/
  | take {before after : List (Worker σ)} {e : ManifestEntry} {rest : List ManifestEntry} :
      s.workers = before ++ .receiving :: after → s.queue = e :: rest →
      Step job s { s with
        queue := rest
        workers := before ++ .handling e (job.handle e) :: after
        taken := s.taken ++ [e] }
  /-- A worker leaves because no entry will come any more. -/
  | starve {before after : List (Worker σ)} :
      s.workers = before ++ .receiving :: after → s.queue = [] →
      (s.closed = true ∨ ∃ outcome, s.reader = .finished outcome) →
      Step job s { s with workers := before ++ .left (.ok ()) :: after }
  /-- A worker goes on with its entry. -/
  | act {before after : List (Worker σ)} {e : ManifestEntry} {change : σ → σ}
      {next : σ → Task σ} : s.workers = before ++ .handling e (.act change next) :: after →
      Step job s { s with
        workers := before ++ .handling e (next s.shared) :: after
        shared := change s.shared }
  /-- A worker is done with its entry. -/
  | succeed {before after : List (Worker σ)} {e : ManifestEntry} :
      s.workers = before ++ .handling e (.done (.ok ())) :: after →
      Step job s { s with
        workers := before ++ .idle :: after
        ended := s.ended ++ [(e, .ok ())] }
  /-- A worker sets the mark and leaves with the fault of its entry. -/
  | fail {before after : List (Worker σ)} {e : ManifestEntry} {fault : Fault} :
      s.workers = before ++ .handling e (.done (.error fault)) :: after →
      Step job s { s with
        workers := before ++ .left (.error fault) :: after
        aborted := true
        ended := s.ended ++ [(e, .error fault)] }
  /-- All workers have left, and the queue is closed. -/
  | close : s.closed = false → (∀ w ∈ s.workers, w.hasLeft = true) →
      Step job s { s with closed := true }
  /-- The reader has finished too, and the pool has its result. -/
  | conclude {outcome : Except Fault Nat} : s.closed = true → s.result = none →
      s.reader = .finished outcome →
      Step job s { s with result := some (verdict s.workers outcome) }

/-- Any number of steps. -/
def Runs (job : Job σ) : Pool σ → Pool σ → Prop := Relation.ReflTransGen (Step job)

end Pool

end DataStaging
