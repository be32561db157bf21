import DataStaging.Process.Health
import DataStaging.Service.Watch
import DataStaging.Transfer.Checkpoint
import Mathlib.Logic.Relation

/-!
# Checkpoints under a watch

While checkpoints are made, a watch probes the service. The two run next to each other and share the
request to stop and the connection: the watch marks the answers of its probes on the connection, and
every attempt to upload waits until the connection is good. A stop ends the watch, and makes the
uploader upload once more.

The system is a transition system: a step of the clock, of the watch or of the uploader, or a
request to stop, in any order. What the uploader does never changes the scene that it finds. A look
that finds nothing to do is no step.

Times are microseconds.
-/

namespace DataStaging.Checkpoint

/-- What a request for checkpoints sets. -/
structure Setting where
  policy : RetryPolicy
  /-- The upload's command as notices name it. -/
  label : String
  hasVariant : Bool
  /-- The exit status of an upload that was given up. -/
  status : Int
  /-- How long the uploader sleeps between two uploads. -/
  frequency : Duration
  /-- How long the watch sleeps between two probes. -/
  interval : Duration
  /-- How often a broken connection is looked at again. -/
  poll : Duration
  /-- How long the connection may be broken. -/
  limit : Option Duration
deriving DecidableEq, Repr

/-! ## The scene -/

/-- Where the watch stands. -/
inductive Watcher
  /-- About to look for a stop. -/
  | looking
  | probing
  /-- Has an answer and is about to mark it. -/
  | marking (good : Bool)
  | sleeping (deadline : Nat)
  | ended
deriving DecidableEq, Repr

/-- The watch has a probe under way that may be answered well, or was. -/
def Watcher.mayFindGood : Watcher → Bool
  | probing => true
  | marking good => good
  | looking | sleeping _ | ended => false

/-- What the watch and the uploader share, and the watch. -/
structure Scene where
  clock : Nat
  stopped : Bool
  connection : Connection
  watcher : Watcher
deriving DecidableEq, Repr

/-- Since when the connection is broken, if it is. -/
def Scene.broken? (t : Scene) : Option Nat := t.connection.brokenSince? t.clock

/-- One step of the clock or of the watch, or a request to stop. The watch is the task of
    `spawn_watchdog` (`process/health`, lines 174–200). -/
inductive SceneStep (interval : Duration) (t : Scene) : Scene → Prop where
  | pass (span : Nat) : SceneStep interval t { t with clock := t.clock + span }
  | stop : SceneStep interval t { t with stopped := true }
  /-- The watch ends if there is a stop, and makes a probe otherwise. -/
  | look : t.watcher = .looking →
      SceneStep interval t { t with watcher := if t.stopped then .ended else .probing }
  | probe (good : Bool) : t.watcher = .probing →
      SceneStep interval t { t with watcher := .marking good }
  | mark {good : Bool} : t.watcher = .marking good →
      SceneStep interval t { t with
        connection := t.connection.mark ⟨t.clock, good⟩
        watcher := .sleeping (t.clock + interval.micros) }
  | wake {deadline : Nat} : t.watcher = .sleeping deadline → t.stopped = false →
      deadline ≤ t.clock → SceneStep interval t { t with watcher := .looking }
  /-- The watch sees the stop in its sleep. -/
  | leave {deadline : Nat} : t.watcher = .sleeping deadline → t.stopped = true →
      SceneStep interval t { t with watcher := .ended }

/-! ## The uploader -/

/-- Where the uploader stands; `last` says that a stop was seen. -/
inductive Stage
  | sleeping (deadline : Nat)
  /-- Puts an upload's command together and makes its folder. -/
  | preparing (last : Bool)
  /-- Waits until the connection is good. -/
  | gated (last : Bool) (report : RunReport)
  | attempting (last : Bool) (report : RunReport)
  /-- Waits before it tries again. -/
  | pausing (last : Bool) (report : RunReport) (deadline : Nat)
  | finished (outcome : Except Fault Nat)

structure Uploader where
  stage : Stage
  /-- The uploads that succeeded so far. -/
  completed : Nat

namespace Uploader

/-- The uploader after an upload. The last one decides; the fault of another is forgotten. -/
def afterUpload (g : Setting) (clock : Nat) (last : Bool) (outcome : Except Fault Unit)
    (u : Uploader) : Uploader :=
  match last, outcome with
  | true, outcome => { u with stage := .finished (outcome.map (fun _ => u.completed + 1)) }
  | false, .ok () => ⟨.sleeping (clock + g.frequency.micros), u.completed + 1⟩
  | false, .error _ => { u with stage := .sleeping (clock + g.frequency.micros) }

/-- The uploader after an attempt. -/
def afterAttempt (g : Setting) (clock : Nat) (jitter : Float) (last : Bool) (report : RunReport)
    (outcome : Attempt Unit) (u : Uploader) : Uploader :=
  match Retry.advance g.policy g.label g.hasVariant jitter report outcome with
  | (_, _, .done value) => u.afterUpload g clock last (.ok value)
  | (report, _, .awaitService) =>
    { u with stage := .pausing last report (clock + g.poll.micros) }
  | (report, _, .awaitQuota delay) =>
    { u with stage := .pausing last report (clock + delay.micros) }
  | (report, _, .again) => { u with stage := .gated last report }
  | (_, _, .spent) =>
    u.afterUpload g clock last (.error (.retriesExhausted g.label g.policy.maxRetries g.status))

end Uploader

/-- One step of the uploader in a scene: `CheckpointUploader::run` (`transfer/checkpoint`,
    lines 62–78), with each upload taken through `ProcessRunner::retry_loop` (`process/runner`,
    lines 191–276). -/
inductive UploaderStep (g : Setting) (t : Scene) (u : Uploader) : Uploader → Prop where
  | wake {deadline : Nat} : u.stage = .sleeping deadline → t.stopped = false →
      deadline ≤ t.clock → UploaderStep g t u { u with stage := .preparing false }
  /-- The uploader sees the stop and goes about its last upload. -/
  | flush {deadline : Nat} : u.stage = .sleeping deadline → t.stopped = true →
      UploaderStep g t u { u with stage := .preparing true }
  | ready {last : Bool} : u.stage = .preparing last →
      UploaderStep g t u { u with stage := .gated last .start }
  /-- The place is not one of the storage, or the folder cannot be made. -/
  | falter {last : Bool} (fault : Fault) : u.stage = .preparing last →
      UploaderStep g t u (u.afterUpload g t.clock last (.error fault))
  | enter {last : Bool} {report : RunReport} : u.stage = .gated last report → t.broken? = none →
      UploaderStep g t u { u with stage := .attempting last report }
  /-- The connection has been broken for too long. -/
  | giveUp {last : Bool} {report : RunReport} {since : Nat} {limit : Duration} :
      u.stage = .gated last report → t.broken? = some since → g.limit = some limit →
      limit.nanos ≤ (t.clock - since) * 1000 →
      UploaderStep g t u (u.afterUpload g t.clock last
        (.error (.serviceGone (.ofMicros (t.clock - since)) limit)))
  | attempt {last : Bool} {report : RunReport} (outcome : Attempt Unit) (jitter : Float) :
      u.stage = .attempting last report →
      UploaderStep g t u (u.afterAttempt g t.clock jitter last report outcome)
  /-- The command cannot be started. -/
  | refuse {last : Bool} {report : RunReport} (fault : Fault) : u.stage = .attempting last report →
      UploaderStep g t u (u.afterUpload g t.clock last (.error fault))
  | resume {last : Bool} {report : RunReport} {deadline : Nat} :
      u.stage = .pausing last report deadline → deadline ≤ t.clock →
      UploaderStep g t u { u with stage := .gated last report }

/-! ## The system -/

structure System where
  scene : Scene
  uploader : Uploader

namespace System

/-- Before the first step the connection is good. -/
def start (g : Setting) : System where
  scene := ⟨0, false, ⟨[], g.poll, g.limit⟩, .looking⟩
  uploader := ⟨.sleeping g.frequency.micros, 0⟩

/-- One step of the scene or of the uploader: the two tasks that `checkpoint` and `build_runner`
    start (`main`, lines 113–131 and 205–220), which share the signal to stop and the connection. -/
inductive Step (g : Setting) (s : System) : System → Prop where
  | scene {t : Scene} : SceneStep g.interval s.scene t → Step g s { s with scene := t }
  | uploader {u : Uploader} : UploaderStep g s.scene s.uploader u →
      Step g s { s with uploader := u }

/-- Any number of steps. -/
def Runs (g : Setting) : System → System → Prop := Relation.ReflTransGen (Step g)

end System

end DataStaging.Checkpoint
