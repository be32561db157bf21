import DataStaging.Benchmark.Folder
import DataStaging.CommandLine.Request
import DataStaging.Service.Address
import DataStaging.Service.Watch
import DataStaging.Staging
import DataStaging.Storage.KeyFile
import DataStaging.Sync.Session
import DataStaging.Transfer.Checkpoint

/-!
# The agent

What the agent does with a request, and how it exits. Staging and single transfers are dropped as
soon as a stop is seen; checkpoints and sync sessions end in their own way.
-/

namespace DataStaging

/-- What comes of a request: what was printed, the reports that went to the socket, and the fault if
    there was one. -/
structure Answer where
  printed : Bytes
  reports : List Bool
  outcome : Except Fault Unit

namespace Answer

/-- A request that ended well and has nothing to show. -/
def silent : Answer := ⟨[], [], .ok ()⟩

def exitStatus (a : Answer) : Int :=
  match a.outcome with
  | .ok () => 0
  | .error fault => fault.exitStatus

end Answer

namespace Agent

/-- Begins to watch a service, which is reachable where a connection to it opens in time. A host is
    taken to answer alike every time, so that the first answer settles what all others say. -/
def watchService (url : String) : Act Host Unit := do
  let address ← Host.orFail (Address.parse url)
  modify (fun h =>
    let wait := h.answerDelay.micros
    let limit := Defaults.probeTimeout.micros
    let probe := fun _ => wait ≤ limit && h.reaches address.text
    let first := h.clock + min wait limit
    let interval := Defaults.probeInterval.micros
    { h with connection := Watch.watch probe interval h.stopAt 1 first h.connection })

/-- Makes the courier of a request, and begins to watch the service if there is one to watch. -/
def courier (r : RunnerSettings) : Act Host Courier := do
  modify (fun h => { h with
    connection := ⟨[], Defaults.healthPoll, r.disconnectTimeout.map Duration.ofSeconds⟩ })
  match r.serviceUrl with
  | some url => watchService url
  | none => pure ()
  let mover := Mover.standard (← get).processors
  let mover := { mover with
    command := .ofProgram r.moverProgram
    benchmarkFolder := r.benchmarkFolder }
  let policy := { RetryPolicy.standard.withMaxRetries r.maxRetries with
    idleTimeout := .ofSeconds r.idleTimeout }
  return ⟨match r.processes with
    | some n => mover.withProcesses n
    | none => mover, policy⟩

/-- The key pairs of a request: those of a file, or the pair of the environment. -/
def credentials (path : Option String) : Act Host Credentials := do
  let h ← get
  match path with
  | none => return .environment h.env
  | some path => return .ring (← Host.orFail (KeyRing.load h.tree h.folder path))

/-- Stages a task. -/
def stage (r : StageRequest) : Act Host Unit := do
  let keys ← credentials r.credentials
  let client := { MountClient.standard with mountCommand := .ofProgram r.mountProgram }
  let cache := match r.cacheFolder with
    | some folder => ⟨some folder, r.cacheMebibytes⟩
    | none => MountCache.none
  let fallback ← if r.downloadFallback then some <$> courier r.runner else pure none
  let stager : Stager := ⟨client, cache, keys, fallback⟩
  let _ ← stager.stage r.manifest r.hashRoot r.destination r.mountRoot

/-- Makes checkpoints until a stop is seen. -/
def checkpoint (r : CheckpointRequest) : Act Host Unit := do
  let courier ← courier r.transfer.runner
  let upload := do
    let _ ← courier.upload r.transfer.path r.transfer.uri r.transfer.pattern
  let _ ← Checkpoint.run (Host.sleep (.ofSeconds r.frequency)) upload (← get).patience 0

/-- Runs a sync session whose reports are read at once. -/
def sync (r : SyncRequest) : Act Host Answer := do
  let command := (Command.ofProgram (r.command.headD "")).withArgs r.command.tail
  let report ← Session.run command (.ofSeconds r.interval) .prompt
  return ⟨report.written, report.heard, report.outcome⟩

/-- Prints the summary of a folder. -/
def summary (path : String) : Act Host Answer := do
  let h ← get
  let s ← Host.orFail ((BenchmarkSummary.ofFolder h.tree h.folder path).mapError Fault.io)
  return { Answer.silent with printed := Utf8.encode (s.toJson ++ "\n") }

/-- Drops what an action does as soon as a stop is seen. -/
def untilStopped (action : Act Host Unit) : Act Host Answer := do
  modify (fun h => { h with dropsOnStop := true })
  action
  return .silent

/-- Serves a request. -/
def serve : Request → Act Host Answer
  | .stage r => untilStopped (stage r)
  | .download r => untilStopped (do
      let courier ← courier r.runner
      let _ ← courier.download r.uri r.path r.pattern)
  | .upload r => untilStopped (do
      let courier ← courier r.runner
      let _ ← courier.upload r.path r.uri r.pattern)
  | .checkpoint r => do
    checkpoint r
    return .silent
  | .sync r => sync r
  | .summary path => summary path

/-! ## Exits -/

/-- The status of an agent that broke down. -/
def brokenStatus : Int := 101

/-- How the agent ended. -/
structure Exit where
  /-- The exit status, if it ended. -/
  status : Option Int
  printed : Bytes
  reports : List Bool

/-- The exit that a halt leads to. -/
def exitOfHalt : Halt → Exit
  | .fault fault => ⟨some fault.exitStatus, [], []⟩
  | .interrupted => ⟨some Fault.interrupted.exitStatus, [], []⟩
  | .stuck => ⟨none, [], []⟩
  | .crash _ => ⟨some brokenStatus, [], []⟩

/-- The line that tells the agent's version. -/
def versionLine : String := Defaults.agentName ++ " " ++ Defaults.agentVersion ++ "\n"

/-- The exit of a command line that gives no request. -/
def exitOfUsage (usage : CommandLine.Usage) : Exit :=
  ⟨some usage.exitStatus, if usage = .version then Utf8.encode versionLine else [], []⟩

/-- Runs the agent with the words of a command line. -/
def run (words : List String) (h : Host) : Exit × Host :=
  match CommandLine.read words with
  | .error usage => (exitOfUsage usage, h)
  | .ok request =>
    match (serve request).run h with
    | (.ok answer, h) => (⟨some answer.exitStatus, answer.printed, answer.reports⟩, h)
    | (.error halt, h) => (exitOfHalt halt, h)

/-- A report as it is sent to the socket. -/
def reportLine (alive : Bool) : String :=
  "\x7b\"sync_alive\":" ++ (if alive then "true" else "false") ++ "\x7d\n"

end Agent

end DataStaging
