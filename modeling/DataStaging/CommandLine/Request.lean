import DataStaging.CommandLine.Usage

/-!
# Requests

What a command line asks the agent to do, with every setting that was not given at its default.
-/

namespace DataStaging

/-- How the data mover is run. -/
structure RunnerSettings where
  moverProgram : String
  processes : Option Nat
  benchmarkFolder : Option String
  maxRetries : Nat
  /-- Seconds. -/
  idleTimeout : Nat
  serviceUrl : Option String
  /-- Seconds. -/
  disconnectTimeout : Option Nat
deriving DecidableEq, Repr

structure StageRequest where
  manifest : String
  destination : String
  mountRoot : String
  hashRoot : Option String
  credentials : Option String
  cacheFolder : Option String
  cacheMebibytes : Nat
  mountProgram : String
  parallelism : Option Nat
  downloadFallback : Bool
  runner : RunnerSettings
deriving DecidableEq, Repr

structure TransferRequest where
  uri : String
  path : String
  pattern : Option String
  runner : RunnerSettings
deriving DecidableEq, Repr

structure CheckpointRequest where
  transfer : TransferRequest
  /-- Seconds between two uploads. -/
  frequency : Nat
deriving DecidableEq, Repr

structure SyncRequest where
  socket : String
  /-- Seconds between two reports. -/
  interval : Nat
  command : List String
deriving DecidableEq, Repr

/-- What the agent is asked to do. -/
inductive Request
  | stage (request : StageRequest)
  | download (request : TransferRequest)
  | upload (request : TransferRequest)
  | checkpoint (request : CheckpointRequest)
  | sync (request : SyncRequest)
  | summary (folder : String)
deriving DecidableEq, Repr

namespace CommandLine

/-- The value given for an argument. -/
def value? (given : Given) (name : String) : Option String :=
  (given.lookup name).bind List.head?

/-- The value of an argument that is required. -/
def value (given : Given) (name : String) : String := (value? given name).getD ""

def number? (given : Given) (name : String) : Option Nat := (value? given name).bind count?

def runnerSettings (given : Given) : RunnerSettings where
  moverProgram := (value? given "data-cli").getD Defaults.moverProgram
  processes := number? given "processes"
  benchmarkFolder := value? given "benchmark-dir"
  maxRetries := ((value? given "max-retries").bind shortCount?).getD Defaults.maxRetries
  idleTimeout := (number? given "idle-timeout").getD Defaults.idleTimeout.seconds
  serviceUrl := value? given "service-url"
  disconnectTimeout := number? given "disconnect-timeout"

def stageRequest (given : Given) : StageRequest where
  manifest := value given "manifest"
  destination := value given "destination"
  mountRoot := value given "mount-root"
  hashRoot := value? given "hash-root"
  credentials := value? given "credentials"
  cacheFolder := value? given "cache-dir"
  cacheMebibytes := (number? given "cache-size-mib").getD 0
  mountProgram := (value? given "mount-binary").getD Defaults.mountProgram
  parallelism := number? given "parallelism"
  downloadFallback := (given.lookup "download-fallback").isSome
  runner := runnerSettings given

def transferRequest (given : Given) : TransferRequest :=
  ⟨value given "uri", value given "path", value? given "regex", runnerSettings given⟩

def syncRequest (given : Given) : SyncRequest where
  socket := value given "socket"
  interval := (number? given "interval").getD Defaults.syncInterval.seconds
  command := (given.lookup "command").getD []

/-- The request of a verb. -/
def request (verb : Verb) (given : Given) : Request :=
  if verb = stageVerb then .stage (stageRequest given)
  else if verb = downloadVerb then .download (transferRequest given)
  else if verb = uploadVerb then .upload (transferRequest given)
  else if verb = checkpointVerb then
    .checkpoint ⟨transferRequest given, (number? given "frequency").getD Defaults.checkpointSeconds⟩
  else if verb = syncVerb then .sync (syncRequest given)
  else .summary (value given "dir")

/-- Reads the words of a command line. -/
def read (words : List String) : Except Usage Request :=
  (readLine words).map (fun found => request found.1 found.2)

end CommandLine

end DataStaging
