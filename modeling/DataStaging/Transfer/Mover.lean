import DataStaging.Benchmark.Artifact
import DataStaging.Fault
import DataStaging.Path
import DataStaging.Process.Command
import DataStaging.Defaults

/-!
# The data mover

How the program that moves directories to and from object storage is called.
-/

namespace DataStaging

/-- The direction of a transfer. -/
inductive Direction
  | download
  | upload
deriving DecidableEq, Repr

namespace Direction

def name : Direction → String
  | download => "download"
  | upload => "upload"

/-- The exit status once the retries are spent. -/
def failureStatus : Direction → Int
  | download => ExitStatus.downloadFailed
  | upload => ExitStatus.uploadFailed

end Direction

/-- The program, the processes it may use, and where it leaves benchmark artifacts. -/
structure Mover where
  command : Command
  processes : Nat
  benchmarkFolder : Option String
deriving DecidableEq, Repr

namespace Mover

/-- The usual program, with as many processes as there are processors. -/
def standard (processors : Nat) : Mover :=
  ⟨.ofProgram Defaults.moverProgram, max processors 1, none⟩

def withProcesses (mover : Mover) (n : Nat) : Mover := { mover with processes := max n 1 }

/-- Where the artifact of a transfer that starts at `millis` goes. -/
def artifactPath? (mover : Mover) (direction : Direction) (millis : Int) : Option String :=
  mover.benchmarkFolder.map (fun folder => Path.join folder (Artifact.name direction.name millis))

/-- The arguments of a transfer. An empty pattern is no pattern. -/
def arguments (mover : Mover) (direction : Direction) (uri path : String)
    (artifact pattern : Option String) : List String :=
  ["data", direction.name, uri, path, "--processes", toString mover.processes] ++
  (match artifact with
    | some out => ["--benchmark-out", out]
    | none => []) ++
  (match pattern with
    | some p => if p.isEmpty then [] else ["--regex", p]
    | none => [])

end Mover

end DataStaging
