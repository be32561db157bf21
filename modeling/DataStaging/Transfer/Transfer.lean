import DataStaging.Process.Run
import DataStaging.Storage.Locator
import DataStaging.Transfer.Mover

/-!
# Transfers

A transfer runs the data mover under the retry policy. After a silence it goes on with `--resume`.
-/

namespace DataStaging

/-- The data mover and how patiently it is run. -/
structure Courier where
  mover : Mover
  policy : RetryPolicy
deriving DecidableEq, Repr

namespace Courier

/-- The command of a transfer. -/
def command (courier : Courier) (direction : Direction) (uri path : String)
    (artifact pattern : Option String) : Command :=
  courier.mover.command.withArgs (courier.mover.arguments direction uri path artifact pattern)

/-- Moves a directory in either direction. -/
def move (courier : Courier) (direction : Direction) (uri path : String) (pattern : Option String) :
    Act Host RunReport := do
  let _ ← Host.orFail (Locator.parse uri)
  let artifact := courier.mover.artifactPath? direction (← get).now
  match courier.mover.benchmarkFolder with
  | some folder => Host.ensureDirectory folder
  | none => pure ()
  let command := courier.command direction uri path artifact pattern
  Run.streaming courier.policy command (some (command.withArg "--resume")) direction.failureStatus

/-- Moves a directory of the storage into a local one, which is made before anything else. -/
def download (courier : Courier) (uri path : String) (pattern : Option String) :
    Act Host RunReport := do
  Host.ensureDirectory path
  courier.move .download uri path pattern

/-- Moves a local directory to the storage. -/
def upload (courier : Courier) (path uri : String) (pattern : Option String) :
    Act Host RunReport :=
  courier.move .upload uri path pattern

end Courier

end DataStaging
