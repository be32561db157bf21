import DataStaging.Defaults
import DataStaging.Process.Command
import DataStaging.Storage.Locator

/-!
# The mount client

How the program that mounts a bucket and the one that unmounts it are called.
-/

namespace DataStaging

/-- A folder that keeps what was read, and how much it may hold. -/
structure MountCache where
  folder : Option String
  mebibytes : Nat
deriving DecidableEq, Repr

namespace MountCache

def none : MountCache := ⟨Option.none, 0⟩

/-- The folder and the size, if there is a folder and the size is positive. -/
def enabled? (cache : MountCache) : Option (String × Nat) :=
  match cache.folder with
  | some folder => if 0 < cache.mebibytes then some (folder, cache.mebibytes) else Option.none
  | Option.none => Option.none

end MountCache

/-- The commands that mount and unmount, and how often a mount is tried. -/
structure MountClient where
  mountCommand : Command
  unmountCommand : Command
  attempts : Nat
deriving DecidableEq, Repr

namespace MountClient

def standard : MountClient :=
  ⟨.ofProgram Defaults.mountProgram, (Command.ofProgram Defaults.unmountProgram).withArg "-u",
    Defaults.mountAttempts⟩

def withAttempts (client : MountClient) (attempts : Nat) : MountClient :=
  { client with attempts := max attempts 1 }

/-- The arguments that mount the directory of a locator's key at a local path, read-only. -/
def arguments (locator : Locator) (localPath : String) (cache : MountCache) : List String :=
  [locator.bucket.name, localPath, "--read-only", "--auto-unmount", "--allow-other"] ++
  (if locator.bucket.allowsPathStyle then ["--force-path-style"] else []) ++
  (match cache.enabled? with
    | some (folder, size) =>
      ["--cache", folder, "--metadata-ttl", "indefinite", "--max-cache-size", toString size]
    | Option.none => []) ++
  (match locator.bucket.endpoint? with
    | some url => ["--endpoint-url", url]
    | Option.none => []) ++
  (if locator.directory.isEmpty then [] else ["--prefix=" ++ locator.directory])

/-- The command that mounts a locator. -/
def mountOf (client : MountClient) (locator : Locator) (localPath : String) (cache : MountCache) :
    Command :=
  client.mountCommand.withArgs (arguments locator localPath cache)

/-- The command that unmounts a local path. -/
def unmountOf (client : MountClient) (localPath : String) : Command :=
  client.unmountCommand.withArg localPath

end MountClient

end DataStaging
