import DataStaging.Time.Duration

/-!
# Faults

Why an operation ended without its result, the text shown for it, and the exit status that the
agent leaves with. Waiting for a service or for a rate limit to pass is no fault.
-/

namespace DataStaging

/-! ## Exit statuses with a meaning of their own -/

namespace ExitStatus

/-- The data mover could not reach its service. -/
def serviceUnreachable : Int := 10

/-- The data mover was told to slow down. -/
def rateLimited : Int := 75

/-- The agent failed. -/
def failure : Int := 1

/-- The agent was given something it cannot read. -/
def invalidInput : Int := 2

/-- A download spent its retries. -/
def downloadFailed : Int := 3

/-- An upload spent its retries. -/
def uploadFailed : Int := 4

/-- The agent was asked to stop. -/
def interrupted : Int := 130

end ExitStatus

/-- What the operating system refused. -/
inductive IoFault
  | notFound
  | exists
  | notDirectory
  | isDirectory
  | notEmpty
  | nameTooLong
  | tooManyLinks
  | invalidArgument
  | noPermission
  /-- A path holds a NUL character. -/
  | nulInPath
  /-- An argument or a variable of a program holds a NUL character. -/
  | nulInArgument
  /-- A text file is not UTF-8. -/
  | notText
  | wholeTree
  | other (text : String)
deriving DecidableEq, Repr

namespace IoFault

/-- The text of a refusal, with the system's number where it has one. -/
def message : IoFault → String
  | notFound => "No such file or directory (os error 2)"
  | noPermission => "Permission denied (os error 13)"
  | .exists => "File exists (os error 17)"
  | notDirectory => "Not a directory (os error 20)"
  | isDirectory => "Is a directory (os error 21)"
  | invalidArgument => "Invalid argument (os error 22)"
  | nameTooLong => "File name too long (os error 36)"
  | notEmpty => "Directory not empty (os error 39)"
  | tooManyLinks => "Too many levels of symbolic links (os error 40)"
  | nulInPath => "file name contained an unexpected NUL byte"
  | nulInArgument => "nul byte found in provided data"
  | notText => "stream did not contain valid UTF-8"
  | wholeTree => "failed to create whole tree"
  | other text => text

end IoFault

/-- What kind of fault a JSON text has. -/
inductive JsonCategory
  /-- The text is not JSON. -/
  | malformed
  /-- The text is JSON of another shape than was asked for. -/
  | mismatched
  /-- The text ends too early. -/
  | truncated
deriving DecidableEq, Repr

/-- Why an operation ended without its result. -/
inductive Fault
  /-- A storage locator or a service address cannot be read. -/
  | invalidLocator (text reason : String)
  /-- A command kept failing until its retries were spent. -/
  | retriesExhausted (command : String) (attempts : Nat) (status : Int)
  /-- The service stayed unreachable for longer than allowed. -/
  | serviceGone (elapsed limit : Duration)
  /-- A manifest cannot be read. -/
  | manifest (path message : String)
  /-- A manifest entry lies in a bucket that was never recorded. -/
  | unresolvedMount (base storagePath : String)
  /-- The sync command ended with a status other than zero, or by a signal. -/
  | syncExited (status : Option Int)
  | interrupted
  /-- A stream of a program cannot be read. -/
  | missingStream (name : String)
  | io (fault : IoFault)
  | json (category : JsonCategory) (message : String)
deriving DecidableEq, Repr

namespace Fault

/-- The text shown for a fault. -/
def message : Fault → String
  | invalidLocator text reason => "Invalid storage URI '" ++ text ++ "': " ++ reason
  | retriesExhausted command attempts _ =>
    "'" ++ command ++ "' failed after " ++ toString attempts ++ " retries"
  | serviceGone elapsed limit =>
    "Service unreachable for " ++ elapsed.text ++ " (limit " ++ limit.text ++ ")"
  | manifest path text => "Manifest error in " ++ path ++ ": " ++ text
  | unresolvedMount base storagePath =>
    "No mount recorded for '" ++ base ++ "' (storage path '" ++ storagePath ++ "')"
  | syncExited (some status) => "Sync session exited with status Some(" ++ toString status ++ ")"
  | syncExited none => "Sync session exited with status None"
  | interrupted => "Interrupted before completion"
  | missingStream name => "Failed to capture " ++ name ++ " of child process"
  | io fault => fault.message
  | json _ text => text

/-- The status that the agent exits with. -/
def exitStatus : Fault → Int
  | invalidLocator _ _ => ExitStatus.invalidInput
  | retriesExhausted _ _ status => status
  | interrupted => ExitStatus.interrupted
  | _ => ExitStatus.failure

end Fault

end DataStaging
