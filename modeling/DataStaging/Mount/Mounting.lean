import DataStaging.Mount.Client
import DataStaging.Process.Run
import DataStaging.Storage.Credential

/-!
# Mounting

A locator is mounted on a local folder by running the mount client until the folder holds something.
A folder that stays empty is unmounted again before the next attempt; an attempt that timed out is
repeated without that. A directory of the storage that is really empty looks like a failed mount.
-/

namespace DataStaging.Mounting

/-- Lower case of the ASCII letters. No other letter has one of `timeout` as its lower case. -/
def lower (s : String) : String := String.ofList (s.toList.map Char.toLower)

def attemptText (attempt attempts : Nat) : String :=
  "(attempt " ++ toString attempt ++ "/" ++ toString attempts ++ ")"

def missingCredentials (profile : String) (locator : Locator) : String :=
  "No credentials found for profile '" ++ profile ++ "', skipping mount of " ++ locator.text

def alreadyMounted (localPath : String) : String :=
  localPath ++ " is already mounted, checking contents"

def timedOut (locator : Locator) (attempt attempts : Nat) : String :=
  "Mounting " ++ locator.text ++ " timed out " ++ attemptText attempt attempts ++ ", retrying"

def failed (locator : Locator) (status : Int) (attempt attempts : Nat) (text : String) : String :=
  "Mounting " ++ locator.text ++ " failed with status " ++ toString status ++ " " ++
    attemptText attempt attempts ++ ": " ++ text

def notStarted (locator : Locator) (text : String) : String :=
  "Could not run mount client for " ++ locator.text ++ ": " ++ text

def mounted (locator : Locator) (localPath : String) : String :=
  "Mounted " ++ locator.text ++ " at " ++ localPath

def stillEmpty (locator : Locator) (attempt attempts : Nat) : String :=
  "Mount of " ++ locator.text ++ " is empty " ++ attemptText attempt attempts ++ ", unmounting"

/-- What one call of the mount client says. -/
inductive ClientVerdict
  | succeeded
  | alreadyMounted
  | timedOut
  | failed (status : Int) (text : String)
  | notStarted (text : String)
deriving DecidableEq, Repr

/-- The verdict on the output of a mount client. -/
def verdict (o : Output) : ClientVerdict :=
  let text := o.errors ++ o.out
  if o.succeeded then .succeeded
  else if Notices.contains text "already mounted" then .alreadyMounted
  else if Notices.contains (lower text) "timeout" then .timedOut
  else .failed o.status (Blank.trim text)

/-- The notice that a verdict causes. -/
def verdictNotice (locator : Locator) (localPath : String) (attempt attempts : Nat) :
    ClientVerdict → Notices
  | .succeeded => []
  | .alreadyMounted => [alreadyMounted localPath]
  | .timedOut => [timedOut locator attempt attempts]
  | .failed status text => [failed locator status attempt attempts text]
  | .notStarted text => [notStarted locator text]

/-- Runs a command once; a fault is an answer too. -/
def call (command : Command) : Act Host (Except Fault Output) :=
  tryCatch (do return .ok (← Run.once command)) (fun
    | .fault fault => return .error fault
    | halt => throw halt)

/-- Calls the mount client. -/
def callClient (command : Command) : Act Host ClientVerdict := do
  match ← call command with
  | .ok o => return verdict o
  | .error fault => return .notStarted fault.message

/-- Whether a folder has nothing in it; one that cannot be listed counts as empty. -/
def isEmpty (localPath : String) : Act Host Bool := do
  let h ← get
  match h.tree.list h.folder (Utf8.encode localPath) with
  | .ok names => return names.isEmpty
  | .error _ => return true

/-- Unmounts a folder, as far as that works. -/
def unmount (client : MountClient) (localPath : String) : Act Host Unit := do
  let _ ← call (client.unmountOf localPath)

/-- Makes the attempts that are left, `left` of `attempts`. Gives whether the folder is empty. -/
def attempts (client : MountClient) (locator : Locator) (localPath : String) (command : Command) :
    Nat → Act Host Bool
  | 0 => return true
  | left + 1 => do
    let attempt := client.attempts - left
    let v ← callClient command
    Host.notify (verdictNotice locator localPath attempt client.attempts v)
    if v = .timedOut then attempts client locator localPath command left
    else if ← isEmpty localPath then
      Host.notify [stillEmpty locator attempt client.attempts]
      unmount client localPath
      attempts client locator localPath command left
    else
      Host.notify [mounted locator localPath]
      return false

/-- Mounts a locator on a local folder. Gives whether the folder is empty afterwards. -/
def mount (client : MountClient) (credentials : Credentials) (locator : Locator)
    (localPath : String) (cache : MountCache) : Act Host Bool := do
  match credentials.lookup locator.bucket.profile with
  | none =>
    Host.notify [missingCredentials locator.bucket.profile locator]
    return true
  | some credential =>
    Host.ensureDirectory localPath
    match cache.enabled? with
    | some (folder, _) => Host.ensureDirectory folder
    | none => pure ()
    let command := credential.env.foldl (fun c v => c.withEnv v.1 v.2)
      (client.mountOf locator localPath cache)
    attempts client locator localPath command client.attempts

end DataStaging.Mounting
