import DataStaging.Agent

/-!
# The command line

The program reads its words, the variables that hold a key pair and the files that the request
names, and serves the request on a host that has these and no programs.
-/

namespace DataStaging.CommandLine

/-- The files that a request reads. -/
def filesRead : Request → List String
  | .stage r => r.manifest :: r.credentials.toList
  | _ => []

/-- The folders whose files a request reads. -/
def foldersRead : Request → List String
  | .summary path => [path]
  | _ => []

/-- The words that are shown to whoever asks for help. -/
def helpText : String :=
  "Usage: " ++ Defaults.agentName ++ " <COMMAND>\n\nCommands:\n" ++
    String.join (verbs.map (fun v => "  " ++ v.name ++ "\n"))

/-- The location that a path names, links aside. -/
def placeOf (folder : String) (path : String) : Location :=
  (FileTree.steps (Utf8.encode (Path.join folder path))).foldl (fun l step =>
    if step = FileTree.here then l
    else if step = FileTree.up then l.dropLast
    else l ++ [step]) []

/-- A tree with a node in it, and the directories above. -/
def withNode (t : FileTree) (l : Location) (node : Node) : FileTree :=
  ((List.range (l.length - 1)).foldl (fun t n => t.put (l.take (n + 1)) .directory) t).put l node

/-- The host that the program serves a request on. -/
def host (folder : String) (tree : FileTree) (env : List (String × String)) : Host where
  tree := tree
  folder := FileTree.steps (Utf8.encode folder)
  env := env
  programs := fun _ => none
  clock := 0
  epoch := 0
  connection := ⟨[], Defaults.healthPoll, none⟩
  reaches := fun _ => false
  processors := 1
  jitter := 0.0
  stopAt := none
  dropsOnStop := false
  patience := Defaults.maxRetries
  starts := []
  notices := []

end DataStaging.CommandLine

open DataStaging

/-- Adds a file to a tree, if it can be read. -/
def addFile (folder : String) (t : FileTree) (path : String) : IO FileTree := do
  try
    let contents ← IO.FS.readBinFile path
    return CommandLine.withNode t (CommandLine.placeOf folder path) (.file contents.toList)
  catch _ => return t

/-- Adds a folder and its files to a tree, as far as they can be read. -/
def addFolder (folder : String) (t : FileTree) (path : String) : IO FileTree := do
  try
    let entries ← ((← IO.currentDir) / path).readDir
    let t := CommandLine.withNode t (CommandLine.placeOf folder path) .directory
    entries.toList.foldlM (fun t entry => addFile folder t (Path.join path entry.fileName)) t
  catch _ => return t

/-- The files that a request reads, with their contents. -/
def gather (folder : String) (request : Request) : IO FileTree := do
  let t ← (CommandLine.filesRead request).foldlM (addFile folder) FileTree.empty
  (CommandLine.foldersRead request).foldlM (addFolder folder) t

def main (words : List String) : IO UInt32 := do
  let folder := (← IO.currentDir).toString
  let tree ← match CommandLine.read words with
    | .ok request => gather folder request
    | .error usage => do
      if usage = .help then IO.print CommandLine.helpText
      else if usage = .nothingGiven then IO.eprint CommandLine.helpText
      pure FileTree.empty
  let env ← [Credential.keyVariable, Credential.secretVariable].filterMapM (fun name => do
    return (← IO.getEnv name).map (fun value => (name, value)))
  let (exit, after) := Agent.run words (CommandLine.host folder tree env)
  IO.print (Utf8.decodeLossy exit.printed)
  IO.eprint (Notices.printed after.notices)
  return UInt32.ofNat (exit.status.getD Agent.brokenStatus).toNat
