import DataStaging.Defaults

/-!
# The grammar of the command line

A command line is a verb and its arguments. An argument stands in a place, has a name of its own, or
collects everything behind `--`.

Results:
* `verbs_names_nodup`: no two verbs have the same name.
-/

namespace DataStaging.CommandLine

/-- What a value must look like. -/
inductive Kind
  /-- No value: the argument is given or not. -/
  | switch
  | text
  /-- A path, which is not empty. -/
  | path
  /-- A whole number of 64 bits. -/
  | count
  /-- A whole number of 32 bits; zero may have a sign. -/
  | shortCount
deriving DecidableEq, Repr

/-- How an argument is given. -/
inductive Form
  /-- By its place among the words. -/
  | placed
  /-- As everything behind `--`. -/
  | rest
  /-- By `--` and its name, or by `-` and a letter. -/
  | named (letter : Option Char)
deriving DecidableEq, Repr

structure Argument where
  name : String
  form : Form
  kind : Kind
  required : Bool
deriving DecidableEq, Repr

namespace Argument

def isPlaced (a : Argument) : Bool := a.form = .placed

def isRest (a : Argument) : Bool := a.form = .rest

def hasLetter (a : Argument) (c : Char) : Bool := a.form = .named (some c)

def isNamed (a : Argument) (name : String) : Bool :=
  match a.form with
  | .named _ => a.name = name
  | _ => false

end Argument

/-- A verb and its arguments; those with a place come in the order of their places. -/
structure Verb where
  name : String
  arguments : List Argument
deriving DecidableEq, Repr

/-- An argument that need not be given. -/
def optional (name : String) (kind : Kind) : Argument := ⟨name, .named none, kind, false⟩

/-- The arguments of every verb that runs the data mover. -/
def runnerArguments : List Argument := [
  optional "data-cli" .text,
  optional "processes" .count,
  optional "benchmark-dir" .path,
  optional "max-retries" .shortCount,
  optional "idle-timeout" .count,
  optional "service-url" .text,
  optional "disconnect-timeout" .count]

def stageVerb : Verb := ⟨"stage", [
  ⟨"manifest", .named none, .path, true⟩,
  ⟨"destination", .named none, .path, true⟩,
  ⟨"mount-root", .named none, .path, true⟩,
  optional "hash-root" .text,
  optional "credentials" .path,
  optional "cache-dir" .path,
  optional "cache-size-mib" .count,
  optional "mount-binary" .text,
  optional "parallelism" .count,
  optional "download-fallback" .switch] ++ runnerArguments⟩

def downloadVerb : Verb := ⟨"download", [
  ⟨"uri", .placed, .text, true⟩,
  ⟨"path", .placed, .path, true⟩,
  optional "regex" .text] ++ runnerArguments⟩

def uploadVerb : Verb := ⟨"upload", [
  ⟨"path", .placed, .path, true⟩,
  ⟨"uri", .placed, .text, true⟩,
  optional "regex" .text] ++ runnerArguments⟩

def checkpointVerb : Verb := ⟨"checkpoint", [
  ⟨"path", .placed, .path, true⟩,
  ⟨"uri", .placed, .text, true⟩,
  ⟨"frequency", .named (some 'f'), .count, false⟩,
  optional "regex" .text] ++ runnerArguments⟩

def syncVerb : Verb := ⟨"sync", [
  ⟨"socket", .named (some 's'), .path, true⟩,
  ⟨"interval", .named (some 'i'), .count, false⟩,
  ⟨"command", .rest, .text, true⟩]⟩

def summaryVerb : Verb := ⟨"benchmark-summary", [⟨"dir", .placed, .path, true⟩]⟩

def verbs : List Verb :=
  [stageVerb, downloadVerb, uploadVerb, checkpointVerb, syncVerb, summaryVerb]

theorem verbs_names_nodup : (verbs.map (·.name)).Nodup := by decide

end DataStaging.CommandLine
