import DataStaging.Host.FileTree
import DataStaging.Text.Lines

/-!
# Programs

A program answers each of its starts with a behaviour: what it does to the files, what it writes and
when, and how it ends. A script is a program that goes through a list of steps.

Times are microseconds.
-/

namespace DataStaging

/-- A start of a program, with the variables it sees. -/
structure Start where
  program : String
  args : List String
  env : List (String × String)
deriving DecidableEq, Repr

/-- Bytes that a program writes, some time after those before. -/
structure Emission where
  after : Nat
  toErrors : Bool
  bytes : Bytes
deriving DecidableEq, Repr

/-- What a program does once it is started. -/
structure Behaviour where
  /-- The files as it leaves them. -/
  tree : FileTree
  emissions : List Emission
  /-- Closes its output this long after the last emission, though it runs on. -/
  closing : Option Nat
  /-- Ends this long after that; `none` if it never ends. -/
  lasting : Option Nat
  /-- The exit status; `none` if it dies of a signal. -/
  ending : Option Int
  /-- Asks the agent to stop this long after its start. -/
  stopRequest : Option Nat
deriving DecidableEq, Repr

namespace Behaviour

/-- What is written to one of the two streams. -/
def stream (b : Behaviour) (toErrors : Bool) : Bytes :=
  (b.emissions.filter (fun e => e.toErrors == toErrors)).flatMap (·.bytes)

/-- The bytes of one stream among emissions that come in time. -/
def writtenAmong (toErrors : Bool) : Nat → List Emission → Bytes
  | _, [] => []
  | time, e :: rest =>
    if time < e.after then []
    else
      let more := writtenAmong toErrors (time - e.after) rest
      if e.toErrors == toErrors then e.bytes ++ more else more

/-- What is written to one of the two streams within a time. -/
def writtenBy (b : Behaviour) (time : Nat) (toErrors : Bool) : Bytes :=
  writtenAmong toErrors time b.emissions

/-- How long the emissions take. -/
def emitting (b : Behaviour) : Nat := b.emissions.foldl (fun time e => time + e.after) 0

/-- How long the program runs, if it ends. -/
def total? (b : Behaviour) : Option Nat :=
  b.lasting.map (fun last => b.emitting + b.closing.getD 0 + last)

end Behaviour

/-- What a program can see at a start. -/
structure Occasion where
  /-- The starts before this one, the oldest first. -/
  earlier : List Start
  start : Start
  tree : FileTree
  folder : Location

/-- A program. -/
abbrev Program := Occasion → Behaviour

/-! ## Scripts -/

/-- One step of a script. Its parts happen in the order of the fields; changes of files that fail
    are passed over. In paths, `@1` to `@9` stand for arguments and `@B` for the argument that
    follows `--benchmark-out`. -/
structure ScriptStep where
  directories : List String
  files : List (String × Bytes)
  removals : List String
  emptied : List String
  output : Bytes
  errors : Bytes
  closes : Bool
  stopsAgent : Bool
  sleep : Nat
  hangs : Bool
  signal : Option Nat
  status : Int
deriving DecidableEq, Repr

namespace ScriptStep

def idle : ScriptStep := ⟨[], [], [], [], [], [], false, false, 0, false, none, 0⟩

/-- How long a step that hangs runs. -/
def hangTime : Nat := 20000000

/-- How long a step waits before it asks the agent to stop. -/
def stopDelay : Nat := 200000

/-- An exit status is a byte; of a larger number the rest is lost. -/
def statusCount : Int := 256

end ScriptStep

/-- A list of steps, or one list for each value of an argument. -/
inductive Script
  | steps (steps : List ScriptStep)
  /-- The argument's place, from one, and the lists by its value; `*` is any other value. -/
  | byArgument (place : Nat) (cases : List (String × List ScriptStep))
deriving DecidableEq, Repr

namespace Script

/-- The step of the `n`-th start: past the end the last one is repeated. -/
def stepAt (steps : List ScriptStep) (n : Nat) : ScriptStep :=
  (steps[n]?.or steps.getLast?).getD ScriptStep.idle

/-- The argument at a place, from one. -/
def argument (args : List String) (place : Nat) : String :=
  if place = 0 then "" else args[place - 1]?.getD ""

/-- The number of starts before this one that the script counts together with it. -/
def countEarlier (same : Start → Bool) (o : Occasion) : Nat :=
  o.earlier.countP (fun s => s.program == o.start.program && same s)

/-- The step that a script performs at a start. -/
def stepFor (script : Script) (o : Occasion) : ScriptStep :=
  match script with
  | steps list => stepAt list (countEarlier (fun _ => true) o)
  | byArgument place cases =>
    let value := argument o.start.args place
    let list := ((cases.lookup value).or (cases.lookup "*")).getD []
    stepAt list (countEarlier (fun s => argument s.args place == value) o)

/-- The argument that follows `flag`. -/
def following (flag : String) : List String → Option String
  | [] => none
  | [_] => none
  | a :: b :: rest => if a = flag then some b else following flag (b :: rest)

/-- A path with its arguments filled in. -/
def fill (args : List String) : List Char → List Char
  | [] => []
  | '@' :: c :: rest =>
    if '1' ≤ c && c ≤ '9' then (argument args (c.toNat - 48)).toList ++ fill args rest
    else if c = 'B' then ((following "--benchmark-out" args).getD "").toList ++ fill args rest
    else '@' :: c :: fill args rest
  | c :: rest => c :: fill args rest

/-- Changes a tree, or leaves it as it is where that fails. -/
def orKeep (t : FileTree) (change : Except IoFault FileTree) : FileTree := change.toOption.getD t

/-- The files after a step. -/
def change (step : ScriptStep) (o : Occasion) : FileTree :=
  let path := fun (p : String) => fill o.start.args p.toList
  let bytes := fun (p : String) => Utf8.encodeChars (path p)
  let t := step.directories.foldl
    (fun t p => (t.ensureDirectory o.folder (String.ofList (path p))).2) o.tree
  let t := step.files.foldl (fun t f => orKeep t (t.writeFile o.folder (bytes f.1) f.2)) t
  let t := step.removals.foldl (fun t p => orKeep t (t.removeFile o.folder (bytes p))) t
  step.emptied.foldl (fun t p => orKeep t (t.removeDirectory o.folder (bytes p))) t

/-- Bytes as an emission, if there are any. -/
def emission (toErrors : Bool) (bytes : Bytes) : List Emission :=
  if bytes.isEmpty then [] else [⟨0, toErrors, bytes⟩]

/-- The program that goes through a script. -/
def program (script : Script) : Program := fun o =>
  let step := script.stepFor o
  { tree := change step o
    emissions := emission false step.output ++ emission true step.errors
    closing := if step.closes then some 0 else none
    lasting := some ((if step.stopsAgent then ScriptStep.stopDelay else 0) + step.sleep +
      (if step.hangs then ScriptStep.hangTime else 0))
    ending := if step.signal.isSome then none else some (step.status % ScriptStep.statusCount)
    stopRequest := if step.stopsAgent then some ScriptStep.stopDelay else none }

/-- The number of steps of a script. -/
def size : Script → Nat
  | steps list => list.length
  | byArgument _ cases => cases.foldl (fun n c => n + c.2.length) 0

end Script

end DataStaging
