import DataStaging.Host.Program
import DataStaging.Process.Command
import DataStaging.Process.Health
import DataStaging.Time.Calendar

/-!
# The host

The machine that the agent runs on, as far as the agent can tell: files, programs, variables, a
clock, the connection to the service and a request to stop; and what the agent did on it: the
programs it started and the notices it wrote.

Times are microseconds since the agent began.

Results:
* `advanceTo_undisturbed`: where nothing is dropped, time moves the clock and nothing else.
-/

namespace DataStaging

structure Host where
  tree : FileTree
  /-- The folder that relative paths start from. -/
  folder : Location
  env : List (String × String)
  programs : String → Option Program
  clock : Nat
  /-- The wall clock at the beginning. -/
  epoch : Instant
  connection : Connection
  /-- Whether a connection to an address opens, at whatever time it is tried. -/
  reaches : String → Bool
  /-- The time after which a connection opens or is refused. -/
  answerDelay : Duration := .ofMillis 1
  processors : Nat
  /-- The random share of the waits after a rate limit. -/
  jitter : Float
  /-- When the agent is asked to stop, if it is. -/
  stopAt : Option Nat
  /-- Whether a request to stop ends what is going on at once. -/
  dropsOnStop : Bool
  /-- The attempts after which a run is taken for endless. -/
  patience : Nat
  /-- The programs started so far, the oldest first. -/
  starts : List Start
  notices : Notices

namespace Host

/-- The wall clock now. -/
def now (h : Host) : Instant := h.epoch + (h.clock / 1000 : Nat)

/-- The first look for a stop, at full ticks since the beginning, after a request at `t`. -/
def tickAfter (t : Nat) : Nat :=
  let tick := Defaults.stopTick.micros
  (t / tick + 1) * tick

/-- The time at which what is going on is dropped, if it is. -/
def dropTime? (h : Host) : Option Nat :=
  if h.dropsOnStop then h.stopAt.map tickAfter else none

/-- The host at a later time, and whether what is going on was dropped before. -/
def advanceTo (h : Host) (target : Nat) : Bool × Host :=
  match h.dropTime? with
  | some t =>
    if t ≤ target then (true, { h with clock := max h.clock t })
    else (false, { h with clock := target })
  | none => (false, { h with clock := target })

theorem advanceTo_undisturbed (h : Host) (target : Nat) (hd : h.dropsOnStop = false) :
    h.advanceTo target = (false, { h with clock := target }) := by
  simp [advanceTo, dropTime?, hd]

/-- Moves the clock, unless what is going on is dropped before. -/
def moveTo (target : Nat) : Act Host Unit := do
  let (dropped, h) := (← get).advanceTo target
  set h
  if dropped then throw .interrupted

/-- Lets time pass. -/
def elapse (micros : Nat) : Act Host Unit := do
  moveTo ((← get).clock + micros)

/-- Writes notices. -/
def notify (lines : Notices) : Act Host Unit :=
  modify (fun h => { h with notices := h.notices ++ lines })

/-- Fails with a fault. -/
def fail (fault : Fault) : Act Host α := throw (.fault fault)

def orFail : Except Fault α → Act Host α
  | .ok value => return value
  | .error fault => fail fault

/-- Variables with some of them set anew. -/
def overlay (env : List (String × String)) (changes : List (String × String)) :
    List (String × String) :=
  changes.foldl (fun env c => env.filter (fun p => p.1 != c.1) ++ [c]) env

/-- The earlier of a time that may be missing and another. -/
def sooner (a : Option Nat) (b : Option Nat) : Option Nat :=
  match a, b with
  | some a, some b => some (min a b)
  | a, none => a
  | none, b => b

/-- Starts a command and lets it change the files. -/
def begin (command : Command) : Act Host Behaviour := do
  let h ← get
  if command.isUnstartable then fail (.io .nulInArgument)
  else match h.programs command.program with
    | none => fail (.io .notFound)
    | some program =>
      let start : Start := ⟨command.program, command.args, overlay h.env command.env⟩
      let b := program ⟨h.starts, start, h.tree, h.folder⟩
      set { h with
        tree := b.tree
        starts := h.starts ++ [start]
        stopAt := sooner h.stopAt (b.stopRequest.map (h.clock + ·)) }
      return b

/-- Changes the files by an operation that may fail. -/
def changeTree (change : FileTree → Location → Except IoFault Unit × FileTree) : Act Host Unit := do
  let h ← get
  let (outcome, tree) := change h.tree h.folder
  set { h with tree := tree }
  match outcome with
  | .ok () => return ()
  | .error fault => fail (.io fault)

/-- Makes a directory and those above it. -/
def ensureDirectory (path : String) : Act Host Unit :=
  changeTree (fun t folder => t.ensureDirectory folder path)

/-- Waits until the connection is good. -/
def awaitConnection : Act Host Unit := do
  let h ← get
  match h.connection.awaitGood h.clock with
  | .ok t => moveTo t
  | .error halt =>
    match h.dropTime? with
    | some t =>
      -- a wait that would not end well is dropped where it can be
      if halt = .stuck then moveTo t else throw halt
    | none => throw halt

end Host

end DataStaging
