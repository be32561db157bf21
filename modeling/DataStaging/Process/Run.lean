import DataStaging.Host.State

/-!
# Running commands

A command is run once and its output kept, or its lines are passed on as they come while a watch is
kept on its silence. Either way it is retried under the same policy.

Results:
* `status_signal`: a program that dies of a signal counts as status -1 where its output is kept.
-/

namespace DataStaging

/-- The output of a program that has ended. -/
structure Output where
  /-- The exit status, or -1 for a signal. -/
  status : Int
  out : String
  errors : String
deriving DecidableEq, Repr

namespace Output

def succeeded (o : Output) : Bool := o.status = 0

/-- The output of a behaviour. -/
def ofBehaviour (b : Behaviour) : Output :=
  ⟨b.ending.getD (-1), Utf8.decodeLossy (b.stream false), Utf8.decodeLossy (b.stream true)⟩

theorem status_signal (b : Behaviour) (h : b.ending = none) : (ofBehaviour b).status = -1 := by
  simp [ofBehaviour, h]

end Output

/-! ## Listening to a program -/

/-- What was heard so far: complete lines, the unfinished ends of both streams, the time since the
    last line, and the time since the start. -/
structure Listening where
  lines : Notices
  out : Bytes
  errors : Bytes
  silence : Nat
  elapsed : Nat
deriving DecidableEq, Repr

/-- What became of listening: the streams were closed, or silence lasted too long. -/
inductive Heard
  | closed (lines : Notices) (elapsed : Nat)
  | silent (lines : Notices) (elapsed : Nat)
deriving DecidableEq, Repr

namespace Listening

def start : Listening := ⟨[], [], [], 0, 0⟩

/-- Whether a silence is too long. -/
def isTooLong (idle : Duration) (silence : Nat) : Bool := idle.nanos ≤ silence * 1000

/-- What is left of a stream behind its last line feed. -/
def unfinished (bytes : Bytes) : Bytes :=
  ((Lines.chunks bytes).getLast?.filter (fun line => !Lines.isEnded line)).getD []

/-- Hears more bytes on one of the streams. -/
def hear (l : Listening) (e : Emission) : Listening :=
  let bytes := (if e.toErrors then l.errors else l.out) ++ e.bytes
  let lines := Lines.ofOpenStream bytes
  { lines := l.lines ++ lines
    out := if e.toErrors then l.out else unfinished bytes
    errors := if e.toErrors then unfinished bytes else l.errors
    silence := if lines.isEmpty then l.silence + e.after else 0
    elapsed := l.elapsed + e.after }

/-- The end of listening for a silence that lasts too long. -/
def giveUp (l : Listening) (idle : Duration) : Heard :=
  .silent l.lines (l.elapsed + (idle.micros - l.silence))

/-- Listens to emissions and then to the end of the streams. -/
def listen (idle : Duration) (closing : Option Nat) : List Emission → Listening → Heard
  | [], l =>
    match closing with
    | none => l.giveUp idle
    | some gap =>
      if isTooLong idle (l.silence + gap) then l.giveUp idle
      else .closed (l.lines ++ Lines.ofStream l.out ++ Lines.ofStream l.errors) (l.elapsed + gap)
  | e :: rest, l =>
    if isTooLong idle (l.silence + e.after) then l.giveUp idle
    else listen idle closing rest (l.hear e)

end Listening

namespace Run

/-- Runs a command once and keeps its output. -/
def once (command : Command) : Act Host Output := do
  let b ← Host.begin command
  match b.total? with
  | none => throw .stuck
  | some total =>
    Host.elapse total
    return Output.ofBehaviour b

/-- The lines of a failed program's errors that are worth a notice. -/
def errorLines (o : Output) : Notices :=
  (Lines.ofText o.errors).filter (fun line => !Blank.isBlankText line)

/-- One attempt whose output is kept. -/
def bufferedAttempt (command : Command) : Act Host (Attempt String) := do
  let o ← once command
  if o.succeeded then return .succeeded o.out
  Host.notify (errorLines o)
  return .exited (some o.status)

/-- One attempt whose lines are passed on. -/
def streamingAttempt (command : Command) (idle : Duration) : Act Host (Attempt Unit) := do
  let b ← Host.begin command
  match Listening.listen idle (b.closing.or b.lasting) b.emissions .start with
  | .silent lines elapsed =>
    Host.notify lines
    Host.elapse elapsed
    return .timedOut
  | .closed lines elapsed =>
    Host.notify lines
    Host.elapse elapsed
    match b.lasting with
    | none => throw .stuck
    | some last =>
      if b.closing.isSome then Host.elapse last
      if b.ending = some 0 then return .succeeded ()
      else return .exited b.ending

/-- How runs go about on a host. -/
def means (attempt : Bool → Act Host (Attempt α)) : Retry.Means Host α where
  gate := Host.awaitConnection
  attempt := attempt
  notify := Host.notify
  awaitService := do Host.elapse (← get).connection.poll.micros
  pause := fun delay => Host.elapse delay.micros
  jitter := return (← get).jitter

/-- Runs a command and passes its lines on. After a silence it runs the variant, if there is one. -/
def streaming (policy : RetryPolicy) (command : Command) (variant : Option Command) (status : Int) :
    Act Host RunReport := do
  let attempt := fun (useVariant : Bool) =>
    streamingAttempt (if useVariant then variant.getD command else command) policy.idleTimeout
  let (_, report) ← Retry.run (means attempt) policy command.display variant.isSome status
    (← get).patience .start
  return report

/-- Runs a command and gives what it wrote. -/
def buffered (policy : RetryPolicy) (command : Command) (status : Int) :
    Act Host (String × RunReport) := do
  Retry.run (means (fun _ => bufferedAttempt command)) policy command.display false status
    (← get).patience .start

end Run

end DataStaging
