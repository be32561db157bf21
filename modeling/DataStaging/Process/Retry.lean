import DataStaging.Defaults
import DataStaging.Fault
import DataStaging.Notices
import DataStaging.Number.Binary64

/-!
# Retrying a command

Two levels of patience. A run that could not reach its service, or that was told to slow down, is
tried again without end and costs nothing. Every other failure, and every silence that lasted too
long, is *charged*; when the charges reach the policy's limit, the run is given up.

The loop is stated over any state `σ` and any way to make an attempt, so that it can be run against
a host as well as against a list of outcomes.

What is counted here is counted in 32 bits where the agent runs. A run that makes fewer than
`2 ^ 32` attempts has the same counts there, since no counter is ahead of the attempts.
-/

namespace DataStaging

/-- Why a computation stopped before it had a result. -/
inductive Halt
  /-- It failed. -/
  | fault (fault : Fault)
  /-- It was dropped because the agent was asked to stop. -/
  | interrupted
  /-- It waits for something that never comes. -/
  | stuck
  /-- It asked the clock for a time that does not exist. -/
  | crash (reason : String)
deriving DecidableEq, Repr

/-- A computation on a state that may halt. -/
abbrev Act (σ : Type) (α : Type) := ExceptT Halt (StateM σ) α

/-- How often and how patiently a command is tried. -/
structure RetryPolicy where
  /-- The charged attempts that end the run. -/
  maxRetries : Nat
  /-- The longest silence of a streaming command. -/
  idleTimeout : Duration
  /-- The unit of the waits after a rate limit. -/
  backoffUnit : Duration
deriving DecidableEq, Repr

namespace RetryPolicy

def standard : RetryPolicy := ⟨Defaults.maxRetries, Defaults.idleTimeout, Defaults.backoffUnit⟩

def withMaxRetries (policy : RetryPolicy) (n : Nat) : RetryPolicy :=
  { policy with maxRetries := max n 1 }

/-- The policy's settings on one line. -/
def describe (policy : RetryPolicy) : String :=
  "RetryPolicy \x7b max_retries: " ++ toString policy.maxRetries ++ ", idle_timeout: " ++
    policy.idleTimeout.text ++ ", backoff_unit: " ++ policy.backoffUnit.text ++ " \x7d"

end RetryPolicy

/-- What happened in the attempts of one run, of which there are fewer than `2 ^ 32`. -/
structure RunReport where
  /-- Charged attempts. -/
  failedAttempts : Nat
  /-- Attempts that were told to slow down. -/
  rateLimited : Nat
  /-- Attempts that could not reach the service. -/
  serviceWaits : Nat
  /-- Charged attempts that stayed silent too long. -/
  timeouts : Nat
  /-- Whether attempts run the variant, which they do after a silence. -/
  usedVariant : Bool
deriving DecidableEq, Repr

def RunReport.start : RunReport := ⟨0, 0, 0, 0, false⟩

/-- How one attempt ended. -/
inductive Attempt (α : Type)
  | succeeded (value : α)
  /-- It ended with a status, or by a signal. -/
  | exited (status : Option Int)
  /-- It was killed because it stayed silent. -/
  | timedOut
deriving DecidableEq, Repr

namespace Duration

/-- The span in seconds, as a double. -/
def asSeconds (d : Duration) : Float :=
  Float.ofNat d.seconds + Float.ofNat d.subsecond / 1000000000.0

/-- The span times `factor`, rounded to whole nanoseconds. -/
def scale (d : Duration) (factor : Float) : Duration :=
  match Binary64.ofFloat? (factor * d.asSeconds) with
  | some x => ⟨x.timesRounded 1000000000 .toEven⟩
  | none => d

/-- The span in seconds with one digit after the point. -/
def tenthsText (d : Duration) : String :=
  match Binary64.ofFloat? d.asSeconds with
  | some x => x.tenthsText
  | none => ""

end Duration

namespace Retry

/-- The wait after a rate limit, in units: between one and `2 ^ count`, where `jitter` lies in
    `[0, 1)` and the exponent stops growing at its limit. -/
def backoffUnits (count : Nat) (jitter : Float) : Float :=
  1.0 + jitter * (Float.ofNat (Nat.pow 2 (min count Defaults.backoffMaxExponent)) - 1.0)

def unreachableNotice : String := "Service unreachable, waiting for it to come back..."

def rateLimitNotice (delay : Duration) (occurrence : Nat) : String :=
  "Rate limited, backing off for " ++ delay.tenthsText ++ "s (occurrence " ++
    toString occurrence ++ ")"

def attemptText (policy : RetryPolicy) (count : Nat) : String :=
  "(attempt " ++ toString count ++ "/" ++ toString policy.maxRetries ++ ")"

/-- A status as a notice names it. -/
def statusText : Option Int → String
  | some status => toString status
  | none => "signal"

def exitNotice (policy : RetryPolicy) (label : String) (status : Option Int) (count : Nat) :
    String :=
  "'" ++ label ++ "' exited with " ++ statusText status ++ " " ++ attemptText policy count

def silenceNotice (policy : RetryPolicy) (label : String) (count : Nat) : String :=
  "'" ++ label ++ "' timed out after " ++ policy.idleTimeout.text ++ " without output " ++
    attemptText policy count

def spentNotice (policy : RetryPolicy) (label : String) : String :=
  "'" ++ label ++ "' failed after " ++ toString policy.maxRetries ++ " retries"

/-- What follows an attempt. -/
inductive Next (α : Type)
  /-- The run succeeded. -/
  | done (value : α)
  /-- Wait for the service, then try again. -/
  | awaitService
  /-- Wait out a rate limit, then try again. -/
  | awaitQuota (delay : Duration)
  /-- Try again at once. -/
  | again
  /-- The charges reached the limit. -/
  | spent
deriving DecidableEq, Repr

/-- Charges an attempt, with its notice. -/
def charge (policy : RetryPolicy) (label : String) (report : RunReport) (notice : String) :
    RunReport × Notices × Next α :=
  if policy.maxRetries ≤ report.failedAttempts then
    (report, [notice, spentNotice policy label], .spent)
  else (report, [notice], .again)

/-- The report after an attempt, the notices it causes, and what follows. The counters go on
    without a limit, which is right up to `2 ^ 32 - 1` attempts. -/
def advance (policy : RetryPolicy) (label : String) (hasVariant : Bool) (jitter : Float)
    (report : RunReport) : Attempt α → RunReport × Notices × Next α
  | .succeeded value => (report, [], .done value)
  | .exited status =>
    if status = some ExitStatus.serviceUnreachable then
      ({ report with serviceWaits := report.serviceWaits + 1 },
        if report.serviceWaits = 0 then [unreachableNotice] else [], .awaitService)
    else if status = some ExitStatus.rateLimited then
      let delay := policy.backoffUnit.scale (backoffUnits report.rateLimited jitter)
      ({ report with rateLimited := report.rateLimited + 1 },
        if report.rateLimited % Defaults.rateLimitNoticeEvery = 0 then
          [rateLimitNotice delay (report.rateLimited + 1)]
        else [],
        .awaitQuota delay)
    else
      let report := { report with failedAttempts := report.failedAttempts + 1 }
      charge policy label report (exitNotice policy label status report.failedAttempts)
  | .timedOut =>
    let report := { report with
      failedAttempts := report.failedAttempts + 1
      timeouts := report.timeouts + 1
      usedVariant := report.usedVariant || hasVariant }
    charge policy label report (silenceNotice policy label report.failedAttempts)

/-- The means of a run: how it looks at the connection, makes an attempt with or without the
    variant, writes notices and waits. -/
structure Means (σ α : Type) where
  gate : Act σ Unit
  attempt : Bool → Act σ (Attempt α)
  notify : Notices → Act σ Unit
  awaitService : Act σ Unit
  pause : Duration → Act σ Unit
  jitter : Act σ Float

/-- Tries until an attempt succeeds or the charges reach the limit, for at most `patience`
    attempts; a run that outlasts them is stuck. -/
def run (means : Means σ α) (policy : RetryPolicy) (label : String) (hasVariant : Bool)
    (status : Int) : Nat → RunReport → Act σ (α × RunReport)
  | 0, _ => throw .stuck
  | patience + 1, report => do
    means.gate
    let outcome ← means.attempt report.usedVariant
    let jitter ← means.jitter
    let (report, notices, next) := advance policy label hasVariant jitter report outcome
    means.notify notices
    match next with
    | .done value => return (value, report)
    | .awaitService =>
      means.awaitService
      run means policy label hasVariant status patience report
    | .awaitQuota delay =>
      means.pause delay
      run means policy label hasVariant status patience report
    | .again => run means policy label hasVariant status patience report
    | .spent => throw (.fault (.retriesExhausted label policy.maxRetries status))

end Retry

end DataStaging
