import DataStaging.Time.Duration

/-!
# Settings that hold unless a caller chooses others
-/

namespace DataStaging.Defaults

/-- The name under which the agent is called. -/
def agentName : String := "staging-agent"

def agentVersion : String := "0.3.0"

/-- Attempts that may fail before a command is given up. -/
def maxRetries : Nat := 5

/-- How often a broken connection is looked at again. -/
def healthPoll : Duration := .ofSeconds 10

/-- How long a streaming command may stay silent. -/
def idleTimeout : Duration := .ofSeconds 600

/-- The unit of the waits after a rate limit. -/
def backoffUnit : Duration := .ofMillis 1000

/-- The waits after a rate limit double at most this many times. -/
def backoffMaxExponent : Nat := 5

/-- Of this many rate limits in a row, one is announced. -/
def rateLimitNoticeEvery : Nat := 5

def mountAttempts : Nat := 3

def mountProgram : String := "mount-s3"

def unmountProgram : String := "fusermount"

/-- The data mover. -/
def moverProgram : String := "osmo"

/-- Manifest entries that may wait for a worker. -/
def manifestQueueDepth : Nat := 1000

/-- How often a sleeping task looks for a stop. -/
def stopTick : Duration := .ofMillis 100

/-- How often a sync session reports that it is alive. -/
def syncInterval : Duration := .ofSeconds 5

/-- How often the service is probed. -/
def probeInterval : Duration := .ofSeconds 10

/-- How long one probe may take. -/
def probeTimeout : Duration := .ofSeconds 5

/-- Seconds between two checkpoints. -/
def checkpointSeconds : Nat := 60

end DataStaging.Defaults
