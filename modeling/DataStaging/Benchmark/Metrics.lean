import DataStaging.Json.Record
import DataStaging.Time.Calendar

/-!
# Benchmark metrics

What one transfer reports: when it began and ended, and how much it moved. The written form is a
JSON object with the times as milliseconds; the accepted forms are those of a JSON record.
-/

namespace DataStaging

/-- The statistics of one transfer. -/
structure BenchmarkMetrics where
  start : Instant
  finish : Instant
  bytes : Nat
  files : Nat
deriving DecidableEq, Repr

namespace BenchmarkMetrics

/-- Metrics whose fields are still being read. -/
structure Draft where
  start : Option Instant
  finish : Option Instant
  bytes : Option Nat
  files : Option Nat

/-- A legal instant, or why it is none. -/
def legalInstant (t : Int) : Json.Reader Instant :=
  if Calendar.isLegal t then return t
  else Json.Reader.failShape ("value is not a legal timestamp: " ++ toString t)

def instantKind : String := "a unix timestamp in milliseconds"

/-- Reads an instant. -/
def instant : Json.Reader Instant :=
  Json.Reader.numberValue instantKind (fun
    | .natural n => legalInstant n
    | .negative n => legalInstant n
    | .float x => Json.Reader.failKind (Json.Number.float x).describe instantKind)

def shape : Json.Shape Draft where
  title := "struct BenchmarkMetrics"
  fields := [
    ⟨"start_time", fun d => d.start.isSome,
      fun d => do return { d with start := some (← instant) }⟩,
    ⟨"end_time", fun d => d.finish.isSome,
      fun d => do return { d with finish := some (← instant) }⟩,
    ⟨"bytes_transferred", fun d => d.bytes.isSome,
      fun d => do return { d with bytes := some (← Json.Reader.countValue) }⟩,
    ⟨"file_count", fun d => d.files.isSome,
      fun d => do return { d with files := some (← Json.Reader.countValue) }⟩]

def reader : Json.Reader BenchmarkMetrics := do
  let d ← shape.read ⟨none, none, none, none⟩
  return ⟨d.start.getD 0, d.finish.getD 0, d.bytes.getD 0, d.files.getD 0⟩

/-- Reads metrics from the contents of a file. -/
def decode (contents : Bytes) : Except Json.Problem BenchmarkMetrics :=
  Json.Reader.result (Json.Reader.complete reader) (.ofWhole contents)

/-- The written form. -/
def encode (m : BenchmarkMetrics) : String :=
  "\x7b\"start_time\":" ++ toString m.start ++ ",\"end_time\":" ++ toString m.finish ++
    ",\"bytes_transferred\":" ++ toString m.bytes ++ ",\"file_count\":" ++ toString m.files ++
    "\x7d"

end BenchmarkMetrics

end DataStaging
