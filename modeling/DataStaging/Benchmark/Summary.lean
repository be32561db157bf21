import DataStaging.Benchmark.Artifact
import DataStaging.Benchmark.Metrics

/-!
# Summaries of benchmarks

The sums over the artifacts of a folder, in all and for each operation. The throughput counts all
bytes over the span from the earliest start to the latest end.
-/

namespace DataStaging

/-- The sums of one operation. -/
structure OperationTotals where
  operations : Nat
  bytes : Nat
  files : Nat
  /-- Milliseconds between start and end, where the end is later. -/
  busyMillis : Int
deriving DecidableEq, Repr

namespace OperationTotals

def zero : OperationTotals := ⟨0, 0, 0, 0⟩

def add (t : OperationTotals) (m : BenchmarkMetrics) : OperationTotals :=
  ⟨t.operations + 1, t.bytes + m.bytes, t.files + m.files,
    t.busyMillis + max (m.finish - m.start) 0⟩

end OperationTotals

/-- The sums over a folder. Operations are in ascending order. -/
structure BenchmarkSummary where
  totals : OperationTotals
  earliest : Option Instant
  latest : Option Instant
  byOperation : List (String × OperationTotals)
deriving DecidableEq, Repr

namespace BenchmarkSummary

def empty : BenchmarkSummary := ⟨.zero, none, none, []⟩

/-- The smaller of an instant and one that may be missing. -/
def earlier (a : Option Instant) (b : Instant) : Option Instant :=
  match a with
  | none => some b
  | some a => some (min a b)

/-- The larger of an instant and one that may be missing. -/
def later (a : Option Instant) (b : Instant) : Option Instant :=
  match a with
  | none => some b
  | some a => some (max a b)

/-- Adds metrics to the sums of an operation, in its place among the others. -/
def addTo (operation : String) (m : BenchmarkMetrics) :
    List (String × OperationTotals) → List (String × OperationTotals)
  | [] => [(operation, OperationTotals.zero.add m)]
  | (name, totals) :: rest =>
    if name = operation then (name, totals.add m) :: rest
    else if operation < name then (operation, OperationTotals.zero.add m) :: (name, totals) :: rest
    else (name, totals) :: addTo operation m rest

def add (s : BenchmarkSummary) (operation : String) (m : BenchmarkMetrics) : BenchmarkSummary :=
  ⟨s.totals.add m, earlier s.earliest m.start, later s.latest m.finish,
    addTo operation m s.byOperation⟩

/-- The artifact that a file is, if its name is UTF-8 and that of an artifact and its contents are
    metrics. -/
def artifact? (name contents : Bytes) : Option (String × BenchmarkMetrics) := do
  let text ← Utf8.decode? name
  let operation ← Artifact.operation? text
  let m ← (BenchmarkMetrics.decode contents).toOption
  return (operation, m)

/-- The sums over the files of a folder, given by name and contents; all but artifacts are
    ignored. -/
def ofFiles (files : List (Bytes × Bytes)) : BenchmarkSummary :=
  files.foldl (fun s f =>
    match artifact? f.1 f.2 with
    | some (operation, m) => s.add operation m
    | none => s) empty

/-- The milliseconds from the earliest start to the latest end. -/
def span (s : BenchmarkSummary) : Int :=
  match s.earliest, s.latest with
  | some start, some finish => finish - start
  | _, _ => 0

/-- All bytes over the span, per second; zero if the span is not positive. -/
def throughput (s : BenchmarkSummary) : Float :=
  if 0 < s.span then Float.ofNat s.totals.bytes * 1000.0 / Float.ofInt s.span else 0.0

/-! ## The summary as JSON -/

/-- One character inside a JSON string. -/
def jsonChar (c : Char) : String :=
  if c = '"' then "\\\""
  else if c = '\\' then "\\\\"
  else if c = '\n' then "\\n"
  else if c = '\r' then "\\r"
  else if c = '\t' then "\\t"
  else if c.toNat = 0x08 then "\\b"
  else if c.toNat = 0x0C then "\\f"
  else if c.toNat < 0x20 then "\\u00" ++ (if c.toNat < 0x10 then "0" else "") ++ Quoted.hex c.toNat
  else String.singleton c

def jsonString (s : String) : String := "\"" ++ String.join (s.toList.map jsonChar) ++ "\""

/-- An object over several lines, each two blanks further in than its braces. -/
def jsonObject (indent : String) (members : List (String × String)) : String :=
  if members.isEmpty then "\x7b\x7d"
  else
    let line := fun (m : String × String) => indent ++ "  " ++ jsonString m.1 ++ ": " ++ m.2
    "\x7b\n" ++ ",\n".intercalate (members.map line) ++ "\n" ++ indent ++ "\x7d"

/-- An instant as JSON, if there is one. -/
def jsonInstant : Option Instant → String
  | some t => "\"" ++ Calendar.stamp t "Z" ++ "\""
  | none => "null"

def jsonFloat (x : Float) : String :=
  match Binary64.ofFloat? x with
  | some x => Json.floatLayout.text x
  | none => "null"

def jsonTotals (t : OperationTotals) : String :=
  jsonObject "    " [("operations", toString t.operations), ("bytes_transferred", toString t.bytes),
    ("file_count", toString t.files), ("busy_millis", toString t.busyMillis)]

/-- The summary as JSON over several lines. -/
def toJson (s : BenchmarkSummary) : String :=
  jsonObject "" [("operations", toString s.totals.operations),
    ("bytes_transferred", toString s.totals.bytes), ("file_count", toString s.totals.files),
    ("earliest_start", jsonInstant s.earliest), ("latest_end", jsonInstant s.latest),
    ("throughput_bytes_per_sec", jsonFloat s.throughput),
    ("by_operation", jsonObject "  " (s.byOperation.map (fun p => (p.1, jsonTotals p.2))))]

end BenchmarkSummary

end DataStaging
