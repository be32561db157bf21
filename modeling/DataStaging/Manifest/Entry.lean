import DataStaging.Json.Record

/-!
# Manifests

A manifest is a JSON list of entries; each says where a file appears in the task's tree and which
object it is. It is read one entry at a time, and every entry is handed on before the next is read,
so the entries before a flaw have been handed on when the flaw is found.
-/

namespace DataStaging

/-- A place in the task's tree, and the object that appears there. -/
structure ManifestEntry where
  relativePath : String
  storagePath : String
deriving DecidableEq, Repr

namespace ManifestEntry

/-- An entry whose fields are still being read. -/
structure Draft where
  relativePath : Option String
  storagePath : Option String

def shape : Json.Shape Draft where
  title := "struct ManifestEntry"
  fields := [
    ⟨"relative_path", fun d => d.relativePath.isSome,
      fun d => do return { d with relativePath := some (← Json.Reader.textValue) }⟩,
    ⟨"storage_path", fun d => d.storagePath.isSome,
      fun d => do return { d with storagePath := some (← Json.Reader.textValue) }⟩]

/-- Reads one entry. -/
def reader : Json.Reader ManifestEntry := do
  let draft ← shape.read ⟨none, none⟩
  return ⟨draft.relativePath.getD "", draft.storagePath.getD ""⟩

end ManifestEntry

namespace Manifest

/-- The entries handed on, in order, and how the reading ended. -/
@[ext] structure Reading where
  entries : List ManifestEntry
  outcome : Except Json.Problem Unit

/-- Reads elements and hands them on, `room` of them at most if the queue is closed after that many.
    Gives the entries, last first, and what became of the list. -/
def elements : Nat → Bool → Option Nat → List ManifestEntry → Json.Cursor →
    List ManifestEntry × Except Json.Problem Unit × Json.Cursor
  | 0, _, _, entries, c => (entries, .error ⟨.endInList, some c.ahead⟩, c)
  | fuel + 1, first, room, entries, c =>
    match (Json.Reader.elementFollows first).run c with
    | (.error problem, c) => (entries, .error problem, c)
    | (.ok false, c) => (entries, .ok (), c)
    | (.ok true, c) =>
      match ManifestEntry.reader.run c with
      | (.error problem, c) => (entries, .error problem, c)
      | (.ok entry, c) =>
        match room with
        | some 0 => (entries, .ok (), c)
        | some (n + 1) => elements fuel false (some n) (entry :: entries) c
        | none => elements fuel false none (entry :: entries) c

/-- Leaves the list, or places a problem that has no place yet. -/
def leave (outcome : Except Json.Problem Unit) (c : Json.Cursor) :
    Except Json.Problem Unit × Json.Cursor :=
  match outcome with
  | .error problem =>
    let c := (Json.Reader.closeList.run c).2
    (.error { problem with place := problem.place.or (some c.here) }, c)
  | .ok () =>
    match Json.Reader.closeList.run c with
    | (.ok (), c) => (.ok (), c)
    | (.error problem, c) => (.error problem, c)

/-- Reads a manifest for a queue that is closed after `room` entries, or never. -/
def readFor (room : Option Nat) (bytes : Bytes) : Reading :=
  let start := Json.Cursor.ofStream bytes
  match Json.Reader.peekPastBlanks.run start with
  | (.ok (some 0x5B), c) =>
    let (entries, outcome, c) := elements (bytes.length + 1) true room [] c.advance
    let (outcome, c) := leave outcome c
    match outcome with
    | .error problem => ⟨entries.reverse, .error problem⟩
    | .ok () => ⟨entries.reverse, Json.Reader.result (Json.Reader.complete (pure ())) c⟩
  | (.ok (some _), c) =>
    ⟨[], Json.Reader.result (Json.Reader.refuse "a JSON array of manifest entries") c⟩
  | (.ok none, c) => ⟨[], .error ⟨.endInValue, some c.ahead⟩⟩
  | (.error problem, _) => ⟨[], .error problem⟩

/-- Reads a manifest for a queue that takes every entry. -/
def read (bytes : Bytes) : Reading := readFor none bytes

/-- How many entries were handed on, or the flaw that ended the reading. -/
def Reading.count (reading : Reading) : Except Json.Problem Nat :=
  reading.outcome.map (fun _ => reading.entries.length)

end Manifest

end DataStaging
