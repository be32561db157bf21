import DataStaging.Benchmark.Summary
import DataStaging.Host.FileTree

/-!
# The summary of a folder

The artifacts of a folder are summed up. Each entry is read by its own path, which begins with that
of the folder. A file that cannot be read is passed over, like any file that is no artifact; only
the folder itself must be there.
-/

namespace DataStaging.BenchmarkSummary

/-- The path of an entry of the folder that a path leads to. -/
def entryPath (path : Bytes) (name : FileName) : Bytes :=
  if path.getLast? = some FileTree.slash then path ++ name else path ++ FileTree.slash :: name

/-- The names in a folder, with the contents of those that are files or lead to files. -/
def filesIn (t : FileTree) (folder : Location) (path : Bytes) (names : List FileName) :
    List (Bytes × Bytes) :=
  names.filterMap (fun name =>
    (t.readFile folder (entryPath path name)).toOption.map (fun contents => (name, contents)))

/-- The summary of the folder that a path leads to. -/
def ofFolder (t : FileTree) (folder : Location) (path : String) :
    Except IoFault BenchmarkSummary := do
  match ← t.find folder (Utf8.encode path) with
  | (l, .directory) => return ofFiles (filesIn t folder (Utf8.encode path) (t.names l))
  | _ => .error .notDirectory

end DataStaging.BenchmarkSummary
