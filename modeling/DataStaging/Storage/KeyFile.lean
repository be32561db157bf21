import DataStaging.Host.FileTree
import DataStaging.Storage.Credential

/-!
# Files of key pairs

Key pairs are kept in a file of the host.
-/

namespace DataStaging.KeyRing

/-- Loads the key pairs of the file that a path leads to. -/
def load (t : FileTree) (folder : Location) (path : String) : Except Fault KeyRing :=
  match t.readFile folder (Utf8.encode path) with
  | .error fault => .error (.io fault)
  | .ok contents => decode contents

end DataStaging.KeyRing
