import DataStaging.Fault
import DataStaging.Path
import DataStaging.Text.Utf8

/-!
# File trees

A tree is a list of nodes by their location, the names that lead to them from the top. A *path* is
text that is walked: links are followed, `..` leads to the parent of where the walk stands, and at
most forty links are followed in one walk.

Results:
* `get?_put_self`, `get?_put_of_ne`: putting a node changes one location only.
-/

namespace DataStaging

/-- A name in a directory. -/
abbrev FileName := Bytes

/-- The names that lead to a node from the top. -/
abbrev Location := List FileName

inductive Node
  | directory
  | file (contents : Bytes)
  | link (target : Bytes)
deriving DecidableEq, Repr

/-- The nodes below the top, each with its location. -/
structure FileTree where
  nodes : List (Location × Node)
deriving DecidableEq, Repr

namespace FileTree

def empty : FileTree := ⟨[]⟩

/-- The node at a location. -/
def get? (t : FileTree) (l : Location) : Option Node :=
  if l = [] then some .directory else (t.nodes.find? (fun e => e.1 == l)).map (·.2)

/-- Puts a node at a location, in place of the one there. -/
def put (t : FileTree) (l : Location) (node : Node) : FileTree :=
  ⟨(l, node) :: t.nodes.filter (fun e => e.1 != l)⟩

def erase (t : FileTree) (l : Location) : FileTree := ⟨t.nodes.filter (fun e => e.1 != l)⟩

/-- The names in a directory. -/
def names (t : FileTree) (l : Location) : List FileName :=
  t.nodes.filterMap (fun e => if e.1.dropLast = l && e.1 ≠ [] then e.1.getLast? else none)

theorem get?_put_self (t : FileTree) {l : Location} (h : l ≠ []) (node : Node) :
    (t.put l node).get? l = some node := by
  simp [get?, put, h]

theorem get?_put_of_ne (t : FileTree) {l l' : Location} (h : l' ≠ l) (node : Node) :
    (t.put l node).get? l' = t.get? l' := by
  have hne : (l == l') = false := by simpa using Ne.symm h
  by_cases h0 : l' = []
  · simp [get?, h0]
  · simp only [get?, h0, if_false, put, List.find?_cons, hne]
    congr 1
    induction t.nodes with
    | nil => rfl
    | cons e rest ih =>
      by_cases he : e.1 = l'
      · simp [he, h]
      · have hb : (e.1 == l') = false := by simpa using he
        by_cases hl : (e.1 != l) = true <;> simp [hl, hb, ih]

/-! ## Walking a path -/

/-- The slash that separates the steps of a path. -/
def slash : UInt8 := 0x2F

/-- The steps of a path: the parts between its slashes that are not empty. -/
def steps : Bytes → List Bytes
  | [] => []
  | b :: rest =>
    if b = slash then steps rest
    else match rest, steps rest with
      | c :: _, step :: more => if c = slash then [b] :: step :: more else (b :: step) :: more
      | _, more => [b] :: more

/-- The step that stays. -/
def here : Bytes := [0x2E]

/-- The step that leads upward. -/
def up : Bytes := [0x2E, 0x2E]

/-- The longest name, in bytes. -/
def nameLimit : Nat := 255

/-- The length that a path or the target of a link must not reach, in bytes. -/
def pathLimit : Nat := 4096

/-- The links that are followed in one walk. -/
def linkLimit : Nat := 40

/-- The steps of a link's target; a slash at its end asks for a directory. -/
def targetSteps (target : Bytes) : List Bytes :=
  steps target ++ if target.getLast? = some slash then [here] else []

/-- Where a walk along a link's target begins. -/
def targetStart (l : Location) (target : Bytes) : Location :=
  if target.head? = some slash then [] else l

/-- Walks steps from a directory as far as the first link, which is left to `follow`: it is given
    where the target begins and the steps from there. Ends at a node, or just before a last name
    that is missing. -/
def walkSteps (t : FileTree) (follow : Location → List Bytes → Except IoFault (Location × Bool)) :
    Location → List Bytes → Except IoFault (Location × Bool)
  | l, [] => .ok (l, true)
  | l, step :: rest =>
    if step = here then walkSteps t follow l rest
    else if step = up then walkSteps t follow l.dropLast rest
    else if nameLimit < step.length then .error .nameTooLong
    else match t.get? (l ++ [step]) with
      | some .directory => walkSteps t follow (l ++ [step]) rest
      | some (.file _) => if rest = [] then .ok (l ++ [step], true) else .error .notDirectory
      | some (.link target) => follow (targetStart l target) (targetSteps target ++ rest)
      | none => if rest = [] then .ok (l ++ [step], false) else .error .notFound

/-- Walks steps from a directory, following every link, with `links` of them left. -/
def walk (t : FileTree) : Nat → Location → List Bytes → Except IoFault (Location × Bool)
  | 0 => walkSteps t (fun _ _ => .error .tooManyLinks)
  | links + 1 => walkSteps t (walk t links)

/-- Whether a path ends in a slash. -/
def endsInSlash (path : Bytes) : Bool := path.getLast? == some slash

/-- Where a walk along a path begins. -/
def start (folder : Location) (path : Bytes) : Location :=
  if path.head? = some slash then [] else folder

/-- Refuses what no walk accepts. -/
def checkPath (path : Bytes) : Except IoFault Unit :=
  if path.any (· == 0) then .error .nulInPath
  else if path.isEmpty then .error .notFound
  else if pathLimit ≤ path.length then .error .nameTooLong
  else .ok ()

/-- The location that a path leads to, links followed; the flag says whether something is there. -/
def resolve (t : FileTree) (folder : Location) (path : Bytes) :
    Except IoFault (Location × Bool) := do
  checkPath path
  let (l, found) ← walk t linkLimit (start folder path) (steps path)
  if endsInSlash path && found && t.get? l ≠ some .directory then .error .notDirectory
  else return (l, found)

/-- The node that a path leads to, links followed. -/
def find (t : FileTree) (folder : Location) (path : Bytes) : Except IoFault (Location × Node) := do
  let (l, _) ← t.resolve folder path
  match t.get? l with
  | some node => return (l, node)
  | none => .error .notFound

/-- Whether a path leads to a directory. -/
def isDirectory (t : FileTree) (folder : Location) (path : Bytes) : Bool :=
  match t.find folder path with
  | .ok (_, .directory) => true
  | _ => false

/-- The location that a path's last step names in its folder; a link there is not followed. -/
def resolveEntry (t : FileTree) (folder : Location) (path : Bytes) : Except IoFault Location := do
  checkPath path
  let all := steps path
  match all.getLast? with
  | none => .error .exists
  | some name =>
    let (parent, found) ← walk t linkLimit (start folder path) all.dropLast
    if !found then .error .notFound
    else if t.get? parent ≠ some .directory then .error .notDirectory
    else if name = here || name = up then .error .exists
    else if nameLimit < name.length then .error .nameTooLong
    else return parent ++ [name]

/-! ## Changing a tree -/

/-- Makes a directory. -/
def makeDirectory (t : FileTree) (folder : Location) (path : Bytes) : Except IoFault FileTree := do
  let l ← t.resolveEntry folder path
  if (t.get? l).isSome then .error .exists else return t.put l .directory

/-- Makes a link. -/
def makeLink (t : FileTree) (folder : Location) (target path : Bytes) :
    Except IoFault FileTree := do
  if target.any (· == 0) then .error .nulInPath
  else if target.isEmpty then .error .notFound
  else if pathLimit ≤ target.length then .error .nameTooLong
  else
    let l ← t.resolveEntry folder path
    if (t.get? l).isSome then .error .exists
    else if endsInSlash path then .error .notFound
    else return t.put l (.link target)

/-- Makes a directory, unless there is one already. -/
def ensureLast (t : FileTree) (folder : Location) (path : Bytes) : Except IoFault Unit × FileTree :=
  match t.makeDirectory folder path with
  | .ok t => (.ok (), t)
  | .error fault => if t.isDirectory folder path then (.ok (), t) else (.error fault, t)

/-- Makes a directory and those on the way to it that are missing, by at most `fuel` turns upward.
    Gives the tree that is left also where it fails. -/
def makeDirectories (t : FileTree) (folder : Location) (path : List Char) :
    Nat → Except IoFault Unit × FileTree
  | 0 => (.error .wholeTree, t)
  | fuel + 1 =>
    if path = [] then (.ok (), t)
    else match t.ensureLast folder (Utf8.encodeChars path) with
      | (.error .notFound, t) =>
        match Path.parent? path with
        | none => (.error .wholeTree, t)
        | some parent =>
          match t.makeDirectories folder parent fuel with
          | (.ok (), t) => t.ensureLast folder (Utf8.encodeChars path)
          | failed => failed
      | done => done

/-- Makes all directories of a path. -/
def ensureDirectory (t : FileTree) (folder : Location) (path : String) :
    Except IoFault Unit × FileTree :=
  t.makeDirectories folder path.toList (path.length + 2)

/-- The contents of the file that a path leads to. -/
def readFile (t : FileTree) (folder : Location) (path : Bytes) : Except IoFault Bytes := do
  match ← t.find folder path with
  | (_, .file contents) => return contents
  | _ => .error .isDirectory

/-- Writes a file, through links. -/
def writeFile (t : FileTree) (folder : Location) (path contents : Bytes) :
    Except IoFault FileTree := do
  let (l, _) ← t.resolve folder path
  if t.get? l = some .directory || endsInSlash path then .error .isDirectory
  else return t.put l (.file contents)

/-- Removes a file or a link. -/
def removeFile (t : FileTree) (folder : Location) (path : Bytes) : Except IoFault FileTree := do
  let l ← t.resolveEntry folder path
  match t.get? l with
  | none => .error .notFound
  | some .directory => .error .isDirectory
  | some _ => if endsInSlash path then .error .notDirectory else return t.erase l

/-- Removes an empty directory. -/
def removeDirectory (t : FileTree) (folder : Location) (path : Bytes) :
    Except IoFault FileTree := do
  let l ← t.resolveEntry folder path
  match t.get? l with
  | none => .error .notFound
  | some .directory => if (t.names l).isEmpty then return t.erase l else .error .notEmpty
  | some _ => .error .notDirectory

/-- The names in the directory that a path leads to. -/
def list (t : FileTree) (folder : Location) (path : Bytes) : Except IoFault (List FileName) := do
  match ← t.find folder path with
  | (l, .directory) => return t.names l
  | _ => .error .notDirectory

end FileTree

end DataStaging
