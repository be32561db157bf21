import DataStaging.Text.Parts

/-!
# Paths

A path is a text of components joined by `/`. Joining never normalises: an absolute right side
replaces the left one, and otherwise one separator stands between the two.
-/

namespace DataStaging.Path

/-- Joins two paths given as characters. -/
def joinChars (left right : List Char) : List Char :=
  if right.head? = some '/' then right
  else if left.isEmpty || left.getLast? = some '/' then left ++ right
  else left ++ '/' :: right

/-- The path `right` as seen from the folder `left`. -/
def join (left right : String) : String := String.ofList (joinChars left.toList right.toList)

/-- The parts of a path that name something: empty parts and `.` name nothing. -/
def names (path : List Char) : List (List Char) :=
  (Parts.cutAt '/' path).filter (fun p => p ≠ [] ∧ p ≠ ['.'])

/-- Whether a path begins at the top of the file system. -/
def isAbsolute (path : List Char) : Bool := path.head? = some '/'

/-- Whether some component of a path leads upward. -/
def leadsUp (path : List Char) : Bool := (names path).any (· == ['.', '.'])

/-- Drops the separators and the `.` components at the end. -/
def dropIdleEnd (path : List Char) : Nat → List Char
  | 0 => path
  | fuel + 1 =>
    match path.reverse with
    | '/' :: rest => if rest = [] then path else dropIdleEnd rest.reverse fuel
    | '.' :: '/' :: rest => dropIdleEnd ('/' :: rest).reverse fuel
    | _ => path

/-- The characters up to the last separator, and none if there is no separator. -/
def uptoSeparator : List Char → List Char
  | [] => []
  | c :: rest =>
    match uptoSeparator rest with
    | [] => if c = '/' then [c] else []
    | upto => c :: upto

/-- The folder that holds a path: its last component and what is idle around it are cut off. The top
    and the empty path have none. -/
def parent? (path : List Char) : Option (List Char) :=
  let trimmed := dropIdleEnd path path.length
  if trimmed = [] || trimmed = ['/'] then none
  else some (dropIdleEnd (uptoSeparator trimmed) path.length)

example : parent? "/task/a/.".toList = some "/task".toList := by decide +kernel
example : parent? "/task/".toList = some "/".toList := by decide +kernel
example : parent? "a".toList = some [] := by decide +kernel

end DataStaging.Path
