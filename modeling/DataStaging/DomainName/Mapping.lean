import DataStaging.DomainName.MappingTable
import DataStaging.DomainName.Rows
import DataStaging.Text.Digit

/-!
# Mapping the characters of a name

Before a domain name is used, each of its characters is replaced by the characters that stand for
it, which may be none, one or several. A character without such characters makes the name invalid.
-/

namespace DataStaging.DomainName.Mapping

/-- One item of the mapping table. -/
inductive Item
  /-- Every `step`-th character from `first` to `last` moves as `first` moves to `target`. -/
  | shift (first last step target : Nat)
  /-- Each character of a range becomes the same characters. -/
  | constant (first last : Nat) (targets : List Nat)
  /-- What the characters from `first` on become, one after the other. -/
  | listed (first : Nat) (targets : List (List Nat))
deriving DecidableEq, Repr

namespace Item

/-- What a code point becomes, if the item says so. -/
def targets? (item : Item) (n : Nat) : Option (List Nat) :=
  match item with
  | shift first last step target =>
    if first ≤ n && n ≤ last && (n - first) % step = 0 then some [target + (n - first)] else none
  | constant first last targets => if first ≤ n && n ≤ last then some targets else none
  | listed first targets => if first ≤ n then targets[n - first]? else none

/-- The code points of a target: `_` is none, and points join several. -/
def targets (word : List Char) : List Nat :=
  if word = ['_'] then [] else (Parts.cutAt '.' word).map Rows.codePoint

/-- The words of an item, without the blanks around it. -/
def words (text : List Char) : List (List Char) :=
  (Parts.cutAt ' ' text).filter (fun word => !word.isEmpty)

/-- Reads an item of the mapping table. -/
def ofText (text : List Char) : Item :=
  match words text with
  | [] => listed 0 []
  | place :: said =>
    match Parts.cutAt '=' place, Parts.cutAt '/' place with
    | ranged :: _ :: _, _ =>
      constant (Rows.range ranged).1 (Rows.range ranged).2 (targets (said.headD []))
    | _, ranged :: step :: _ =>
      shift (Rows.range ranged).1 (Rows.range ranged).2 (Rows.codePoint step)
        (Rows.codePoint (said.headD []))
    | _, _ =>
      if place.contains '-' then
        shift (Rows.range place).1 (Rows.range place).2 1 (Rows.codePoint (said.headD []))
      else listed (Rows.codePoint place) (said.map targets)

end Item

/-- The characters that stand for themselves. -/
def validRanges : List (Nat × Nat) := Rows.ranges MappingTable.validRows

/-- What other characters become. -/
def items : List Item :=
  MappingTable.mappedRows.flatMap (fun row => (Parts.cutAt ';' row.toList).map Item.ofText)

/-- The characters that stand for a character, if it may stand in a name. -/
def mapChar (c : Char) : Option (List Char) :=
  if Digit.inRanges validRanges c.toNat then some [c]
  else (items.findSome? (fun item => item.targets? c.toNat)).map (·.map Char.ofNat)

/-- The characters that stand for those of a name. -/
def mapAll (text : List Char) : Option (List Char) := (text.mapM mapChar).map List.flatten

end DataStaging.DomainName.Mapping
