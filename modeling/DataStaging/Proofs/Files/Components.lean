import DataStaging.Path
import Mathlib.Data.List.Basic
import Mathlib.Tactic.Common

/-!
# The components of a path

A path is compared with another one component by component. The components are told by the text
alone: neither links nor what `..` leads to matter.

Results:
* `parts_join`, `fileName?_join`: the components of a path seen from a folder, and the last one.
* `liesUnder_join_iff`: when such a path lies under the folder.
-/

namespace DataStaging

namespace Parts

theorem cutAt_of_not_mem {separator : Char} {text : List Char} (h : separator ∉ text) :
    cutAt separator text = [text] := by
  induction text with
  | nil => rfl
  | cons c rest ih =>
    rw [List.mem_cons, not_or] at h
    rw [cutAt, if_neg (Ne.symm h.1), ih h.2]

/-- A separator ends one part and begins another. -/
theorem cutAt_append (separator : Char) (a b : List Char) :
    cutAt separator (a ++ separator :: b) = cutAt separator a ++ cutAt separator b := by
  induction a with
  | nil => simp [cutAt]
  | cons c a ih =>
    rw [List.cons_append, cutAt, cutAt, ih]
    split_ifs with hc
    · rfl
    · obtain ⟨part, more, hpart⟩ := List.exists_cons_of_ne_nil (cutAt_ne_nil separator a)
      rw [hpart]
      rfl

theorem head?_cutAt_append (separator : Char) (a b : List Char) :
    (cutAt separator (a ++ separator :: b)).head? = (cutAt separator a).head? := by
  rw [cutAt_append, List.head?_append_of_ne_nil _ (cutAt_ne_nil separator a)]

end Parts

namespace Path

/-! ## Components -/

/-- A component of a path. The one that stays is a component only at the front. -/
inductive Part where
  | root
  | here
  | up
  | name (text : List Char)
deriving DecidableEq, Repr

/-- The component of a part that is neither empty nor a single dot. -/
def Part.ofName (text : List Char) : Part := if text = ['.', '.'] then .up else .name text

/-- The component at the front that is no name. -/
def front (path : List Char) : List Part :=
  if path.head? = some '/' then [.root]
  else if (Parts.cutAt '/' path).head? = some ['.'] then [.here]
  else []

def parts (path : List Char) : List Part := front path ++ (names path).map .ofName

/-- The last component of a path, if it is a name. -/
def fileName? (path : List Char) : Option (List Char) :=
  match (parts path).getLast? with
  | some (.name text) => some text
  | _ => none

/-- The components of `path` begin with those of `folder`, and none after them leads upward. -/
def LiesUnder (folder path : List Char) : Prop :=
  ∃ rest, parts path = parts folder ++ rest ∧ .up ∉ rest

variable {folder rest : List Char}

theorem up_mem_map_ofName {texts : List (List Char)} :
    .up ∈ texts.map Part.ofName ↔ ['.', '.'] ∈ texts := by
  rw [List.mem_map]
  constructor
  · rintro ⟨text, htext, hup⟩
    unfold Part.ofName at hup
    split_ifs at hup with hdots
    exact hdots ▸ htext
  · exact fun h => ⟨_, h, if_pos rfl⟩

theorem leadsUp_eq_false_iff {path : List Char} :
    leadsUp path = false ↔ ['.', '.'] ∉ names path := by
  rw [leadsUp, List.any_eq_false]
  refine ⟨fun h hmem => h _ hmem (by decide), fun h text htext hdots => h ?_⟩
  exact beq_iff_eq.mp hdots ▸ htext

theorem up_not_mem_front (path : List Char) : .up ∉ front path := by
  unfold front
  split_ifs <;> simp

/-! ## Joined paths -/

theorem names_append (a b : List Char) : names (a ++ '/' :: b) = names a ++ names b := by
  unfold names
  rw [Parts.cutAt_append, List.filter_append]

theorem front_append {a : List Char} (ha : a ≠ []) (b : List Char) :
    front (a ++ '/' :: b) = front a := by
  unfold front
  rw [List.head?_append_of_ne_nil _ ha, Parts.head?_cutAt_append]

/-- What follows a folder adds its names, and its front if the folder is empty. -/
theorem parts_join (hrest : rest.head? ≠ some '/') : parts (joinChars folder rest) =
    parts folder ++ ((if folder = [] then front rest else []) ++ (names rest).map .ofName) := by
  unfold joinChars
  rw [if_neg hrest]
  by_cases hnil : folder = []
  · subst hnil
    rfl
  · rw [if_neg hnil, List.nil_append, List.isEmpty_eq_false_iff.mpr hnil, Bool.false_or]
    simp only [decide_eq_true_eq]
    split_ifs with hlast
    · -- the folder ends with the separator itself
      obtain ⟨before, rfl⟩ := List.getLast?_eq_some_iff.mp hlast
      rw [List.append_assoc, List.singleton_append]
      unfold parts
      rw [names_append, names_append, List.map_append, List.map_append]
      have hfront : front (before ++ '/' :: rest) = front (before ++ ['/']) := by
        by_cases hbefore : before = []
        · subst hbefore
          rfl
        · rw [front_append hbefore, front_append hbefore]
      rw [hfront]
      simp [names, Parts.cutAt]
    · unfold parts
      rw [names_append, front_append hnil, List.map_append, List.append_assoc]

/-- A name that is seen from a folder is the last component. -/
theorem fileName?_join (folder : List Char) {name : List Char} (hsep : '/' ∉ name)
    (hnil : name ≠ []) (hhere : name ≠ ['.']) (hup : name ≠ ['.', '.']) :
    fileName? (joinChars folder name) = some name := by
  have hhead : name.head? ≠ some '/' := fun h => hsep (List.mem_of_mem_head? h)
  have hnames : names name = [name] := by simp [names, Parts.cutAt_of_not_mem hsep, hnil, hhere]
  unfold fileName?
  rw [parts_join hhead, hnames, List.map_singleton, Part.ofName, if_neg hup, ← List.append_assoc,
    List.getLast?_concat]

/-- A path that is seen from a folder lies under it if no component leads upward; an absolute one
    has nothing to do with the folder. -/
theorem liesUnder_join_iff : LiesUnder folder (joinChars folder rest) ↔
    if isAbsolute rest then LiesUnder folder rest else leadsUp rest = false := by
  unfold isAbsolute
  split_ifs with habs
  · rw [joinChars, if_pos (by simpa using habs)]
  · rw [leadsUp_eq_false_iff, ← up_mem_map_ofName.not]
    unfold LiesUnder
    rw [parts_join (by simpa using habs)]
    constructor
    · rintro ⟨more, hmore, hup⟩ hmem
      rw [← List.append_cancel_left hmore] at hup
      exact hup (List.mem_append_right _ hmem)
    · intro hup
      refine ⟨_, rfl, fun hmem => ?_⟩
      rcases List.mem_append.mp hmem with hfront | hnames
      · split_ifs at hfront
        · exact up_not_mem_front rest hfront
        · cases hfront
      · exact hup hnames

example : parts "/mnt/./s3_b//x/..".toList =
    [.root, .name "mnt".toList, .name "s3_b".toList, .name "x".toList, .up] := by decide +kernel

end Path

end DataStaging
