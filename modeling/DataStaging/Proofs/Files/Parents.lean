import DataStaging.Proofs.Files.Steps
import DataStaging.Proofs.Files.Walk
import DataStaging.Proofs.Mount.Beginnings

/-!
# The parent of a path

A path's parent is its beginning without the last component that names something, whatever idle
parts stand before and after that component. A parent never ends with an idle part itself.

Results:
* `parent_spec`: the names of a parent are those of the path but the last.
* `names_of_parent_eq_none`: only a path without names has no parent.
-/

namespace DataStaging

open Utf8 (encodeChars)
open Shared (IsFolder cut)

namespace FileTree

/-- The steps of a path's text that name something. -/
def textNames (path : List Char) : List FileName := named (steps (encodeChars path))

/-! ## Texts in two parts -/

theorem textNames_append_of_isFolder {a : List Char} (ha : IsFolder a) (b : List Char) :
    textNames (a ++ b) = textNames a ++ textNames b := by
  rw [textNames, steps_append_of_folder ha, named_append]
  rfl

/-- A text without separators is one step, if it is not empty. -/
theorem steps_of_component {a : List Char} (hne : a ≠ []) (ha : '/' ∉ a) :
    steps (encodeChars a) = [encodeChars a] :=
  steps_of_not_mem (fun h => hne (Utf8.encodeChars_eq_nil.mp h)) (slash_not_mem_encodeChars ha)

theorem uptoSeparator_eq_cut (path : List Char) : Path.uptoSeparator path = cut path := by
  induction path with
  | nil => rfl
  | cons c path ih => cases hcut : cut path <;> simp [Path.uptoSeparator, cut, ih, hcut]

/-! ## Idle ends -/

theorem bare_dropIdleEnd {path : List Char} {fuel : Nat} (h : path.length ≤ fuel) :
    Bare (Path.dropIdleEnd path fuel) := by
  induction fuel generalizing path with
  | zero =>
    obtain rfl : path = [] := List.length_eq_zero_iff.mp (Nat.le_zero.mp h)
    exact ⟨fun hlast => (by cases hlast), by simp [Path.dropIdleEnd]⟩
  | succ fuel ih =>
    rcases dropIdleEnd_cases path fuel with
      ⟨before, -, hpath, hdrop⟩ | ⟨before, hpath, hdrop⟩ | ⟨hbare, hdrop⟩
    · rw [hpath, List.length_append, List.length_singleton] at h
      rw [hdrop]
      exact ih (Nat.le_of_succ_le_succ h)
    · rw [hpath, List.length_append, List.length_singleton] at h
      rw [hdrop]
      exact ih (Nat.le_of_succ_le_succ h)
    · rwa [hdrop]

theorem textNames_dropIdleEnd (path : List Char) (fuel : Nat) :
    textNames (Path.dropIdleEnd path fuel) = textNames path := by
  induction fuel generalizing path with
  | zero => rfl
  | succ fuel ih =>
    rcases dropIdleEnd_cases path fuel with
      ⟨before, -, hpath, hdrop⟩ | ⟨before, hpath, hdrop⟩ | ⟨-, hdrop⟩
    · rw [hdrop, ih, hpath, textNames, textNames, Utf8.encodeChars_append, encodeChars_slash,
        steps_append_slash]
      exact congrArg named (List.append_nil _).symm
    · have hfolder : IsFolder (before ++ ['/']) := Or.inr (by simp)
      rw [hdrop, ih, hpath, textNames_append_of_isFolder hfolder]
      exact (List.append_nil _).symm
    · rw [hdrop]

theorem dropIdleEnd_isPrefix (path : List Char) (fuel : Nat) :
    Path.dropIdleEnd path fuel <+: path := by
  induction fuel generalizing path with
  | zero => exact List.prefix_rfl
  | succ fuel ih =>
    rcases dropIdleEnd_cases path fuel with
      ⟨before, -, hpath, hdrop⟩ | ⟨before, hpath, hdrop⟩ | ⟨-, hdrop⟩
    · rw [hdrop]
      exact (ih _).trans (hpath ▸ List.prefix_append _ _)
    · rw [hdrop]
      exact (ih _).trans (hpath ▸ List.prefix_append _ _)
    · exact ⟨[], by rw [hdrop, List.append_nil]⟩

/-- A path without an idle end is the top, or a folder and a component after it; a dot is such a
    component only by itself. -/
theorem cases_of_bare {path : List Char} (h : Bare path) (hne : path ≠ []) (htop : path ≠ ['/']) :
    ∃ component, path = cut path ++ component ∧ component ≠ [] ∧ '/' ∉ component ∧
      (component = ['.'] → cut path = []) := by
  obtain ⟨component, hpath, hno⟩ := Shared.exists_eq_cut_append path
  refine ⟨component, hpath, ?_, hno, ?_⟩
  · rintro rfl
    rw [List.append_nil] at hpath
    rcases Shared.isFolder_cut path with hnil | hlast
    · exact hne (hpath.trans hnil)
    · rw [← hpath] at hlast
      exact htop (h.eq_top hlast)
  · rintro rfl
    refine (Shared.isFolder_cut path).resolve_right fun hlast => h.not_idle ?_
    obtain ⟨before, hbefore⟩ := List.getLast?_eq_some_iff.mp hlast
    rw [hpath, hbefore, List.append_assoc]
    exact List.suffix_append _ _

/-- A path without an idle end that has names ends with one. -/
theorem exists_name_of_bare {path : List Char} (h : Bare path) (hnames : textNames path ≠ []) :
    ∃ before name, steps (encodeChars path) = before ++ [name] ∧ name ≠ here := by
  have hne : path ≠ [] := by
    rintro rfl
    exact hnames rfl
  have htop : path ≠ ['/'] := by
    rintro rfl
    exact hnames rfl
  obtain ⟨component, hpath, hcomponent, hno, hdot⟩ := cases_of_bare h hne htop
  refine ⟨steps (encodeChars (cut path)), encodeChars component, ?_, fun hhere => ?_⟩
  · rw [← steps_of_component hcomponent hno, ← steps_append_of_folder (Shared.isFolder_cut path),
      ← hpath]
  · obtain rfl := eq_of_encodeChars_here hhere
    rw [hpath, hdot rfl] at hnames
    exact hnames rfl

/-! ## Parents -/

/-- A path's parent is its beginning; its names are those of the path but the last; and it has no
    idle end. -/
theorem parent_spec {path parent : List Char} (h : Path.parent? path = some parent) :
    parent <+: path ∧ textNames parent = (textNames path).dropLast ∧ Bare parent := by
  unfold Path.parent? at h
  simp only [uptoSeparator_eq_cut] at h
  split_ifs at h with htrimmed
  obtain rfl := Option.some.inj h
  simp only [Bool.or_eq_true, decide_eq_true_eq, not_or] at htrimmed
  obtain ⟨component, hpath, hcomponent, hno, hdot⟩ :=
    cases_of_bare (bare_dropIdleEnd (Nat.le_refl path.length)) htrimmed.1 htrimmed.2
  have hprefix := dropIdleEnd_isPrefix path path.length
  have hnames := textNames_dropIdleEnd path path.length
  revert hpath hdot hprefix hnames
  generalize Path.dropIdleEnd path path.length = trimmed
  intro hpath hdot hprefix hnames
  have hcut : cut trimmed <+: path := (Shared.cut_isPrefix trimmed).trans hprefix
  refine ⟨(dropIdleEnd_isPrefix _ _).trans hcut, ?_, bare_dropIdleEnd hcut.length_le⟩
  rw [textNames_dropIdleEnd, ← hnames, hpath, textNames_append_of_isFolder
    (Shared.isFolder_cut trimmed), ← hpath]
  by_cases hidle : component = ['.']
  · rw [hdot hidle, hidle]
    rfl
  · have hone : textNames component = [encodeChars component] := by
      rw [textNames, steps_of_component hcomponent hno]
      exact named_singleton fun hhere => hidle (eq_of_encodeChars_here hhere)
    rw [hone, List.dropLast_concat]

theorem names_of_parent_eq_none {path : List Char} (h : Path.parent? path = none) :
    textNames path = [] := by
  unfold Path.parent? at h
  simp only at h
  split_ifs at h with htrimmed
  rw [Bool.or_eq_true, decide_eq_true_eq, decide_eq_true_eq] at htrimmed
  rw [← textNames_dropIdleEnd path path.length]
  rcases htrimmed with hnil | htop
  · rw [hnil]
    rfl
  · rw [htop]
    rfl

/-! ## How many names there are -/

theorem length_cutAt_le (separator : Char) (text : List Char) :
    (Parts.cutAt separator text).length ≤ text.length + 1 := by
  induction text with
  | nil => exact Nat.le_refl 1
  | cons c text ih =>
    rw [Parts.cutAt]
    split_ifs
    · exact Nat.succ_le_succ ih
    · split
      · exact Nat.le_add_left 1 _
      · rename_i heq
        rw [heq] at ih
        exact Nat.le_succ_of_le ih

theorem length_textNames_le (path : List Char) : (textNames path).length ≤ path.length + 1 := by
  rw [textNames, steps_encodeChars]
  refine Nat.le_trans (List.length_filter_le _ _) ?_
  rw [List.length_map]
  exact Nat.le_trans (List.length_filter_le _ _) (length_cutAt_le '/' path)

end FileTree

end DataStaging
