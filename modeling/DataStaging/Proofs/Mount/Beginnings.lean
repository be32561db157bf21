import DataStaging.Mount.Shared
import Mathlib.Data.List.Basic
import Mathlib.Tactic.Common

/-!
# What texts have in common

A text is a *folder* if it is empty or ends with a separator. What `Shared.common` and `Shared.meet`
give is told by its beginnings: `common` has the beginnings that both texts have, and `meet` has
those of them that are folders. So the order in which texts are met, and how often, cannot matter.

Results:
* `prefix_common_iff`, `prefix_meet_iff`: the beginnings of what two texts have in common.
* `prefix_foldl_meet_iff`: the folders that begin what many texts have in common.
* `foldl_meet_eq_cut`: meeting texts one by one cuts back what all of them have in common.
* `foldl_meet_perm`, `cut_foldl_meet_congr`: the order does not matter; cut back, nor does how often
  a text is met.
-/

namespace DataStaging.Shared

variable {a b p u c d : List Char} {us : List (List Char)}

/-! ## Folders -/

/-- A text that is empty or ends with a separator. -/
def IsFolder (p : List Char) : Prop := p = [] ∨ p.getLast? = some '/'

theorem getLast?_cut (a : List Char) : cut a = [] ∨ (cut a).getLast? = some '/' := by
  induction a with
  | nil => exact Or.inl rfl
  | cons c a ih =>
    rw [cut]
    split
    · split_ifs with hc
      · right
        rw [hc]
        rfl
      · exact Or.inl rfl
    · rename_i upto hne
      right
      rcases ih with h | h
      · exact absurd h hne
      · rw [List.getLast?_cons_of_ne_nil hne]
        exact h

theorem isFolder_cut (a : List Char) : IsFolder (cut a) := getLast?_cut a

/-- What is cut off holds no separator. -/
theorem exists_eq_cut_append (a : List Char) : ∃ tail, a = cut a ++ tail ∧ '/' ∉ tail := by
  induction a with
  | nil => exact ⟨[], rfl, List.not_mem_nil⟩
  | cons c a ih =>
    obtain ⟨tail, ha, htail⟩ := ih
    rw [cut]
    cases hcut : cut a with
    | nil =>
      rw [hcut, List.nil_append] at ha
      by_cases hc : c = '/'
      · exact ⟨tail, by simp [hc, ha], htail⟩
      · refine ⟨c :: tail, by simp [hc, ha], ?_⟩
        rw [List.mem_cons, not_or]
        exact ⟨Ne.symm hc, htail⟩
    | cons x upto =>
      refine ⟨tail, ?_, htail⟩
      rw [hcut] at ha
      exact congrArg (List.cons c) ha

/-- A folder that begins a text begins what is left of it when it is cut back. -/
theorem prefix_cut_iff (hp : IsFolder p) : p <+: cut a ↔ p <+: a := by
  refine ⟨fun h => h.trans (cut_isPrefix a), fun h => ?_⟩
  rcases hp with rfl | hlast
  · exact List.nil_prefix
  · obtain ⟨tail, ha, htail⟩ := exists_eq_cut_append a
    rcases List.prefix_or_prefix_of_prefix h (cut_isPrefix a) with hle | ⟨more, rfl⟩
    · exact hle
    · -- the rest of `p` lies in the tail, where no separator is
      replace h : more <+: tail := (List.prefix_append_right_inj (cut a)).mp (ha ▸ h)
      rcases List.eq_nil_or_concat' more with rfl | ⟨rest, last, rfl⟩
      · exact (List.append_nil (cut a)).symm ▸ List.prefix_rfl
      · rw [← List.append_assoc, List.getLast?_concat, Option.some.injEq] at hlast
        subst hlast
        exact absurd (h.subset (List.mem_append_right _ List.mem_cons_self)) htail

/-! ## Two texts -/

theorem prefix_common_iff : p <+: common a b ↔ p <+: a ∧ p <+: b := by
  refine ⟨fun h => ⟨h.trans (common_isPrefix_left a b), h.trans (common_isPrefix_right a b)⟩, ?_⟩
  rintro ⟨ha, hb⟩
  induction p generalizing a b with
  | nil => exact List.nil_prefix
  | cons x p ih =>
    cases a with
    | nil => exact absurd ha (by simp)
    | cons y a =>
      cases b with
      | nil => exact absurd hb (by simp)
      | cons z b =>
        obtain ⟨rfl, hpa⟩ := List.cons_prefix_cons.mp ha
        obtain ⟨rfl, hpb⟩ := List.cons_prefix_cons.mp hb
        rw [common, if_pos rfl]
        exact List.cons_prefix_cons.mpr ⟨rfl, ih hpa hpb⟩

theorem prefix_meet_iff (hp : IsFolder p) : p <+: meet a b ↔ p <+: a ∧ p <+: b := by
  rw [meet, prefix_cut_iff hp, prefix_common_iff]

/-! ## Many texts -/

/-- The longest beginning that all the texts have. -/
def IsCommonStart (us : List (List Char)) (c : List Char) : Prop :=
  (∀ u ∈ us, c <+: u) ∧ ∀ p, (∀ u ∈ us, p <+: u) → p.length ≤ c.length

/-- The longest text that ends with a separator and begins all the texts. -/
def IsLongestFolder (us : List (List Char)) (d : List Char) : Prop :=
  (d.getLast? = some '/' ∧ ∀ u ∈ us, d <+: u) ∧
    ∀ p, p.getLast? = some '/' → (∀ u ∈ us, p <+: u) → p.length ≤ d.length

theorem prefix_foldl_common_iff : p <+: us.foldl common u ↔ ∀ v ∈ u :: us, p <+: v := by
  induction us generalizing u with
  | nil => simp
  | cons v us ih => simp [ih, prefix_common_iff, and_assoc]

theorem isCommonStart_foldl (u : List Char) (us : List (List Char)) :
    IsCommonStart (u :: us) (us.foldl common u) :=
  ⟨prefix_foldl_common_iff.mp List.prefix_rfl,
    fun _ hp => (prefix_foldl_common_iff.mpr hp).length_le⟩

theorem prefix_foldl_meet_iff (hp : IsFolder p) :
    p <+: us.foldl meet u ↔ ∀ v ∈ u :: us, p <+: v := by
  induction us generalizing u with
  | nil => simp
  | cons v us ih => simp [ih, prefix_meet_iff hp, and_assoc]

/-- What texts come to begins each of them. -/
theorem foldl_meet_isPrefix (u : List Char) (us : List (List Char)) :
    ∀ v ∈ u :: us, us.foldl meet u <+: v := by
  induction us generalizing u with
  | nil => simp
  | cons w us ih =>
    have hmeet : (w :: us).foldl meet u <+: meet u w := ih (meet u w) _ List.mem_cons_self
    have hcommon : (w :: us).foldl meet u <+: common u w := hmeet.trans (cut_isPrefix _)
    intro v hv
    rcases List.mem_cons.mp hv with rfl | hv
    · exact hcommon.trans (common_isPrefix_left _ _)
    · rcases List.mem_cons.mp hv with rfl | hv
      · exact hcommon.trans (common_isPrefix_right _ _)
      · exact ih (meet u w) v (List.mem_cons_of_mem _ hv)

/-- What two or more texts come to is a folder. -/
theorem isFolder_foldl_meet (hus : us ≠ []) : IsFolder (us.foldl meet u) := by
  rcases List.eq_nil_or_concat' us with rfl | ⟨us, v, rfl⟩
  · exact absurd rfl hus
  · rw [List.foldl_append]
    exact isFolder_cut _

/-- Folders with the same folders as beginnings are the same. -/
theorem eq_of_prefix_iff (hc : IsFolder c) (hd : IsFolder d)
    (h : ∀ p, IsFolder p → (p <+: c ↔ p <+: d)) : c = d := by
  have hcd : c <+: d := (h c hc).mp List.prefix_rfl
  have hdc : d <+: c := (h d hd).mpr List.prefix_rfl
  exact hcd.eq_of_length_le hdc.length_le

/-- Texts met one by one come to what all of them have in common, cut back once. -/
theorem foldl_meet_eq_cut (hus : us ≠ []) : us.foldl meet u = cut (us.foldl common u) := by
  refine eq_of_prefix_iff (isFolder_foldl_meet hus) (isFolder_cut _) fun p hp => ?_
  rw [prefix_foldl_meet_iff hp, prefix_cut_iff hp, prefix_foldl_common_iff]

/-- The order does not matter. -/
theorem foldl_meet_perm {v : List Char} {vs : List (List Char)} (h : (u :: us).Perm (v :: vs)) :
    us.foldl meet u = vs.foldl meet v := by
  rcases eq_or_ne us [] with rfl | hus
  · -- a single text is not cut back
    obtain ⟨rfl, rfl⟩ := List.cons.inj (List.perm_singleton.mp h.symm)
    rfl
  · have hvs : vs ≠ [] := by
      rintro rfl
      exact hus (List.cons.inj (List.perm_singleton.mp h)).2
    refine eq_of_prefix_iff (isFolder_foldl_meet hus) (isFolder_foldl_meet hvs) fun p hp => ?_
    rw [prefix_foldl_meet_iff hp, prefix_foldl_meet_iff hp]
    simp only [h.mem_iff]

/-- Cut back, what texts come to depends on which texts there are. -/
theorem cut_foldl_meet_congr {v : List Char} {vs : List (List Char)}
    (h : ∀ t, t ∈ u :: us ↔ t ∈ v :: vs) : cut (us.foldl meet u) = cut (vs.foldl meet v) := by
  refine eq_of_prefix_iff (isFolder_cut _) (isFolder_cut _) fun p hp => ?_
  rw [prefix_cut_iff hp, prefix_cut_iff hp, prefix_foldl_meet_iff hp, prefix_foldl_meet_iff hp]
  simp only [h]

theorem isLongestFolder_cut_foldl_meet (hne : cut (us.foldl meet u) ≠ []) :
    IsLongestFolder (u :: us) (cut (us.foldl meet u)) := by
  have hfolder := isFolder_cut (us.foldl meet u)
  refine ⟨⟨hfolder.resolve_left hne, ?_⟩, fun p hlast hp => ?_⟩
  · exact (prefix_foldl_meet_iff hfolder).mp ((prefix_cut_iff hfolder).mp List.prefix_rfl)
  · have hp' : p <+: us.foldl meet u := (prefix_foldl_meet_iff (Or.inr hlast)).mpr hp
    exact ((prefix_cut_iff (Or.inr hlast)).mpr hp').length_le

end DataStaging.Shared
