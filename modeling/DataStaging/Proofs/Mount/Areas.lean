import DataStaging.Proofs.Mount.Folding
import Mathlib.Data.List.Forall2

/-!
# Areas by the texts that were recorded

The rows of a table, as far as they are needed to serve them, are told by the set of the texts that
were recorded: their bases, in order, and their areas do not show how often a text was recorded.

Results:
* `areas_recordAll`: tables of the same texts have the same bases and areas.
-/

namespace DataStaging

/-- Rows of the same base whose areas are the same. -/
def MountRow.SameArea (row row' : MountRow) : Prop := row'.base = row.base ∧ row'.area = row.area

namespace MountTable

variable {base : String} {texts texts' us vs : List String} {rows rows' : List MountRow}

theorem area_foldedRow_congr (h : ∀ u, u ∈ us ↔ u ∈ vs) :
    (foldedRow base us).map MountRow.area = (foldedRow base vs).map MountRow.area := by
  cases us with
  | nil =>
    obtain rfl : vs = [] := List.eq_nil_iff_forall_not_mem.mpr fun u hu =>
      absurd ((h u).mpr hu) List.not_mem_nil
    rfl
  | cons u us =>
    cases vs with
    | nil => exact absurd ((h u).mp List.mem_cons_self) List.not_mem_nil
    | cons v vs =>
      refine congrArg some (String.toList_injective ?_)
      have hsame : ∀ t, t ∈ u.toList :: us.map String.toList ↔
          t ∈ v.toList :: vs.map String.toList := by
        intro t
        rw [← List.map_cons, ← List.map_cons, List.mem_map, List.mem_map]
        simp only [h]
      rw [toList_area, toList_area, String.toList_ofList, String.toList_ofList,
        Shared.cut_foldl_meet_congr hsame]

/-- Rows with the same areas under the same bases, each in order, are the same but for what they
    share. -/
theorem sameArea_of_find? (h : Ascending rows) (h' : Ascending rows')
    (hfind : ∀ b, (rows.find? (fun r => r.base == b)).map MountRow.area =
      (rows'.find? (fun r => r.base == b)).map MountRow.area) :
    List.Forall₂ MountRow.SameArea rows rows' := by
  let f : MountRow → String × String := fun row => (row.base, row.area)
  have hmem : ∀ {rows : List MountRow}, Ascending rows → ∀ p, p ∈ rows.map f ↔
      (rows.find? (fun r => r.base == p.1)).map MountRow.area = some p.2 := by
    intro rows hrows p
    rw [List.mem_map, Option.map_eq_some_iff]
    refine exists_congr fun row => ?_
    rw [find?_eq_some_iff_of_ascending hrows, Prod.ext_iff, and_assoc]
  have hpairwise : ∀ {rows : List MountRow}, Ascending rows →
      (rows.map f).Pairwise (fun p q => p.1 < q.1) := fun hrows => List.pairwise_map.mpr hrows
  have hnodup : ∀ {rows : List MountRow}, Ascending rows → (rows.map f).Nodup := fun hrows =>
    (hpairwise hrows).imp fun hlt heq => absurd (congrArg Prod.fst heq) hlt.ne
  have hperm : (rows.map f).Perm (rows'.map f) := by
    refine (List.perm_ext_iff_of_nodup (hnodup h) (hnodup h')).mpr fun p => ?_
    rw [hmem h, hmem h', hfind]
  have heq : rows.map f = rows'.map f :=
    hperm.eq_of_pairwise (fun p q _ _ hlt hlt' => absurd hlt hlt'.asymm) (hpairwise h)
      (hpairwise h')
  rw [← List.forall₂_eq_eq_eq, List.forall₂_map_left_iff, List.forall₂_map_right_iff] at heq
  exact heq.imp fun row row' hrow => ⟨(Prod.ext_iff.mp hrow).1.symm, (Prod.ext_iff.mp hrow).2.symm⟩

/-- Tables of the same texts have the same bases and areas. -/
theorem areas_recordAll (h : ∀ u, u ∈ texts ↔ u ∈ texts') :
    List.Forall₂ MountRow.SameArea (recordAll texts .empty).rows
      (recordAll texts' .empty).rows := by
  obtain ⟨hascending, hfind⟩ := recordAll_spec texts
  obtain ⟨hascending', hfind'⟩ := recordAll_spec texts'
  refine sameArea_of_find? hascending hascending' fun b => ?_
  have hfold : (foldedRow b (ofBase b texts)).map MountRow.area =
      (foldedRow b (ofBase b texts')).map MountRow.area :=
    area_foldedRow_congr fun u => by simp only [ofBase, List.mem_filter, h]
  rw [← hfind, ← hfind'] at hfold
  exact hfold

end MountTable

end DataStaging
