import DataStaging.Proofs.Mount.Beginnings
import DataStaging.Proofs.Mount.Table
import Mathlib.Data.List.Induction
import Mathlib.Data.List.Perm.Basic
import Mathlib.Data.String.Basic

/-!
# Recording many locators

The row of a base is folded together from the texts of its locators, in the order in which they are
recorded and in between those of other bases. What comes out does not show that order.

Results:
* `recordAll_spec`: a row is the fold of the texts of its base.
* `eq_of_find?_eq`: tables are the same that know the same rows.
* `row_of_recordAll`: what is shared, the area and the whole table, by the texts that were recorded.
-/

namespace DataStaging.MountTable

variable {table : MountTable} {base text : String} {rows rows' : List MountRow}

/-! ## Rows in order -/

/-- Each base has one row, and the rows ascend. -/
def Ascending (rows : List MountRow) : Prop := rows.Pairwise (fun r r' => r.base < r'.base)

theorem ascending_recordInto (h : Ascending rows) : Ascending (recordInto base text rows) := by
  induction rows with
  | nil => exact List.pairwise_singleton _ _
  | cons first rest ih =>
    obtain ⟨hfirst, hrest⟩ := List.pairwise_cons.mp h
    rw [recordInto]
    split_ifs with h1 h2
    · exact List.pairwise_cons.mpr ⟨hfirst, hrest⟩
    · refine List.pairwise_cons.mpr ⟨fun row hrow => ?_, h⟩
      rcases List.mem_cons.mp hrow with rfl | hrow
      · exact h2
      · exact h2.trans (hfirst row hrow)
    · refine List.pairwise_cons.mpr ⟨fun row hrow => ?_, ih hrest⟩
      rcases mem_bases_recordInto.mp (List.mem_map_of_mem hrow) with hbase | hmem
      · rw [hbase]
        exact lt_of_le_of_ne (not_lt.mp h2) h1
      · obtain ⟨row', hrow', hbase⟩ := List.mem_map.mp hmem
        rw [← hbase]
        exact hfirst row' hrow'

theorem find?_eq_some_iff_of_ascending (h : Ascending rows) (row : MountRow) (b : String) :
    rows.find? (fun r => r.base == b) = some row ↔ row ∈ rows ∧ row.base = b := by
  induction rows with
  | nil => simp
  | cons first rest ih =>
    obtain ⟨hfirst, hrest⟩ := List.pairwise_cons.mp h
    rw [List.find?_cons, List.mem_cons]
    by_cases hb : first.base = b
    · simp only [hb, beq_self_eq_true, Option.some.injEq]
      constructor
      · rintro rfl
        exact ⟨Or.inl rfl, hb⟩
      · rintro ⟨rfl | hrow, hbase⟩
        · rfl
        · exact absurd (hb.trans hbase.symm) (hfirst row hrow).ne
    · simp only [beq_eq_false_iff_ne.mpr hb, ih hrest]
      constructor
      · rintro ⟨hrow, hbase⟩
        exact ⟨Or.inr hrow, hbase⟩
      · rintro ⟨rfl | hrow, hbase⟩
        · exact absurd hbase hb
        · exact ⟨hrow, hbase⟩

/-- Tables are the same that know the same rows. -/
theorem eq_of_find?_eq (h : Ascending rows) (h' : Ascending rows')
    (hfind : ∀ b, rows.find? (fun r => r.base == b) = rows'.find? (fun r => r.base == b)) :
    rows = rows' := by
  have hnodup : ∀ {l : List MountRow}, Ascending l → l.Nodup := fun hl =>
    hl.imp fun hlt heq => absurd (congrArg MountRow.base heq) hlt.ne
  have hmem : ∀ row, row ∈ rows ↔ row ∈ rows' := by
    intro row
    have hrow := find?_eq_some_iff_of_ascending h row row.base
    rw [hfind, find?_eq_some_iff_of_ascending h'] at hrow
    simpa using hrow.symm
  refine ((List.perm_ext_iff_of_nodup (hnodup h) (hnodup h')).mpr hmem).eq_of_pairwise ?_ h h'
  intro row row' _ _ hlt hlt'
  exact absurd hlt hlt'.asymm

/-! ## One record -/

/-- The row of a base after a text was folded into it, or started it. -/
def rowAfter (base text : String) : Option MountRow → MountRow
  | none => ⟨base, none, text⟩
  | some row => { row with shared := String.ofList (Shared.meet row.shared.toList text.toList) }

theorem find?_recordInto_of_base (h : Ascending rows) :
    (recordInto base text rows).find? (fun r => r.base == base) =
      some (rowAfter base text (rows.find? (fun r => r.base == base))) := by
  induction rows with
  | nil => simp [recordInto, rowAfter]
  | cons first rest ih =>
    obtain ⟨hfirst, hrest⟩ := List.pairwise_cons.mp h
    rw [recordInto]
    split_ifs with h1 h2
    · simp [h1, rowAfter]
    · -- the base comes before every row, so it has none yet
      have hnone : (first :: rest).find? (fun r => r.base == base) = none := by
        rw [List.find?_eq_none]
        intro row hrow heq
        have hlt : base < row.base := by
          rcases List.mem_cons.mp hrow with rfl | hrow
          · exact h2
          · exact h2.trans (hfirst row hrow)
        exact hlt.ne (beq_iff_eq.mp heq).symm
      rw [hnone]
      simp [rowAfter]
    · simp only [List.find?_cons, beq_eq_false_iff_ne.mpr h1, ih hrest]

theorem find?_recordInto_of_ne {b : String} (hb : base ≠ b) :
    (recordInto base text rows).find? (fun r => r.base == b) =
      rows.find? (fun r => r.base == b) := by
  induction rows with
  | nil => simp [recordInto, hb]
  | cons first rest ih =>
    rw [recordInto]
    split_ifs with h1 h2
    · simp [h1, hb]
    · simp [hb]
    · simp only [List.find?_cons, ih]

/-! ## Many records -/

/-- Records texts one after another; a text that names no locator is refused. -/
def recordAll (texts : List String) (table : MountTable) : MountTable :=
  texts.foldl (fun t text =>
    match t.recordText text with
    | .ok (_, t') => t'
    | .error _ => t) table

/-- Whether a text names a locator of the base. -/
def isOfBase (base text : String) : Bool :=
  match Locator.parse text with
  | .ok l => l.base = base
  | .error _ => false

/-- The texts that name a locator of the base. -/
def ofBase (base : String) (texts : List String) : List String := texts.filter (isOfBase base)

/-- What the row of a base is after the texts of its locators. -/
def foldedRow (base : String) : List String → Option MountRow
  | [] => none
  | u :: us =>
    some ⟨base, none, String.ofList ((us.map String.toList).foldl Shared.meet u.toList)⟩

theorem foldedRow_concat (us : List String) (u : String) :
    foldedRow base (us ++ [u]) = some (rowAfter base u (foldedRow base us)) := by
  cases us with
  | nil => simp [foldedRow, rowAfter]
  | cons v us => simp [foldedRow, rowAfter]

theorem recordAll_concat (table : MountTable) (texts : List String) (text : String) :
    (recordAll (texts ++ [text]) table = recordAll texts table ∧
      ∀ b, ofBase b (texts ++ [text]) = ofBase b texts) ∨
    ∃ l : Locator, l.text = text ∧
      recordAll (texts ++ [text]) table = (recordAll texts table).record l ∧
      ∀ b, ofBase b (texts ++ [text]) = ofBase b texts ++ if l.base = b then [text] else [] := by
  simp only [recordAll, List.foldl_append, List.foldl_cons, List.foldl_nil, ofBase,
    List.filter_append, List.filter_singleton, isOfBase, recordText]
  cases hparse : Locator.parse text with
  | error fault => exact Or.inl ⟨rfl, fun b => List.append_nil _⟩
  | ok l =>
    refine Or.inr ⟨l, (Locator.read_spec (Locator.parse_eq_ok_iff.mp hparse)).1, rfl, fun b => ?_⟩
    rw [Bool.cond_decide]

/-- A table that locators were recorded in has ascending rows, and the row of a base is the fold of
    the texts of its locators. -/
theorem recordAll_spec (texts : List String) : Ascending (recordAll texts .empty).rows ∧
    ∀ b, (recordAll texts .empty).find? b = foldedRow b (ofBase b texts) := by
  induction texts using List.reverseRecOn with
  | nil => exact ⟨List.Pairwise.nil, fun b => rfl⟩
  | append_singleton texts text ih =>
    obtain ⟨hascending, hfind⟩ := ih
    rcases recordAll_concat .empty texts text with ⟨htable, hof⟩ | h
    · rw [htable]
      exact ⟨hascending, fun b => by rw [hfind, hof]⟩
    · obtain ⟨l, rfl, htable, hof⟩ := h
      rw [htable]
      refine ⟨ascending_recordInto hascending, fun b => ?_⟩
      rw [hof]
      split_ifs with hb
      · subst hb
        rw [foldedRow_concat, ← hfind]
        exact find?_recordInto_of_base hascending
      · rw [List.append_nil, ← hfind]
        exact find?_recordInto_of_ne hb

/-! ## The order of the records -/

theorem foldedRow_perm {us vs : List String} (h : us.Perm vs) :
    foldedRow base us = foldedRow base vs := by
  cases us with
  | nil => rw [List.nil_perm.mp h]
  | cons u us =>
    cases vs with
    | nil => rw [List.perm_nil.mp h]
    | cons v vs => rw [foldedRow, foldedRow, Shared.foldl_meet_perm (h.map String.toList)]

theorem recordAll_perm {texts texts' : List String} (h : texts.Perm texts') :
    recordAll texts .empty = recordAll texts' .empty := by
  obtain ⟨hascending, hfind⟩ := recordAll_spec texts
  obtain ⟨hascending', hfind'⟩ := recordAll_spec texts'
  refine congrArg MountTable.mk (eq_of_find?_eq hascending hascending' fun b => ?_)
  exact (hfind b).trans ((foldedRow_perm (h.filter _)).trans (hfind' b).symm)

/-! ## Areas -/

theorem toList_area (row : MountRow) : row.area.toList =
    if (Utf8.encodeChars (row.base ++ "/").toList).length ≤
        (Utf8.encodeChars (Shared.cut row.shared.toList)).length then
      Shared.cut row.shared.toList
    else (row.base ++ "/").toList := by
  unfold MountRow.area
  simp only
  split_ifs with h h'
  · omega
  · exact String.toList_ofList
  · exact String.toList_ofList
  · omega

/-- The texts of a base begin with the base, and so with its scheme and `://`. -/
theorem exists_scheme_prefix {u : String} (hu : isOfBase base u = true) :
    ∃ p : List Char, p.getLast? = some '/' ∧
      ∀ v, isOfBase base v = true → p <+: v.toList := by
  have hbegins : ∀ v, isOfBase base v = true → ∃ l : Locator, l.base = base ∧
      base.toList <+: v.toList := by
    intro v hv
    unfold isOfBase at hv
    split at hv
    · rename_i l hparse
      obtain rfl := of_decide_eq_true hv
      obtain ⟨-, -, ⟨htext, -⟩ | htext⟩ := Locator.read_spec (Locator.parse_eq_ok_iff.mp hparse)
      · exact ⟨l, rfl, htext ▸ List.prefix_rfl⟩
      · exact ⟨l, rfl, htext ▸ List.prefix_append _ _⟩
    · cases hv
  obtain ⟨l, rfl, -⟩ := hbegins u hu
  refine ⟨l.bucket.scheme.name.toList ++ [':', '/', '/'], by simp, fun v hv => ?_⟩
  obtain ⟨-, -, hv⟩ := hbegins v hv
  refine List.IsPrefix.trans ⟨l.bucket.place.toList, ?_⟩ hv
  rw [Locator.base, Bucket.toList_base]
  simp

/-! ## What was recorded -/

/-- The texts of a base, character by character. -/
def spelled (base : String) (texts : List String) : List (List Char) :=
  (ofBase base texts).map String.toList

/-- What the texts of a base come to begins with the scheme, so it holds a separator. -/
theorem exists_prefix_fold {texts us : List String} {u : String}
    (hus : ofBase base texts = u :: us) : ∃ p : List Char, p.getLast? = some '/' ∧
      p <+: (us.map String.toList).foldl Shared.meet u.toList := by
  have hofBase : ∀ v ∈ u :: us, isOfBase base v = true := by
    intro v hv
    rw [← hus] at hv
    exact (List.mem_filter.mp hv).2
  obtain ⟨p, hlast, hscheme⟩ := exists_scheme_prefix (hofBase u List.mem_cons_self)
  refine ⟨p, hlast, (Shared.prefix_foldl_meet_iff (Or.inr hlast)).mpr fun t ht => ?_⟩
  rw [← List.map_cons] at ht
  obtain ⟨v, hv, rfl⟩ := List.mem_map.mp ht
  exact hscheme v (hofBase v hv)

/-- The row of a base that texts were recorded for is told by these texts. One text is kept as it
    is; of more, the longest common beginning is, cut back to its last separator. The area is the
    longest common beginning that ends with a separator, if it takes as many bytes as the base and a
    separator. The order of the records, and the records of other bases, do not matter; for the
    area, neither does how often a text was recorded. -/
theorem row_of_recordAll {texts : List String} (h : ofBase base texts ≠ []) :
    ∃ row, (recordAll texts .empty).find? base = some row ∧ row.base = base ∧
      (∀ u, ofBase base texts = [u] → row.shared = u) ∧
      (2 ≤ (ofBase base texts).length → ∃ start tail,
        Shared.IsCommonStart (spelled base texts) start ∧
        start = row.shared.toList ++ tail ∧ '/' ∉ tail ∧
        row.shared.toList.getLast? = some '/') ∧
      (∃ d, Shared.IsLongestFolder (spelled base texts) d ∧
        row.area.toList =
          if (Utf8.encodeChars (base ++ "/").toList).length ≤ (Utf8.encodeChars d).length then d
          else (base ++ "/").toList) ∧
      (∀ texts', (∀ u, u ∈ ofBase base texts' ↔ u ∈ ofBase base texts) →
        ∃ row', (recordAll texts' .empty).find? base = some row' ∧ row'.area = row.area) ∧
      (∀ texts', (ofBase base texts').Perm (ofBase base texts) →
        (recordAll texts' .empty).find? base = some row) ∧
      ∀ texts', texts'.Perm texts → recordAll texts' .empty = recordAll texts .empty := by
  obtain ⟨u, us, hus⟩ := List.exists_cons_of_ne_nil h
  have hfind := (recordAll_spec texts).2 base
  have hspelled : spelled base texts = u.toList :: us.map String.toList := by
    rw [spelled, hus, List.map_cons]
  rw [hus, foldedRow] at hfind
  obtain ⟨p, hlast, hfold⟩ := exists_prefix_fold hus
  have hne : ∀ {a : List Char}, p <+: a → a ≠ [] := by
    rintro a ha rfl
    rw [List.prefix_nil.mp ha] at hlast
    cases hlast
  refine ⟨_, hfind, rfl, ?_, ?_, ?_, ?_, ?_, fun texts' hperm => recordAll_perm hperm⟩
  · intro v hv
    obtain ⟨rfl, rfl⟩ := List.cons.inj (hus.symm.trans hv)
    exact String.ofList_toList
  · intro htwo
    have hus' : us.map String.toList ≠ [] := by
      intro hnil
      rw [hus, List.map_eq_nil_iff.mp hnil] at htwo
      exact absurd htwo (by simp)
    obtain ⟨tail, hcut, htail⟩ := Shared.exists_eq_cut_append
      ((us.map String.toList).foldl Shared.common u.toList)
    rw [← Shared.foldl_meet_eq_cut hus'] at hcut
    refine ⟨_, tail, hspelled ▸ Shared.isCommonStart_foldl _ _, ?_, htail, ?_⟩ <;>
      rw [String.toList_ofList]
    · exact hcut
    · exact (Shared.isFolder_foldl_meet hus').resolve_left (hne hfold)
  · refine ⟨_, hspelled ▸ Shared.isLongestFolder_cut_foldl_meet
      (hne ((Shared.prefix_cut_iff (Or.inr hlast)).mpr hfold)), ?_⟩
    rw [toList_area, String.toList_ofList]
  · intro texts' hsame
    have hmem : u ∈ ofBase base texts' := (hsame u).mpr (hus.symm ▸ List.mem_cons_self)
    obtain ⟨v, vs, hvs⟩ := List.exists_cons_of_ne_nil (List.ne_nil_of_mem hmem)
    refine ⟨_, ((recordAll_spec texts').2 base).trans (by rw [hvs, foldedRow]), ?_⟩
    apply String.toList_injective
    rw [toList_area, toList_area, String.toList_ofList, String.toList_ofList,
      Shared.cut_foldl_meet_congr (fun t => ?_)]
    rw [← hspelled, ← List.map_cons, ← hvs]
    simp only [spelled, List.mem_map, hsame]
  · intro texts' hperm
    rw [(recordAll_spec texts').2, foldedRow_perm hperm, hus]
    rfl

/-- Three locators of a bucket, one text that names no locator, and a locator of another bucket. -/
def interleaved : List String :=
  ["s3://b/dir/a", "gs://c/x", "s3://b/dir/sub/c", "nowhere", "s3://b/dir/b"]

theorem row_of_interleaved : ofBase "s3://b" interleaved ≠ [] ∧
    ∃ row, (recordAll interleaved .empty).find? "s3://b" = some row ∧
      row.shared = "s3://b/dir/" ∧ row.area = "s3://b/dir/" ∧
      recordAll interleaved.reverse .empty = recordAll interleaved .empty := by
  have hne : ofBase "s3://b" interleaved ≠ [] := by decide
  refine ⟨hne, ?_⟩
  obtain ⟨row, hfind, -, -, -, -, -, -, hperm⟩ := row_of_recordAll hne
  have hrow : (recordAll interleaved .empty).find? "s3://b" =
      some ⟨"s3://b", none, "s3://b/dir/"⟩ := by decide
  obtain rfl := Option.some.inj (hrow.symm.trans hfind)
  exact ⟨_, hfind, rfl, by decide, hperm _ (List.reverse_perm _)⟩

end DataStaging.MountTable
