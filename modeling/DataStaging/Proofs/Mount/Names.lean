import DataStaging.Mount.Table
import DataStaging.Proofs.Storage.Grammar
import Mathlib.Data.List.Forall2

/-!
# Folder names

A base's folder is named by the scheme and the place of its bucket. Of the place, letters, digits,
`-` and `.` are kept; each other character becomes `_`, separators included. So two bases of one
scheme share a name where their places differ in such characters only.

Results:
* `toList_folderName`: the name of a bucket's folder.
* `folderName_append_eq_iff`: when two names are the same, also with more text behind them.
* `base_eq_of_alike`: buckets that are named by kept characters only share no name.
-/

namespace DataStaging

namespace MountTable

/-! ## Schemes -/

theorem joinScheme_cons {c : Char} {rest : List Char}
    (h : c = ':' → ¬ ['/', '/'] <+: rest) : joinScheme (c :: rest) = c :: joinScheme rest := by
  refine joinScheme.eq_3 _ _ ?_
  rintro rest' rfl rfl
  exact h rfl ⟨rest', rfl⟩

/-- Nothing is joined in a text without separators, unless two of them follow. -/
theorem joinScheme_append {cs rest : List Char} (hcs : '/' ∉ cs) (hrest : ¬ ['/', '/'] <+: rest) :
    joinScheme (cs ++ rest) = cs ++ joinScheme rest := by
  induction cs with
  | nil => rfl
  | cons c cs ih =>
    have htail : '/' ∉ cs := fun e => hcs (by simp [e])
    rw [List.cons_append, joinScheme_cons, ih htail]
    · rfl
    · intro _
      cases cs with
      | nil => exact hrest
      | cons d cs =>
        rintro ⟨rest', h⟩
        obtain rfl : '/' = d := (List.cons.inj h).1
        exact htail List.mem_cons_self

theorem joinScheme_slash (rest : List Char) : joinScheme ('/' :: rest) = '/' :: joinScheme rest :=
  joinScheme_cons (fun h => absurd h (by decide))

theorem joinScheme_separator (rest : List Char) :
    joinScheme (':' :: '/' :: '/' :: rest) = '_' :: joinScheme rest := rfl

/-- No second separator stands before a segment. -/
theorem not_slashes_segment {s : String} (h : IsSegment s) (rest : List Char) :
    ¬ ['/', '/'] <+: '/' :: (s.toList ++ rest) := by
  obtain ⟨hne, hs⟩ := h
  rintro ⟨more, heq⟩
  cases hcs : s.toList with
  | nil => exact hne hcs
  | cons c cs =>
    rw [hcs] at heq hs
    cases heq
    exact hs List.mem_cons_self

theorem joinScheme_segment {s : String} (h : IsSegment s) : joinScheme s.toList = s.toList := by
  have happend : joinScheme (s.toList ++ []) = s.toList ++ joinScheme [] :=
    joinScheme_append h.2 (by simp)
  simpa [joinScheme] using happend

theorem joinScheme_place {b : Bucket} (h : b.WellFormed) :
    joinScheme b.place.toList = b.place.toList := by
  cases b with
  | s3 bucket | gs bucket => exact joinScheme_segment h
  | swift host space bucket =>
    obtain ⟨hh, hs, hb⟩ := h
    simp only [Bucket.place, String.toList_append, List.append_assoc]
    change joinScheme (host.toList ++ '/' :: (space.toList ++ '/' :: bucket.toList)) = _
    have hend := not_slashes_segment hb []
    rw [List.append_nil] at hend
    rw [joinScheme_append hh.2 (not_slashes_segment hs _), joinScheme_slash,
      joinScheme_append hs.2 hend, joinScheme_slash, joinScheme_segment hb]
    rfl
  | tos host bucket =>
    obtain ⟨hh, hb⟩ := h
    simp only [Bucket.place, String.toList_append, List.append_assoc]
    change joinScheme (host.toList ++ '/' :: bucket.toList) = _
    have hend := not_slashes_segment hb []
    rw [List.append_nil] at hend
    rw [joinScheme_append hh.2 hend, joinScheme_slash, joinScheme_segment hb]
    rfl

/-! ## Characters -/

/-- What a character becomes in a name. -/
def mask (c : Char) : Char := if isPlain c then c else '_'

/-- Characters that become the same one. -/
def Alike (c d : Char) : Prop := c = d ∨ isPlain c = false ∧ isPlain d = false

theorem mask_of_isPlain {c : Char} (h : isPlain c = true) : mask c = c := if_pos h

theorem mask_of_not_isPlain {c : Char} (h : isPlain c = false) : mask c = '_' := by
  unfold mask
  rw [h]
  rfl

/-- What fills in is no kept character itself. -/
theorem isPlain_mask (c : Char) : isPlain (mask c) = isPlain c := by
  cases h : isPlain c with
  | true => rw [mask_of_isPlain h, h]
  | false =>
    rw [mask_of_not_isPlain h]
    decide

theorem mask_eq_iff {c d : Char} : mask c = mask d ↔ Alike c d := by
  constructor
  · intro h
    have hplain : isPlain c = isPlain d := by rw [← isPlain_mask c, h, isPlain_mask]
    cases hc : isPlain c with
    | true =>
      rw [hc] at hplain
      rw [mask_of_isPlain hc, mask_of_isPlain hplain.symm] at h
      exact Or.inl h
    | false => exact Or.inr ⟨hc, hplain ▸ hc⟩
  · rintro (rfl | ⟨hc, hd⟩)
    · rfl
    · rw [mask_of_not_isPlain hc, mask_of_not_isPlain hd]

theorem map_mask_eq_iff {cs ds : List Char} :
    cs.map mask = ds.map mask ↔ List.Forall₂ Alike cs ds := by
  rw [← List.forall₂_eq_eq_eq, List.forall₂_map_left_iff, List.forall₂_map_right_iff]
  simp only [mask_eq_iff]

theorem map_mask_name (s : Scheme) : s.name.toList.map mask = s.name.toList := by
  cases s <;> decide

/-- The name of a bucket's folder. -/
theorem toList_folderName {b : Bucket} (h : b.WellFormed) :
    (folderName b.base).toList = b.scheme.name.toList ++ '_' :: b.place.toList.map mask := by
  have hname : '/' ∉ b.scheme.name.toList := by cases b.scheme <;> decide
  have hjoined : joinScheme b.base.toList = b.scheme.name.toList ++ '_' :: b.place.toList := by
    rw [Bucket.toList_base, joinScheme_append hname (by simp), joinScheme_separator,
      joinScheme_place h]
  have hmapped := congrArg (List.map mask) hjoined
  rw [List.map_append, map_mask_name] at hmapped
  rw [folderName, String.toList_ofList]
  exact hmapped

/-! ## When names are the same -/

theorem name_append_inj {s s' : Scheme} {cs cs' : List Char} :
    s.name.toList ++ '_' :: cs = s'.name.toList ++ '_' :: cs' ↔ s = s' ∧ cs = cs' := by
  cases s <;> cases s' <;> simp [Scheme.name]

/-- Two names with something behind them are the same if the schemes are, and if the places and what
    is behind them are alike, character by character. -/
theorem folderName_append_eq_iff {b b' : Bucket} {tail tail' : String} (h : b.WellFormed)
    (h' : b'.WellFormed) (htail : tail.toList.map mask = tail.toList)
    (htail' : tail'.toList.map mask = tail'.toList) :
    folderName b.base ++ tail = folderName b'.base ++ tail' ↔ b.scheme = b'.scheme ∧
      List.Forall₂ Alike (b.place ++ tail).toList (b'.place ++ tail').toList := by
  have hname : ∀ {b : Bucket} {tail : String}, b.WellFormed →
      tail.toList.map mask = tail.toList → (folderName b.base ++ tail).toList =
        b.scheme.name.toList ++ '_' :: (b.place ++ tail).toList.map mask := by
    intro b tail h htail
    rw [String.toList_append, toList_folderName h, String.toList_append, List.map_append, htail,
      List.append_assoc, List.cons_append]
  rw [← String.toList_inj, hname h htail, hname h' htail', name_append_inj, map_mask_eq_iff]

end MountTable

/-! ## Buckets that are named by kept characters -/

/-- Every part of the bucket is named by characters that are kept. -/
def Bucket.IsPlain (b : Bucket) : Prop :=
  ∀ c ∈ b.place.toList, MountTable.isPlain c = true ∨ c = '/'

namespace MountTable

/-- How many characters of a text are replaced. -/
def replaced (cs : List Char) : Nat := cs.countP (fun c => !isPlain c)

theorem replaced_append (cs ds : List Char) : replaced (cs ++ ds) = replaced cs + replaced ds :=
  List.countP_append

theorem replaced_eq_of_alike {cs ds : List Char} (h : List.Forall₂ Alike cs ds) :
    replaced cs = replaced ds := by
  induction h with
  | nil => rfl
  | cons hcd _ ih =>
    unfold replaced at ih ⊢
    rw [List.countP_cons, List.countP_cons, ih]
    rcases hcd with rfl | ⟨hc, hd⟩
    · rfl
    · rw [hc, hd]

theorem replaced_segment {s : String} (h : IsSegment s)
    (hplain : ∀ c ∈ s.toList, isPlain c = true ∨ c = '/') : replaced s.toList = 0 := by
  refine List.countP_eq_zero.mpr fun c hc => ?_
  rcases hplain c hc with hp | rfl
  · simp [hp]
  · exact absurd hc h.2

/-- The separators in the places of a scheme. -/
def separators : Scheme → Nat
  | .s3 | .gs => 0
  | .swift => 2
  | .tos => 1

theorem replaced_place {b : Bucket} (h : b.WellFormed) (hplain : b.IsPlain) :
    replaced b.place.toList = separators b.scheme := by
  unfold Bucket.IsPlain at hplain
  cases b with
  | s3 bucket | gs bucket => exact replaced_segment h hplain
  | swift host space bucket =>
    obtain ⟨hh, hs, hb⟩ := h
    simp only [Bucket.place, String.toList_append] at hplain ⊢
    have hslash : replaced "/".toList = 1 := by decide
    rw [replaced_append, replaced_append, replaced_append, replaced_append, hslash,
      replaced_segment hh (fun c hc => hplain c (by simp [hc])),
      replaced_segment hs (fun c hc => hplain c (by simp [hc])),
      replaced_segment hb (fun c hc => hplain c (by simp [hc]))]
    rfl
  | tos host bucket =>
    obtain ⟨hh, hb⟩ := h
    simp only [Bucket.place, String.toList_append] at hplain ⊢
    have hslash : replaced "/".toList = 1 := by decide
    rw [replaced_append, replaced_append, hslash,
      replaced_segment hh (fun c hc => hplain c (by simp [hc])),
      replaced_segment hb (fun c hc => hplain c (by simp [hc]))]
    rfl

/-- Among kept characters and separators, only the same ones are alike. -/
theorem eq_of_alike {cs ds : List Char} (hcs : ∀ c ∈ cs, isPlain c = true ∨ c = '/')
    (hds : ∀ d ∈ ds, isPlain d = true ∨ d = '/') (h : List.Forall₂ Alike cs ds) : cs = ds := by
  induction h with
  | nil => rfl
  | @cons c d cs ds hcd _ ih =>
    have htail := ih (fun c hc => hcs c (List.mem_cons_of_mem _ hc))
      (fun d hd => hds d (List.mem_cons_of_mem _ hd))
    have hhead : c = d := by
      rcases hcd with rfl | ⟨hc, hd⟩
      · rfl
      · have hc' := (hcs c List.mem_cons_self).resolve_left (by simp [hc])
        have hd' := (hds d List.mem_cons_self).resolve_left (by simp [hd])
        rw [hc', hd']
    rw [hhead, htail]

/-- Buckets that are named by kept characters share no name, whatever is behind the names. -/
theorem base_eq_of_alike {b b' : Bucket} {tail tail' : String} (h : b.WellFormed)
    (h' : b'.WellFormed) (hplain : b.IsPlain) (hplain' : b'.IsPlain)
    (htails : replaced tail.toList = replaced tail'.toList → tail = tail')
    (hscheme : b.scheme = b'.scheme)
    (halike : List.Forall₂ Alike (b.place ++ tail).toList (b'.place ++ tail').toList) :
    b.base = b'.base := by
  rw [String.toList_append, String.toList_append] at halike
  have hcount := replaced_eq_of_alike halike
  rw [replaced_append, replaced_append, replaced_place h hplain, replaced_place h' hplain',
    hscheme] at hcount
  obtain rfl := htails (by omega)
  rw [← map_mask_eq_iff, List.map_append, List.map_append, List.append_left_inj,
    map_mask_eq_iff] at halike
  have hplace := eq_of_alike hplain hplain' halike
  rw [Bucket.base_eq, Bucket.base_eq, hscheme, String.toList_injective hplace]

end MountTable

end DataStaging
