import DataStaging.Storage.Locator
import Mathlib.Tactic.Common

/-!
# The text of a locator

A locator's text is the base of its bucket, alone or followed by `/` and the key. Read the other
way round: a base whose last segment is prolonged names the bucket with the longer name, and what
follows the next `/` is the key.

Results:
* `read_append`: what a text that begins with a well-formed base is read as; `read_base_key` is the
  case of a separator and a key.
* `read_spec`: a text that was read is the base of a well-formed bucket, alone or with a separator
  and the key.
* `base_injective`: a base belongs to one bucket only.
-/

namespace DataStaging

/-! ## Segments -/

/-- A part of a locator: some characters, none of them a separator. -/
def IsSegment (s : String) : Prop := s.toList ≠ [] ∧ '/' ∉ s.toList

namespace Locator

theorem cutSegment_of_not_mem (segment rest : List Char) (h : '/' ∉ segment) :
    cutSegment (segment ++ rest) = (segment ++ (cutSegment rest).1, (cutSegment rest).2) := by
  induction segment with
  | nil => rfl
  | cons c segment ih =>
    have hc : c ≠ '/' := fun e => h (by simp [e])
    have hs : '/' ∉ segment := fun e => h (by simp [e])
    rw [List.cons_append, cutSegment, if_neg hc, ih hs]
    rfl

theorem not_mem_cutSegment (cs : List Char) : '/' ∉ (cutSegment cs).1 := by
  induction cs with
  | nil => simp [cutSegment]
  | cons c rest ih =>
    by_cases hc : c = '/'
    · simp [cutSegment, hc]
    · simp only [cutSegment, if_neg hc, List.mem_cons, not_or]
      exact ⟨Ne.symm hc, ih⟩

/-- A text is its first segment, alone or followed by a separator and the rest. -/
theorem cutSegment_spec (cs : List Char) :
    (cs = (cutSegment cs).1 ∧ (cutSegment cs).2 = []) ∨
      cs = (cutSegment cs).1 ++ '/' :: (cutSegment cs).2 := by
  induction cs with
  | nil => exact Or.inl ⟨rfl, rfl⟩
  | cons c rest ih =>
    by_cases hc : c = '/'
    · right
      simp [cutSegment, hc]
    · simp only [cutSegment, if_neg hc]
      rcases ih with ⟨h1, h2⟩ | h
      · exact Or.inl ⟨by rw [← h1], h2⟩
      · exact Or.inr (by rw [List.cons_append, ← h])

theorem cutSeparator_spec {cs before rest : List Char} (h : cutSeparator cs = some (before, rest)) :
    cs = before ++ ':' :: '/' :: '/' :: rest := by
  induction cs using cutSeparator.induct generalizing before with
  | case1 => simp [cutSeparator] at h
  | case2 rest' =>
    simp only [cutSeparator, Option.some.injEq, Prod.mk.injEq] at h
    obtain ⟨rfl, rfl⟩ := h
    rfl
  | case3 c rest' hne ih =>
    rw [cutSeparator.eq_3 _ _ hne] at h
    obtain ⟨p, hp, hq⟩ := Option.map_eq_some_iff.mp h
    obtain ⟨rfl, rfl⟩ := Prod.mk.injEq .. ▸ hq
    rw [ih hp]
    rfl

end Locator

theorem isSegment_ofList {cs : List Char} (hne : cs ≠ []) (h : '/' ∉ cs) :
    IsSegment (String.ofList cs) := by
  rw [IsSegment, String.toList_ofList]
  exact ⟨hne, h⟩

/-! ## Buckets -/

namespace Scheme

theorem ofName?_name (s : Scheme) : ofName? s.name = some s := by cases s <;> rfl

theorem name_of_ofName? {name : String} {s : Scheme} (h : ofName? name = some s) :
    s.name = name := by
  unfold ofName? at h
  split_ifs at h with h1 h2 h3 h4 <;> cases h <;> simp_all [Scheme.name]

theorem colon_not_mem_name (s : Scheme) : ':' ∉ s.name.toList := by cases s <;> decide

end Scheme

namespace Bucket

/-- Every part of the bucket is a segment. -/
def WellFormed : Bucket → Prop
  | s3 bucket | gs bucket => IsSegment bucket
  | swift host space bucket => IsSegment host ∧ IsSegment space ∧ IsSegment bucket
  | tos host bucket => IsSegment host ∧ IsSegment bucket

/-- The parts of the bucket with separators between them: its base without the scheme. -/
def place : Bucket → String
  | s3 bucket | gs bucket => bucket
  | swift host space bucket => host ++ "/" ++ space ++ "/" ++ bucket
  | tos host bucket => host ++ "/" ++ bucket

/-- The bucket whose name goes on with `more`. -/
def prolong (more : List Char) : Bucket → Bucket
  | s3 bucket => s3 (bucket ++ String.ofList more)
  | gs bucket => gs (bucket ++ String.ofList more)
  | swift host space bucket => swift host space (bucket ++ String.ofList more)
  | tos host bucket => tos host (bucket ++ String.ofList more)

theorem prolong_nil (b : Bucket) : b.prolong [] = b := by
  cases b <;> simp [prolong]

theorem base_eq (b : Bucket) : b.base = b.scheme.name ++ "://" ++ b.place := by
  cases b <;> simp only [base, place, scheme, Scheme.name] <;> apply String.toList_injective <;>
    simp [String.toList_append]

theorem toList_base (b : Bucket) :
    b.base.toList = b.scheme.name.toList ++ ':' :: '/' :: '/' :: b.place.toList := by
  rw [base_eq, String.toList_append, String.toList_append]
  simp

theorem toList_base_prolong (b : Bucket) (more : List Char) :
    (b.prolong more).base.toList = b.base.toList ++ more := by
  cases b <;> simp [prolong, base, String.toList_append]

end Bucket

/-! ## Reading -/

namespace Locator

theorem cutSegment_segment {s : String} (h : IsSegment s) (rest : List Char) :
    cutSegment (s.toList ++ '/' :: rest) = (s.toList, rest) :=
  cutSegment_append _ _ h.2

theorem readPlace_append (b : Bucket) (hb : b.WellFormed) (rest : List Char) :
    readPlace b.scheme (b.place.toList ++ rest) =
      .ok (b.prolong (cutSegment rest).1, String.ofList (cutSegment rest).2) := by
  cases b with
  | s3 bucket | gs bucket =>
    have hcut := cutSegment_of_not_mem _ rest hb.2
    simp [Bucket.place, Bucket.scheme, readPlace, hcut, hb.1, Bucket.prolong]
  | swift host space bucket =>
    obtain ⟨hh, hs, hb⟩ := hb
    have hcut := cutSegment_of_not_mem _ rest hb.2
    simp [Bucket.place, Bucket.scheme, readPlace, String.toList_append, cutSegment_segment hh,
      cutSegment_segment hs, hcut, hh.1, hs.1, hb.1, Bucket.prolong]
  | tos host bucket =>
    obtain ⟨hh, hb⟩ := hb
    have hcut := cutSegment_of_not_mem _ rest hb.2
    simp [Bucket.place, Bucket.scheme, readPlace, String.toList_append, cutSegment_segment hh,
      hcut, hh.1, hb.1, Bucket.prolong]

/-- What follows a base prolongs the bucket's name up to the next separator; the key comes after
    that separator. -/
theorem read_append (b : Bucket) (hb : b.WellFormed) {text : String} {rest : List Char}
    (ht : text.toList = b.base.toList ++ rest) :
    read text = .ok ⟨text, b.prolong (cutSegment rest).1, String.ofList (cutSegment rest).2⟩ := by
  have hsep : cutSeparator text.toList = some (b.scheme.name.toList, b.place.toList ++ rest) := by
    rw [ht, Bucket.toList_base, List.append_assoc]
    exact cutSeparator_append _ _ b.scheme.colon_not_mem_name
  simp only [read, hsep, String.ofList_toList, Scheme.ofName?_name, readPlace_append b hb]
  rfl

/-- A base with a separator and a key after it names that bucket and that key. -/
theorem read_base_key (b : Bucket) (hb : b.WellFormed) {text : String} {key : List Char}
    (ht : text.toList = b.base.toList ++ '/' :: key) :
    read text = .ok ⟨text, b, String.ofList key⟩ := by
  have h := read_append b hb ht
  simpa [cutSegment, Bucket.prolong_nil] using h

/-! ## What a text was read from -/

/-- Where a segment follows the first one, a separator stands between them. -/
theorem eq_of_cutSegment {cs segment rest : List Char} (h : cutSegment cs = (segment, rest))
    (hne : (cutSegment rest).1 ≠ []) : cs = segment ++ '/' :: rest := by
  rcases cutSegment_spec cs with ⟨-, h2⟩ | h1
  · rw [h] at h2
    subst h2
    exact absurd rfl hne
  · rwa [h] at h1

theorem isSegment_cut {cs segment rest : List Char} (h : cutSegment cs = (segment, rest))
    (hne : segment ≠ []) : IsSegment (String.ofList segment) := by
  have hn := not_mem_cutSegment cs
  rw [h] at hn
  exact isSegment_ofList hne hn

theorem readPlace_spec {scheme : Scheme} {rest : List Char} {b : Bucket} {key : String}
    (h : readPlace scheme rest = .ok (b, key)) :
    b.WellFormed ∧ b.scheme = scheme ∧
      ((rest = b.place.toList ∧ key.toList = []) ∨ rest = b.place.toList ++ '/' :: key.toList) := by
  rcases h1 : cutSegment rest with ⟨host, more⟩
  have hrest := cutSegment_spec rest
  rw [h1] at hrest
  simp only [readPlace, h1] at h
  by_cases hhost : host = []
  · simp [hhost] at h
  have hh := isSegment_cut h1 hhost
  rw [if_neg (by simpa using hhost)] at h
  cases scheme with
  | s3 | gs =>
    cases h
    exact ⟨hh, rfl, by simpa [Bucket.place] using hrest⟩
  | swift =>
    rcases h2 : cutSegment more with ⟨space, more'⟩
    rcases h3 : cutSegment more' with ⟨bucket, key'⟩
    simp only [h2, h3] at h
    split_ifs at h with hspace hbucket
    have hs := isSegment_cut h2 (by simpa using hspace)
    have hb := isSegment_cut h3 (by simpa using hbucket)
    have e1 := eq_of_cutSegment h1 (by rw [h2]; simpa using hspace)
    have e2 := eq_of_cutSegment h2 (by rw [h3]; simpa using hbucket)
    have e3 := cutSegment_spec more'
    rw [h3] at e3
    cases h
    refine ⟨⟨hh, hs, hb⟩, rfl, ?_⟩
    rw [e1, e2]
    simpa [Bucket.place, String.toList_append] using e3
  | tos =>
    rcases h2 : cutSegment more with ⟨bucket, key'⟩
    simp only [h2] at h
    split_ifs at h with hbucket
    have hb := isSegment_cut h2 (by simpa using hbucket)
    have e1 := eq_of_cutSegment h1 (by rw [h2]; simpa using hbucket)
    have e2 := cutSegment_spec more
    rw [h2] at e2
    cases h
    refine ⟨⟨hh, hb⟩, rfl, ?_⟩
    rw [e1]
    simpa [Bucket.place, String.toList_append] using e2

/-- A text that was read is kept, and it is the base of a well-formed bucket, alone or with a
    separator and the key. -/
theorem read_spec {text : String} {l : Locator} (h : read text = .ok l) :
    l.text = text ∧ l.bucket.WellFormed ∧
      ((text.toList = l.base.toList ∧ l.key = "") ∨
        text.toList = l.base.toList ++ '/' :: l.key.toList) := by
  unfold read at h
  split at h
  · cases h
  · rename_i name rest hsep
    split at h
    · cases h
    · rename_i scheme hname
      obtain ⟨⟨b, key⟩, hplace, rfl⟩ : ∃ p, readPlace scheme rest = .ok p ∧
          (⟨text, p.1, p.2⟩ : Locator) = l := by
        cases hp : readPlace scheme rest with
        | error flaw => rw [hp] at h; cases h
        | ok p => rw [hp] at h; exact ⟨p, rfl, Except.ok.inj h⟩
      obtain ⟨hb, hscheme, hrest⟩ := readPlace_spec hplace
      have htext := cutSeparator_spec hsep
      have hscheme' : b.scheme.name.toList = name := by
        rw [hscheme, Scheme.name_of_ofName? hname, String.toList_ofList]
      have hbase : b.base.toList = name ++ ':' :: '/' :: '/' :: b.place.toList := by
        rw [Bucket.toList_base, hscheme']
      refine ⟨rfl, hb, ?_⟩
      show (text.toList = b.base.toList ∧ key = "") ∨
        text.toList = b.base.toList ++ '/' :: key.toList
      rcases hrest with ⟨h1, h2⟩ | h1
      · left
        rw [htext, hbase, h1]
        exact ⟨rfl, String.toList_injective (by simpa using h2)⟩
      · right
        rw [htext, hbase, h1]
        simp

theorem wellFormed_of_read {text : String} {l : Locator} (h : read text = .ok l) :
    l.bucket.WellFormed := (read_spec h).2.1

theorem parse_eq_ok_iff {text : String} {l : Locator} : parse text = .ok l ↔ read text = .ok l := by
  unfold parse
  cases read text <;> simp [Except.mapError]

end Locator

/-- A base belongs to one bucket only. -/
theorem Bucket.base_injective {b b' : Bucket} (h : b.WellFormed) (h' : b'.WellFormed)
    (he : b.base = b'.base) : b = b' := by
  have ht : (b.base ++ "/").toList = b.base.toList ++ '/' :: [] := by
    simp [String.toList_append]
  have ht' : (b.base ++ "/").toList = b'.base.toList ++ '/' :: [] := by rw [← he]; exact ht
  have h1 := Locator.read_base_key b h ht
  have h2 := Locator.read_base_key b' h' ht'
  rw [h1] at h2
  cases h2
  rfl

end DataStaging
