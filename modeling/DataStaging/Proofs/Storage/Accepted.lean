import DataStaging.Proofs.Files.Components
import DataStaging.Proofs.Storage.Grammar

/-!
# The texts that name a locator

The grammar says nothing of how a text is read. The name of a kind of storage stands before the
first `://`, and the segments after it begin with the parts of a bucket: as many as the kind has,
and none of them empty. Every text of the grammar is read, nothing of it is lost, and what is
written from parts is read as these parts.

Results:
* `isLocator_iff`: a text is in the grammar if it begins with the base of a well-formed bucket and
  ends there, or goes on with a separator.
* `parse_grammar`: the texts of the grammar are the ones that are read, and writing inverts reading.
* `base_groups`: the base of a locator tells its bucket, and is read as that bucket again.
-/

namespace DataStaging

/-! ## Segments of a joined text -/

namespace Parts

theorem join_append (separator : Char) {a b : List (List Char)} (ha : a ≠ []) (hb : b ≠ []) :
    join separator (a ++ b) = join separator a ++ separator :: join separator b := by
  induction a with
  | nil => exact absurd rfl ha
  | cons part more ih =>
    cases more with
    | nil =>
      obtain ⟨next, others, rfl⟩ := List.exists_cons_of_ne_nil hb
      rfl
    | cons next others =>
      have h := ih (List.cons_ne_nil next others)
      rw [List.cons_append, List.cons_append, join.eq_3 _ _ _ (List.cons_ne_nil _ _),
        join.eq_3 _ _ _ (List.cons_ne_nil _ _), ← List.cons_append, h, List.append_assoc,
        List.cons_append]

end Parts

/-! ## The grammar -/

/-- The segments that a bucket of this kind takes. -/
def Scheme.depth : Scheme → Nat
  | s3 | gs => 1
  | tos => 2
  | swift => 3

/-- The parts of a bucket, in the order in which they are written. -/
def Bucket.components : Bucket → List String
  | s3 bucket | gs bucket => [bucket]
  | swift host space bucket => [host, space, bucket]
  | tos host bucket => [host, bucket]

namespace Locator

/-- The separator of kind and place first occurs between `before` and `rest`. -/
def FirstSeparator (text before rest : String) : Prop :=
  text = before ++ "://" ++ rest ∧
    ∀ front back, text = front ++ "://" ++ back → before.length ≤ front.length

/-- The text of a locator. -/
def IsLocator (text : String) : Prop :=
  ∃ (scheme : Scheme) (rest : String), FirstSeparator text scheme.name rest ∧
    ∀ i < scheme.depth, ∃ segment ∈ (Parts.cutAt '/' rest.toList)[i]?, segment ≠ []

/-- What is written for a kind of storage and the components of a place in it. -/
def written (scheme : Scheme) (components : List String) : String :=
  scheme.name ++ "://" ++ String.ofList (Parts.join '/' (components.map String.toList))

/-- No kind's name holds a colon, so the separator after it is the first one. -/
theorem firstSeparator_name (scheme : Scheme) (rest : String) :
    FirstSeparator (scheme.name ++ "://" ++ rest) scheme.name rest := by
  refine ⟨rfl, fun front back h => ?_⟩
  have hlist := congrArg String.toList h
  simp only [String.toList_append, List.append_assoc] at hlist
  rw [← String.length_toList, ← String.length_toList]
  rcases List.append_eq_append_iff.mp hlist with ⟨more, hfront, -⟩ | ⟨more, hname, hmore⟩
  · rw [hfront, List.length_append]
    omega
  · cases more with
    | nil => exact Nat.le_of_eq (congrArg List.length (hname.trans (List.append_nil _)))
    | cons c more =>
      obtain rfl : ':' = c := by simpa using congrArg List.head? hmore
      exact absurd (hname ▸ by simp) scheme.colon_not_mem_name

end Locator

namespace Bucket

theorem length_components (b : Bucket) : b.components.length = b.scheme.depth := by cases b <;> rfl

theorem toList_place (b : Bucket) :
    b.place.toList = Parts.join '/' (b.components.map String.toList) := by
  cases b <;> simp [place, components, Parts.join, String.toList_append]

theorem isSegment_of_mem_components {b : Bucket} (hb : b.WellFormed) {s : String}
    (hs : s ∈ b.components) : IsSegment s := by
  cases b <;> simp only [WellFormed, components, List.mem_cons, List.not_mem_nil, or_false] at hb hs
  case s3 | gs => exact hs ▸ hb
  case swift =>
    obtain ⟨hhost, hspace, hname⟩ := hb
    rcases hs with rfl | rfl | rfl <;> assumption
  case tos =>
    obtain ⟨hhost, hname⟩ := hb
    rcases hs with rfl | rfl <;> assumption

theorem components_ne_nil (b : Bucket) : b.components.map String.toList ≠ [] := by
  cases b <;> exact List.cons_ne_nil _ _

theorem base_key_eq (b : Bucket) (key : String) :
    b.base ++ "/" ++ key = b.scheme.name ++ "://" ++ (b.place ++ "/" ++ key) := by
  rw [base_eq]
  apply String.toList_injective
  simp [String.toList_append]

/-- The segments of a place are its bucket's parts. -/
theorem cutAt_place {b : Bucket} (hb : b.WellFormed) :
    Parts.cutAt '/' b.place.toList = b.components.map String.toList := by
  cases b with
  | s3 bucket | gs bucket => exact Parts.cutAt_of_not_mem hb.2
  | swift host space bucket =>
    obtain ⟨hhost, hspace, hname⟩ := hb
    rw [toList_place]
    simp only [components, List.map_cons, List.map_nil, Parts.join]
    rw [Parts.cutAt_append, Parts.cutAt_append, Parts.cutAt_of_not_mem hhost.2,
      Parts.cutAt_of_not_mem hspace.2, Parts.cutAt_of_not_mem hname.2]
    rfl
  | tos host bucket =>
    obtain ⟨hhost, hname⟩ := hb
    rw [toList_place]
    simp only [components, List.map_cons, List.map_nil, Parts.join]
    rw [Parts.cutAt_append, Parts.cutAt_of_not_mem hhost.2, Parts.cutAt_of_not_mem hname.2]
    rfl

/-- As many segments as a kind takes are the parts of one of its buckets. -/
theorem exists_components (scheme : Scheme) {parts : List String}
    (hlen : parts.length = scheme.depth) (hparts : ∀ s ∈ parts, IsSegment s) :
    ∃ b : Bucket, b.WellFormed ∧ b.scheme = scheme ∧ b.components = parts := by
  cases scheme with
  | s3 =>
    obtain ⟨bucket, rfl⟩ := List.length_eq_one_iff.mp hlen
    exact ⟨s3 bucket, hparts bucket (by simp), rfl, rfl⟩
  | gs =>
    obtain ⟨bucket, rfl⟩ := List.length_eq_one_iff.mp hlen
    exact ⟨gs bucket, hparts bucket (by simp), rfl, rfl⟩
  | tos =>
    obtain ⟨host, bucket, rfl⟩ := List.length_eq_two.mp hlen
    exact ⟨tos host bucket, ⟨hparts host (by simp), hparts bucket (by simp)⟩, rfl, rfl⟩
  | swift =>
    obtain ⟨host, space, bucket, rfl⟩ := List.length_eq_three.mp hlen
    exact ⟨swift host space bucket,
      ⟨hparts host (by simp), hparts space (by simp), hparts bucket (by simp)⟩, rfl, rfl⟩

/-- The first segments of what begins with a place are not empty. -/
theorem first_components {b : Bucket} (hb : b.WellFormed) (more : List (List Char)) {i : Nat}
    (hi : i < b.scheme.depth) :
    ∃ segment ∈ (b.components.map String.toList ++ more)[i]?, segment ≠ [] := by
  rw [← length_components] at hi
  refine ⟨b.components[i].toList, ?_, (isSegment_of_mem_components hb (List.getElem_mem hi)).1⟩
  rw [Option.mem_def, List.getElem?_append_left (by simpa using hi), List.getElem?_map,
    List.getElem?_eq_getElem hi, Option.map_some]

end Bucket

namespace Locator

variable {text : String}

/-! ## What is read -/

/-- The first segments that the grammar asks for are the parts of a bucket. -/
theorem exists_bucket {scheme : Scheme} {segments : List (List Char)}
    (hfirst : ∀ i < scheme.depth, ∃ segment ∈ segments[i]?, segment ≠ [])
    (hsep : ∀ segment ∈ segments, '/' ∉ segment) :
    ∃ (b : Bucket) (more : List (List Char)), b.WellFormed ∧ b.scheme = scheme ∧
      segments = b.components.map String.toList ++ more := by
  have hlen : scheme.depth ≤ segments.length := by
    by_contra hlt
    obtain ⟨segment, hsegment, -⟩ := hfirst segments.length (Nat.not_le.mp hlt)
    rw [List.getElem?_eq_none (Nat.le_refl _)] at hsegment
    cases hsegment
  have hparts : ∀ s ∈ (segments.take scheme.depth).map String.ofList, IsSegment s := by
    intro s hs
    obtain ⟨segment, hmem, rfl⟩ := List.mem_map.mp hs
    obtain ⟨i, hi, rfl⟩ := List.mem_take_iff_getElem.mp hmem
    obtain ⟨segment, hsegment, hne⟩ := hfirst i (by omega)
    rw [List.getElem?_eq_getElem (by omega), Option.mem_def, Option.some.injEq] at hsegment
    exact isSegment_ofList (hsegment ▸ hne) (hsep _ (List.getElem_mem _))
  obtain ⟨b, hb, hscheme, hcomponents⟩ :=
    Bucket.exists_components scheme (by simp [hlen]) hparts
  refine ⟨b, segments.drop scheme.depth, hb, hscheme, ?_⟩
  rw [hcomponents, List.map_map]
  simp [Function.comp_def]

/-- In the grammar is what begins with the base of a bucket and ends there, or goes on with a
    separator. -/
theorem isLocator_iff : IsLocator text ↔ ∃ b : Bucket, b.WellFormed ∧
    (text = b.base ∨ ∃ key, text = b.base ++ "/" ++ key) := by
  constructor
  · rintro ⟨scheme, rest, ⟨htext, -⟩, hfirst⟩
    obtain ⟨b, more, hb, rfl, hsegments⟩ :=
      exists_bucket hfirst (fun segment hmem => Parts.not_mem_of_mem_cutAt hmem)
    have hrest : rest.toList = Parts.join '/' (b.components.map String.toList ++ more) := by
      rw [← hsegments, Parts.join_cutAt]
    refine ⟨b, hb, ?_⟩
    rw [htext, Bucket.base_eq]
    by_cases hmore : more = []
    · left
      rw [hmore, List.append_nil, ← Bucket.toList_place] at hrest
      rw [String.toList_injective hrest]
    · right
      rw [Parts.join_append '/' b.components_ne_nil hmore, ← Bucket.toList_place] at hrest
      refine ⟨String.ofList (Parts.join '/' more), String.toList_injective ?_⟩
      simp [String.toList_append, hrest]
  · rintro ⟨b, hb, rfl | ⟨key, rfl⟩⟩
    · refine ⟨b.scheme, b.place, Bucket.base_eq b ▸ firstSeparator_name _ _, fun i hi => ?_⟩
      rw [Bucket.cutAt_place hb, ← List.append_nil (b.components.map String.toList)]
      exact Bucket.first_components hb [] hi
    · refine ⟨b.scheme, b.place ++ "/" ++ key, ?_, fun i hi => ?_⟩
      · rw [Bucket.base_key_eq]
        exact firstSeparator_name _ _
      · have hplace : (b.place ++ "/" ++ key).toList = b.place.toList ++ '/' :: key.toList := by
          simp [String.toList_append]
        rw [hplace, Parts.cutAt_append, Bucket.cutAt_place hb]
        exact Bucket.first_components hb _ hi

theorem parse_base {b : Bucket} (hb : b.WellFormed) : parse b.base = .ok ⟨b.base, b, ""⟩ := by
  rw [parse_eq_ok_iff, read_append b hb (List.append_nil b.base.toList).symm]
  simp [cutSegment, Bucket.prolong_nil]

theorem parse_base_key {b : Bucket} (hb : b.WellFormed) (key : String) :
    parse (b.base ++ "/" ++ key) = .ok ⟨b.base ++ "/" ++ key, b, key⟩ := by
  have htext : (b.base ++ "/" ++ key).toList = b.base.toList ++ '/' :: key.toList := by
    simp [String.toList_append]
  rw [parse_eq_ok_iff, read_base_key b hb htext, String.ofList_toList]

/-- A text that was read is the base of its bucket, alone or with a separator and the key. -/
theorem text_of_parse {l : Locator} (h : parse text = .ok l) :
    l.text = text ∧ l.bucket.WellFormed ∧
      (text = l.base ∧ l.key = "" ∨ text = l.base ++ "/" ++ l.key) := by
  obtain ⟨htext, hb, hread⟩ := read_spec (parse_eq_ok_iff.mp h)
  refine ⟨htext, hb, hread.imp (fun h => ⟨String.toList_injective h.1, h.2⟩) fun h => ?_⟩
  exact String.toList_injective (by simpa [String.toList_append] using h)

theorem parse_isOk_iff : (∃ l, parse text = .ok l) ↔ IsLocator text := by
  rw [isLocator_iff]
  constructor
  · rintro ⟨l, hl⟩
    obtain ⟨-, hb, htext⟩ := text_of_parse hl
    exact ⟨l.bucket, hb, htext.imp (fun h => h.1) fun h => ⟨l.key, h⟩⟩
  · rintro ⟨b, hb, rfl | ⟨key, rfl⟩⟩
    · exact ⟨_, parse_base hb⟩
    · exact ⟨_, parse_base_key hb key⟩

/-- A text that is not read has a flaw, and the fault tells which. -/
theorem parse_cases (text : String) :
    (∃ l, parse text = .ok l) ∨ ∃ flaw : LocatorFlaw,
      parse text = .error (.invalidLocator text flaw.message) := by
  unfold parse
  cases read text with
  | ok l => exact Or.inl ⟨l, rfl⟩
  | error flaw => exact Or.inr ⟨flaw, rfl⟩

theorem written_components (b : Bucket) (key : String) :
    written b.scheme (b.components ++ [key]) = b.base ++ "/" ++ key := by
  apply String.toList_injective
  rw [written, List.map_append, List.map_singleton,
    Parts.join_append '/' b.components_ne_nil (List.cons_ne_nil _ _), ← Bucket.toList_place,
    Bucket.base_eq]
  simp [String.toList_append, Parts.join]

/-- Exactly the texts of the grammar are read; any other is refused as no locator. What was read
    gives the text back, and what is written from the parts of a bucket and a key is read as that
    bucket and that key. -/
theorem parse_grammar :
    (∀ text, (∃ l, parse text = .ok l) ↔ IsLocator text) ∧
    (∀ text, ¬ IsLocator text →
      ∃ flaw : LocatorFlaw, parse text = .error (.invalidLocator text flaw.message)) ∧
    (∀ text l, parse text = .ok l → l.text = text ∧ l.bucket.WellFormed ∧
      (text = l.base ∧ l.key = "" ∨ text = l.base ++ "/" ++ l.key)) ∧
    ∀ (b : Bucket) (key : String), b.WellFormed →
      parse (written b.scheme (b.components ++ [key])) =
        .ok ⟨written b.scheme (b.components ++ [key]), b, key⟩ := by
  refine ⟨fun text => parse_isOk_iff, fun text hnot => ?_, fun text l => text_of_parse,
    fun b key hb => ?_⟩
  · exact (parse_cases text).resolve_left fun hok => hnot (parse_isOk_iff.mp hok)
  · rw [written_components]
    exact parse_base_key hb key

/-- Separators in the key are kept; a doubled one before the bucket leaves an empty segment. -/
theorem parse_doubled_separators :
    (∃ l, parse "swift://h/AUTH_1/b//s3://c/" = .ok l ∧ l.bucket = .swift "h" "AUTH_1" "b" ∧
      l.key = "/s3://c/" ∧ "swift://h/AUTH_1/b//s3://c/" = l.base ++ "/" ++ l.key) ∧
    ∃ flaw : LocatorFlaw,
      parse "swift://h//b/x" = .error (.invalidLocator "swift://h//b/x" flaw.message) := by
  have hb : (Bucket.swift "h" "AUTH_1" "b").WellFormed := by
    simp only [Bucket.WellFormed, IsSegment]
    decide
  have hread : parse "swift://h/AUTH_1/b//s3://c/" =
      .ok ⟨"swift://h/AUTH_1/b//s3://c/", .swift "h" "AUTH_1" "b", "/s3://c/"⟩ :=
    parse_grammar.2.2.2 _ "/s3://c/" hb
  have hnot : ¬ IsLocator "swift://h//b/x" := fun hmem => by
    obtain ⟨l, hl⟩ := (parse_grammar.1 _).mpr hmem
    have hrefused : parse "swift://h//b/x" =
        .error (.invalidLocator "swift://h//b/x" LocatorFlaw.noNamespace.message) := by rfl
    rw [hrefused] at hl
    cases hl
  obtain ⟨-, -, ⟨-, hkey⟩ | htext⟩ := parse_grammar.2.2.1 _ _ hread
  · exact absurd hkey (by decide)
  · exact ⟨⟨_, hread, rfl, rfl, htext⟩, parse_grammar.2.1 _ hnot⟩

/-! ## Bases -/

end Locator

namespace Bucket

/-- A bucket is told by its kind and its parts. -/
theorem eq_iff {b b' : Bucket} : b = b' ↔ b.scheme = b'.scheme ∧ b.host? = b'.host? ∧
    b.namespace? = b'.namespace? ∧ b.name = b'.name := by
  cases b <;> cases b' <;> simp [scheme, host?, namespace?, name]

end Bucket

namespace Locator

/-- Two locators have the same base exactly if their buckets agree in every part. What depends on
    the bucket then agrees too, and a key after the base is read as a key in the same bucket. -/
theorem base_groups {u v : String} {l l' : Locator} (hl : parse u = .ok l)
    (hl' : parse v = .ok l') :
    (l.base = l'.base ↔ l.bucket.scheme = l'.bucket.scheme ∧ l.bucket.host? = l'.bucket.host? ∧
      l.bucket.namespace? = l'.bucket.namespace? ∧ l.bucket.name = l'.bucket.name) ∧
    (l.base = l'.base → l.bucket.profile = l'.bucket.profile ∧
      l.bucket.endpoint? = l'.bucket.endpoint? ∧
      l.bucket.allowsPathStyle = l'.bucket.allowsPathStyle) ∧
    (∀ key, ∃ m, parse (l.base ++ "/" ++ key) = .ok m ∧ m.base = l.base ∧ m.bucket = l.bucket ∧
      m.key = key) ∧
    ∃ m, parse l.base = .ok m ∧ m.base = l.base ∧ m.bucket = l.bucket := by
  obtain ⟨-, hb, -⟩ := text_of_parse hl
  obtain ⟨-, hb', -⟩ := text_of_parse hl'
  have hbase : l.base = l'.base ↔ l.bucket = l'.bucket :=
    ⟨Bucket.base_injective hb hb', fun h => congrArg Bucket.base h⟩
  refine ⟨hbase.trans Bucket.eq_iff, fun h => ?_, fun key => ?_, ?_⟩
  · rw [hbase.mp h]
    exact ⟨rfl, rfl, rfl⟩
  · exact ⟨_, parse_base_key hb key, rfl, rfl, rfl⟩
  · exact ⟨_, parse_base hb, rfl, rfl⟩

/-- A separator that moves from one part to the next leads to another base. -/
theorem base_groups_namespaces : ∃ l l', parse "swift://h/AUTH/1_b/x" = .ok l ∧
    parse "swift://h/AUTH_1/b/x" = .ok l' ∧ l.base ≠ l'.base ∧
    ∃ m, parse (l.base ++ "/" ++ "//y") = .ok m ∧ m.base = l.base ∧ m.bucket = l.bucket ∧
      m.key = "//y" := by
  have hl : parse "swift://h/AUTH/1_b/x" =
      .ok ⟨"swift://h/AUTH/1_b/x", .swift "h" "AUTH" "1_b", "x"⟩ := by rfl
  have hl' : parse "swift://h/AUTH_1/b/x" =
      .ok ⟨"swift://h/AUTH_1/b/x", .swift "h" "AUTH_1" "b", "x"⟩ := by rfl
  obtain ⟨hiff, -, hkey, -⟩ := base_groups hl hl'
  exact ⟨_, _, hl, hl', fun hbase => absurd (hiff.mp hbase).2.2.1 (by decide), hkey "//y"⟩

end Locator

end DataStaging
