import DataStaging.Proofs.Files.Steps
import DataStaging.Proofs.Mount.Beginnings

/-!
# Meeting texts, and cutting their bytes

The texts that are met are kept as bytes. What two of them have in common is found by walking their
characters side by side, its last separator by looking through the bytes from their end; either way
the text is then cut at a byte offset, which is only possible between two characters.

`commonEnd` and `lastSeparator?` are those offsets. `Utf8.upTo?` cuts, and gives nothing where a
text cannot be cut.

Results:
* `Utf8.isBoundary_iff`: a text can be cut where whole characters end.
* `commonSlice?_eq`, `cutSlice?_eq`: both cuts are possible, and leave what `common` and `cut` say.
* `meet_assoc`, `meet_meet_self`, `meet_self`: the laws of meeting texts.
* `meet_laws`: all of this for any three texts.
-/

namespace DataStaging

/-! ## Cutting bytes -/

namespace Utf8

/-- Whether a text can be cut at an offset: at its ends, or before a byte that starts a
    character. -/
def isBoundary (t : Bytes) (i : Nat) : Bool :=
  i = 0 || i = t.length || t[i]?.any fun b => !isTrail b

/-- The bytes of a text before an offset, if it can be cut there. -/
def upTo? (t : Bytes) (i : Nat) : Option Bytes := if isBoundary t i then some (t.take i) else none

/-- How many bytes a character takes. -/
def width (c : Char) : Nat := (encodePoint c.toNat).length

theorem width_pos (c : Char) : 0 < width c := List.length_pos_iff.mpr (encodePoint_ne_nil _)

theorem length_encodeChars_cons (c : Char) (cs : List Char) :
    (encodeChars (c :: cs)).length = width c + (encodeChars cs).length := by
  rw [encodeChars_cons, List.length_append, width]

theorem isTrail_ofNat {n : Nat} (h : n < 256) :
    isTrail (UInt8.ofNat n) = decide (0x80 ≤ n ∧ n ≤ 0xBF) := by
  rw [isTrail, Bool.decide_and]
  simp [UInt8.le_iff_toNat_le, Nat.mod_eq_of_lt h]

/-- The first byte of a character starts it, all others continue it. -/
theorem encodePoint_eq_cons (c : Char) :
    ∃ lead trail, encodePoint c.toNat = lead :: trail ∧ isTrail lead = false ∧
      ∀ b ∈ trail, isTrail b = true := by
  have hmax := toNat_lt c
  unfold encodePoint
  split_ifs <;> refine ⟨_, _, rfl, ?_, ?_⟩ <;>
    simp (disch := omega) only [isTrail_ofNat, List.forall_mem_cons, List.not_mem_nil,
      false_implies, implies_true, and_true, decide_eq_true_eq, decide_eq_false_iff_not] <;>
    omega

theorem isBoundary_zero (t : Bytes) : isBoundary t 0 = true := rfl

/-- Inside a character a text cannot be cut. -/
theorem isBoundary_of_lt_width {c : Char} {cs : List Char} {i : Nat} (hpos : 0 < i)
    (hi : i < width c) : isBoundary (encodeChars (c :: cs)) i = false := by
  obtain ⟨lead, trail, hbytes, -, htrail⟩ := encodePoint_eq_cons c
  obtain ⟨j, rfl⟩ := Nat.exists_eq_succ_of_ne_zero (Nat.ne_of_gt hpos)
  have hlen := length_encodeChars_cons c cs
  rw [width, hbytes, List.length_cons] at hi
  have hj : j < trail.length := Nat.succ_lt_succ_iff.mp hi
  have hget : (encodeChars (c :: cs))[j + 1]? = some trail[j] := by
    rw [encodeChars_cons, hbytes, List.cons_append, List.getElem?_cons_succ,
      List.getElem?_append_left hj, List.getElem?_eq_getElem hj]
  have hne : j + 1 ≠ (encodeChars (c :: cs)).length := by
    rw [hlen, width, hbytes, List.length_cons]
    omega
  rw [isBoundary, hget, Option.any_some, htrail _ (List.getElem_mem hj)]
  simp [hne]

/-- Past its first character a text can be cut where the rest of it can. -/
theorem isBoundary_add_width (c : Char) (cs : List Char) (i : Nat) :
    isBoundary (encodeChars (c :: cs)) (width c + i) = isBoundary (encodeChars cs) i := by
  have hpos := width_pos c
  have hget : (encodeChars (c :: cs))[width c + i]? = (encodeChars cs)[i]? := by
    rw [encodeChars_cons, width, List.getElem?_append_right (Nat.le_add_right _ _),
      Nat.add_sub_cancel_left]
  rw [isBoundary, isBoundary, hget, length_encodeChars_cons]
  rcases Nat.eq_zero_or_pos i with rfl | hi
  · -- the rest starts with a character, or is empty
    cases cs with
    | nil => simp [encodeChars]
    | cons d ds =>
      obtain ⟨lead, trail, hbytes, hlead, -⟩ := encodePoint_eq_cons d
      rw [encodeChars_cons, hbytes, List.cons_append, List.getElem?_cons_zero, Option.any_some,
        hlead]
      simp
  · simp [Nat.ne_of_gt hi]

/-- A text can be cut where whole characters end. -/
theorem isBoundary_iff {cs : List Char} {i : Nat} :
    isBoundary (encodeChars cs) i = true ↔ ∃ a, a <+: cs ∧ (encodeChars a).length = i := by
  induction cs generalizing i with
  | nil => simp [isBoundary, encodeChars, eq_comm]
  | cons c cs ih =>
    rcases Nat.eq_zero_or_pos i with rfl | hpos
    · exact ⟨fun _ => ⟨[], List.nil_prefix, rfl⟩, fun _ => isBoundary_zero _⟩
    · constructor
      · intro h
        rcases Nat.lt_or_ge i (width c) with hi | hi
        · rw [isBoundary_of_lt_width hpos hi] at h
          exact absurd h Bool.false_ne_true
        · obtain ⟨j, rfl⟩ := Nat.exists_eq_add_of_le hi
          rw [isBoundary_add_width, ih] at h
          obtain ⟨a, ha, hj⟩ := h
          exact ⟨c :: a, List.cons_prefix_cons.mpr ⟨rfl, ha⟩, by rw [length_encodeChars_cons, hj]⟩
      · rintro ⟨a, ha, rfl⟩
        cases a with
        | nil => exact isBoundary_zero _
        | cons d a =>
          obtain ⟨rfl, hrest⟩ := List.cons_prefix_cons.mp ha
          rw [length_encodeChars_cons, isBoundary_add_width, ih]
          exact ⟨a, hrest, rfl⟩

/-- Cut where whole characters end, a text leaves them. -/
theorem upTo?_of_isPrefix {a cs : List Char} (h : a <+: cs) :
    upTo? (encodeChars cs) (encodeChars a).length = some (encodeChars a) := by
  rw [upTo?, if_pos (isBoundary_iff.mpr ⟨a, h, rfl⟩)]
  obtain ⟨rest, rfl⟩ := h
  rw [encodeChars_append, List.take_left]

end Utf8

namespace Shared

open Utf8 FileTree

/-! ## The two cuts -/

/-- The characters of a text, with the offsets at which they start. -/
def indexed (start : Nat) : List Char → List (Nat × Char)
  | [] => []
  | c :: cs => (start, c) :: indexed (start + width c) cs

/-- The first characters of two texts, while they agree. -/
def agreeing (start : Nat) (a b : List Char) : List ((Nat × Char) × Char) :=
  ((indexed start a).zip b).takeWhile fun p => p.1.2 = p.2

/-- The offset at which a character ends. -/
def endOf (p : (Nat × Char) × Char) : Nat := p.1.1 + width p.1.2

/-- The offset at which the last character ends that two texts share. -/
def commonEnd (a b : List Char) : Nat := ((agreeing 0 a b).getLast?.map endOf).getD 0

/-- The bytes of a text up to there. -/
def commonSlice? (a b : List Char) : Option Bytes := upTo? (encodeChars a) (commonEnd a b)

/-- The offset of the last separator, looked for from the end. -/
def lastSeparator? (t : Bytes) : Option Nat :=
  (t.reverse.findIdx? (· = slash)).map fun i => t.length - 1 - i

/-- The bytes of a text up to and including its last separator. -/
def cutSlice? (t : Bytes) : Option Bytes :=
  match lastSeparator? t with
  | some i => upTo? t (i + 1)
  | none => some []

/-- The walk is taken from any offset on, for the induction: it ends behind what the two rests of
    the texts have in common. -/
theorem getD_endOf_agreeing (start : Nat) (a b : List Char) :
    ((agreeing start a b).getLast?.map endOf).getD start =
      start + (encodeChars (common a b)).length := by
  induction a generalizing start b with
  | nil => cases b <;> simp [agreeing, indexed, common, encodeChars]
  | cons x a ih =>
    cases b with
    | nil => simp [agreeing, indexed, common, encodeChars]
    | cons y b =>
      rw [common]
      by_cases hxy : x = y
      · have hwalk : agreeing start (x :: a) (y :: b) =
            ((start, x), y) :: agreeing (start + width x) a b := by
          simp [agreeing, indexed, hxy]
        have hlast (l : List ((Nat × Char) × Char)) :
            ((((start, x), y) :: l).getLast?.map endOf).getD start =
              (l.getLast?.map endOf).getD (start + width x) := by
          cases h : l.getLast? <;> simp [List.getLast?_cons, h, endOf]
        rw [if_pos hxy, hwalk, hlast, ih, length_encodeChars_cons, Nat.add_assoc]
      · have hwalk : agreeing start (x :: a) (y :: b) = [] := by simp [agreeing, indexed, hxy]
        rw [if_neg hxy, hwalk]
        simp [encodeChars]

theorem commonEnd_eq (a b : List Char) : commonEnd a b = (encodeChars (common a b)).length := by
  rw [commonEnd, getD_endOf_agreeing, Nat.zero_add]

theorem commonSlice?_eq (a b : List Char) :
    commonSlice? a b = some (encodeChars (common a b)) := by
  rw [commonSlice?, commonEnd_eq]
  exact upTo?_of_isPrefix (common_isPrefix_left a b)

theorem findIdx?_reverse_eq_none {t : Bytes} (h : slash ∉ t) :
    t.reverse.findIdx? (· = slash) = none := by
  rw [List.findIdx?_eq_none_iff]
  intro b hb
  apply decide_eq_false
  intro he
  exact h (he ▸ List.mem_reverse.mp hb)

theorem lastSeparator?_eq_none {t : Bytes} (h : slash ∉ t) : lastSeparator? t = none := by
  rw [lastSeparator?, findIdx?_reverse_eq_none h, Option.map_none]

theorem lastSeparator?_append (before : Bytes) {after : Bytes} (h : slash ∉ after) :
    lastSeparator? (before ++ slash :: after) = some before.length := by
  have hfind : (before ++ slash :: after).reverse.findIdx? (· = slash) = some after.length := by
    rw [List.reverse_append, List.reverse_cons, List.append_assoc, List.findIdx?_append,
      findIdx?_reverse_eq_none h]
    simp [List.findIdx?_cons]
  rw [lastSeparator?, hfind, Option.map_some, List.length_append, List.length_cons]
  congr 1
  omega

theorem cutSlice?_eq (a : List Char) : cutSlice? (encodeChars a) = some (encodeChars (cut a)) := by
  obtain ⟨tail, ha, htail⟩ := exists_eq_cut_append a
  have hslash := slash_not_mem_encodeChars htail
  rcases isFolder_cut a with hnil | hlast
  · -- there is no separator
    rw [hnil, List.nil_append] at ha
    rw [cutSlice?, ha, lastSeparator?_eq_none hslash, ← ha, hnil]
    rfl
  · obtain ⟨before, hcut⟩ := List.getLast?_eq_some_iff.mp hlast
    have hbytes : encodeChars a = encodeChars before ++ slash :: encodeChars tail := by
      rw [ha, hcut, List.append_assoc, encodeChars_append, List.singleton_append, encodeChars_slash]
    have hend : (encodeChars before).length + 1 = (encodeChars (cut a)).length := by
      rw [hcut, encodeChars_append, List.length_append]
      rfl
    rw [cutSlice?, hbytes, lastSeparator?_append _ hslash, ← hbytes]
    simp only [hend]
    exact upTo?_of_isPrefix (cut_isPrefix a)

/-! ## The laws of meeting texts -/

theorem isFolder_meet (a b : List Char) : IsFolder (meet a b) := isFolder_cut _

theorem meet_assoc (a b c : List Char) : meet (meet a b) c = meet a (meet b c) := by
  apply eq_of_prefix_iff (isFolder_meet _ _) (isFolder_meet _ _)
  intro p hp
  rw [prefix_meet_iff hp, prefix_meet_iff hp, prefix_meet_iff hp, prefix_meet_iff hp, and_assoc]

theorem meet_meet_self (a b : List Char) : meet (meet a b) a = meet a b := by
  apply eq_of_prefix_iff (isFolder_meet _ _) (isFolder_meet _ _)
  intro p hp
  rw [prefix_meet_iff hp, prefix_meet_iff hp]
  constructor
  · intro h
    exact h.1
  · intro h
    exact ⟨h, h.1⟩

theorem meet_self {a : List Char} (h : IsFolder a) : meet a a = a := by
  apply eq_of_prefix_iff (isFolder_meet _ _) h
  intro p hp
  rw [prefix_meet_iff hp, and_self]

/-- The longest text of a kind that begins two texts: every other one begins it. -/
structure IsLongest (kind : List Char → Prop) (a b c : List Char) : Prop where
  is_kind : kind c
  left : c <+: a
  right : c <+: b
  longest : ∀ p, kind p → p <+: a → p <+: b → p <+: c

theorem isLongest_common (a b : List Char) : IsLongest (fun _ => True) a b (common a b) where
  is_kind := trivial
  left := common_isPrefix_left a b
  right := common_isPrefix_right a b
  longest := fun _ _ ha hb => prefix_common_iff.mpr ⟨ha, hb⟩

theorem isLongest_meet (a b : List Char) : IsLongest IsFolder a b (meet a b) where
  is_kind := isFolder_meet a b
  left := ((prefix_meet_iff (isFolder_meet a b)).mp List.prefix_rfl).1
  right := ((prefix_meet_iff (isFolder_meet a b)).mp List.prefix_rfl).2
  longest := fun _ hp ha hb => (prefix_meet_iff hp).mpr ⟨ha, hb⟩

/-- What two texts have in common is the longest text that begins both, and their meet the longest
    folder that does. Meeting is commutative, associative and idempotent on folders. Both are got
    by cutting bytes where whole characters end. -/
theorem meet_laws (a b c : List Char) :
    IsLongest (fun _ => True) a b (common a b) ∧ IsLongest IsFolder a b (meet a b) ∧
      meet a b = meet b a ∧ meet (meet a b) c = meet a (meet b c) ∧
      meet (meet a b) a = meet a b ∧ (a.getLast? = some '/' → meet a a = a) ∧
      commonSlice? a b = some (encodeChars (common a b)) ∧
      (commonSlice? a b).bind cutSlice? = some (encodeChars (meet a b)) ∧
      cutSlice? (encodeChars c) = some (encodeChars (cut c)) := by
  refine ⟨isLongest_common a b, isLongest_meet a b, meet_comm a b, meet_assoc a b c,
    meet_meet_self a b, fun h => meet_self (Or.inr h), commonSlice?_eq a b, ?_, cutSlice?_eq c⟩
  rw [commonSlice?_eq, Option.bind_some, cutSlice?_eq, meet]

/-- The two accented letters start with the same byte: the shared bytes end inside them. -/
theorem meet_laws_accented :
    "s3://b/é/".toList.getLast? = some '/' ∧
      meet "s3://b/é/".toList "s3://b/é/".toList = "s3://b/é/".toList ∧
      common "s3://b/é/".toList "s3://b/èa".toList = "s3://b/".toList ∧
      commonEnd "s3://b/é/".toList "s3://b/èa".toList = 7 ∧
      isBoundary (encodeChars "s3://b/é/".toList) 8 = false ∧
      commonSlice? "s3://b/é/".toList "s3://b/èa".toList =
        some (encodeChars "s3://b/".toList) := by
  obtain ⟨-, -, -, -, -, hself, hslice, -, -⟩ :=
    meet_laws "s3://b/é/".toList "s3://b/èa".toList []
  have hcommon : common "s3://b/é/".toList "s3://b/èa".toList = "s3://b/".toList := by decide
  refine ⟨by decide, hself (by decide), hcommon, by decide, by decide, ?_⟩
  rw [hslice, hcommon]

end Shared

end DataStaging
