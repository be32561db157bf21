/-!
# Shared beginnings

What two locators have in common is their longest shared beginning, cut back to its last `/`: it
never ends inside a segment.

Results:
* `common_isPrefix_left`, `common_isPrefix_right`: the shared beginning begins both texts.
* `cut_isPrefix`: cutting back leaves a beginning.
* `meet_comm`: which text comes first does not matter.
-/

namespace DataStaging.Shared

/-- The longest shared beginning of two texts. -/
def common : List Char → List Char → List Char
  | a :: as, b :: bs => if a = b then a :: common as bs else []
  | _, _ => []

/-- A text up to and including its last `/`; nothing if there is none. -/
def cut : List Char → List Char
  | [] => []
  | c :: rest =>
    match cut rest with
    | [] => if c = '/' then [c] else []
    | upto => c :: upto

/-- The shared beginning of two texts, cut back to its last `/`. -/
def meet (a b : List Char) : List Char := cut (common a b)

theorem common_isPrefix_left (a b : List Char) : common a b <+: a := by
  induction a generalizing b with
  | nil => simp [common]
  | cons x a ih =>
    cases b with
    | nil => simp [common]
    | cons y b =>
      simp only [common]
      split
      · exact List.cons_prefix_cons.mpr ⟨rfl, ih b⟩
      · exact List.nil_prefix

theorem common_comm (a b : List Char) : common a b = common b a := by
  induction a generalizing b with
  | nil => cases b <;> simp [common]
  | cons x a ih =>
    cases b with
    | nil => simp [common]
    | cons y b =>
      simp only [common]
      by_cases h : x = y
      · simp [h, ih b]
      · simp [h, Ne.symm h]

theorem common_isPrefix_right (a b : List Char) : common a b <+: b :=
  common_comm a b ▸ common_isPrefix_left b a

theorem cut_isPrefix (a : List Char) : cut a <+: a := by
  induction a with
  | nil => simp [cut]
  | cons x a ih =>
    simp only [cut]
    split
    · split
      · exact List.cons_prefix_cons.mpr ⟨rfl, List.nil_prefix⟩
      · exact List.nil_prefix
    · rename_i upto h
      exact List.cons_prefix_cons.mpr ⟨rfl, ih⟩

theorem meet_comm (a b : List Char) : meet a b = meet b a := by
  rw [meet, meet, common_comm]

end DataStaging.Shared
