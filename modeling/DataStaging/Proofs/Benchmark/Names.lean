import DataStaging.Proofs.Files.Components
import DataStaging.Transfer.Mover
import Mathlib.Data.String.Basic

/-!
# The names of artifacts, written and read

An operation may hold everything that its name is made of: bars, digits, even the ending of all
names. The last bar before the ending is still the one after the operation, since no bar is a digit.

Results:
* `operation?_eq_some_iff`: a name tells an operation exactly if it is a name of that operation.
* `artifact_names`: there is one such operation, and the data mover writes names that tell theirs.
-/

namespace DataStaging

namespace Artifact

/-- The name is made of the operation, a run of digits and the ending. -/
def IsNameOf (operation name : String) : Prop :=
  ∃ digits : String, name = operation ++ "_" ++ digits ++ "_benchmark.json" ∧
    (operation ≠ "" ∧ '\n' ∉ operation.toList) ∧
    (digits ≠ "" ∧ ∀ d ∈ digits.toList, Digit.isDecimal d = true)

theorem toList_parts (operation digits : String) :
    (operation ++ "_" ++ digits ++ "_benchmark.json").toList =
      operation.toList ++ '_' :: digits.toList ++ ending := by
  have hbar : "_".toList = ['_'] := by decide
  rw [String.toList_append, String.toList_append, String.toList_append, hbar,
    List.append_assoc operation.toList, List.singleton_append]
  rfl

/-! ## Reading a name -/

theorem dropEnding?_eq_some_iff {ending text body : List Char} :
    dropEnding? ending text = some body ↔ text = body ++ ending := by
  unfold dropEnding?
  constructor
  · intro h
    split_ifs at h with hsuffix
    cases h
    exact (List.suffix_iff_eq_append.mp (List.isSuffixOf_iff_suffix.mp hsuffix)).symm
  · rintro rfl
    rw [if_pos (List.isSuffixOf_iff_suffix.mpr (List.suffix_append body ending))]
    simp

/-- The body is the operation, the last bar and the digits. -/
theorem operationOf_eq_some_iff {body operation : List Char} : operationOf body = some operation ↔
    ∃ digits, body = operation ++ '_' :: digits ∧ (operation ≠ [] ∧ '\n' ∉ operation) ∧
      (digits ≠ [] ∧ ∀ d ∈ digits, Digit.isDecimal d = true) := by
  constructor
  · intro h
    unfold operationOf at h
    simp only at h
    split at h
    · rename_i backward hrest
      split_ifs at h with hcond
      cases h
      simp only [Bool.or_eq_true, List.isEmpty_iff, not_or, Bool.not_eq_true] at hcond
      obtain ⟨⟨hdigits, hne⟩, hline⟩ := hcond
      have hbody : body.reverse = body.reverse.takeWhile Digit.isDecimal ++ '_' :: backward := by
        rw [← hrest, List.takeWhile_append_dropWhile]
      refine ⟨(body.reverse.takeWhile Digit.isDecimal).reverse, ?_, ⟨by simpa using hne, ?_⟩,
        by simpa using hdigits, fun d hd => ?_⟩
      · simpa using congrArg List.reverse hbody
      · rw [List.mem_reverse]
        intro hmem
        exact List.any_eq_false.mp hline _ hmem (by decide)
      · exact List.all_eq_true.mp List.all_takeWhile d (List.mem_reverse.mp hd)
    · cases h
  · rintro ⟨digits, rfl, ⟨hne, hline⟩, hdigits, hdecimal⟩
    exact operationOf_body operation digits hdigits hdecimal hne hline

/-- A name tells an operation exactly if it is a name of that operation. -/
theorem operation?_eq_some_iff {name operation : String} :
    operation? name = some operation ↔ IsNameOf operation name := by
  have hread : operation? name = some operation ↔ ∃ body, name.toList = body ++ ending ∧
      operationOf body = some operation.toList := by
    unfold operation?
    simp only [Option.bind_eq_bind, Option.bind_eq_some_iff, dropEnding?_eq_some_iff,
      Option.pure_def, Option.some.injEq]
    refine exists_congr fun body => and_congr_right fun _ => ⟨?_, fun h => ⟨_, h, by simp⟩⟩
    rintro ⟨chars, hchars, rfl⟩
    rw [hchars, String.toList_ofList]
  rw [hread]
  constructor
  · rintro ⟨body, hname, hbody⟩
    obtain ⟨digits, rfl, ⟨hne, hline⟩, hdigits, hdecimal⟩ := operationOf_eq_some_iff.mp hbody
    refine ⟨String.ofList digits, String.toList_injective ?_, ⟨?_, hline⟩, ?_, ?_⟩
    · rw [hname, toList_parts, String.toList_ofList]
    · rintro rfl
      exact hne rfl
    · simpa using hdigits
    · simpa using hdecimal
  · rintro ⟨digits, rfl, ⟨hne, hline⟩, hdigits, hdecimal⟩
    refine ⟨operation.toList ++ '_' :: digits.toList, toList_parts operation digits,
      operationOf_eq_some_iff.mpr ⟨digits.toList, rfl, ⟨?_, hline⟩, ?_, hdecimal⟩⟩
    · simpa using hne
    · simpa using hdigits

/-! ## Writing a name -/

theorem isNameOf_name {operation : String} (hne : operation ≠ "") (hline : '\n' ∉ operation.toList)
    {millis : Int} (hmillis : 0 ≤ millis) : IsNameOf operation (name operation millis) := by
  obtain ⟨n, rfl⟩ := Int.eq_ofNat_of_zero_le hmillis
  have hdigits : (toString (n : Int)).toList = Nat.toDigits 10 n := Nat.toList_repr
  refine ⟨toString (n : Int), rfl, ⟨hne, hline⟩, fun h => ?_, fun d hd => ?_⟩
  · rw [h] at hdigits
    exact Nat.toDigits_ne_nil hdigits.symm
  · rw [hdigits] at hd
    exact Digit.isDecimal_of_isDigit (Nat.isDigit_of_mem_toDigits (by decide) (by decide) hd)

/-- The name of an artifact is no way upward and no way to stay, so it is the last component of its
    path. -/
theorem fileName?_join_of_isNameOf (folder : String) {operation name : String}
    (h : IsNameOf operation name) (hsep : '/' ∉ operation.toList) :
    Path.fileName? (Path.join folder name).toList = some name.toList := by
  obtain ⟨digits, rfl, -, -, hdecimal⟩ := h
  have hlong : (operation ++ "_" ++ digits ++ "_benchmark.json").toList.length ≥ 15 := by
    rw [toList_parts, List.length_append]
    exact Nat.le_add_left 15 _
  rw [Path.join, String.toList_ofList]
  refine Path.fileName?_join _ ?_ ?_ ?_ ?_
  · rw [toList_parts, List.append_assoc, List.mem_append, List.cons_append, List.mem_cons,
      List.mem_append]
    rintro (hmem | hmem | hmem | hmem)
    · exact hsep hmem
    · exact absurd hmem (by decide)
    · exact absurd (hdecimal _ hmem) (by decide)
    · exact absurd hmem (by decide)
  all_goals
    intro heq
    rw [heq] at hlong
    exact absurd hlong (by decide)

/-- A text is read as the name of an artifact of an operation exactly if it is made of that
    operation, digits and the ending, and there is one such operation. The last component of the
    path that the data mover gives to a transfer tells the transfer's direction. -/
theorem artifact_names :
    (∀ name operation, operation? name = some operation ↔ IsNameOf operation name) ∧
    (∀ name operation operation', IsNameOf operation name → IsNameOf operation' name →
      operation = operation') ∧
    ∀ (mover : Mover) (direction : Direction) (folder : String) (millis : Int),
      mover.benchmarkFolder = some folder → 0 ≤ millis →
      ∃ path name, mover.artifactPath? direction millis = some path ∧
        Path.fileName? path.toList = some name.toList ∧ operation? name = some direction.name := by
  refine ⟨fun name operation => operation?_eq_some_iff, fun name operation operation' h h' => ?_,
    fun mover direction folder millis hfolder hmillis => ?_⟩
  · have hsome := operation?_eq_some_iff.mpr h
    rw [operation?_eq_some_iff.mpr h'] at hsome
    exact (Option.some.inj hsome).symm
  · have hname : IsNameOf direction.name (name direction.name millis) :=
      isNameOf_name (by cases direction <;> decide) (by cases direction <;> decide) hmillis
    refine ⟨Path.join folder (name direction.name millis), name direction.name millis, ?_,
      fileName?_join_of_isNameOf folder hname (by cases direction <;> decide),
      operation?_eq_some_iff.mpr hname⟩
    rw [Mover.artifactPath?, hfolder, Option.map_some]

/-- An operation may hold bars, digits and the ending; what is written into a folder of any name
    tells its direction. -/
theorem artifact_names_nested :
    operation? "a_1_benchmark.json_2_benchmark.json" = some "a_1_benchmark.json" ∧
    IsNameOf "a_1_benchmark.json" "a_1_benchmark.json_2_benchmark.json" ∧
    ∃ path name, (Mover.mk ⟨"m", [], []⟩ 1 (some "/b/..")).artifactPath? .upload 17 = some path ∧
      Path.fileName? path.toList = some name.toList ∧ operation? name = some "upload" := by
  obtain ⟨hiff, hunique, hwritten⟩ := artifact_names
  have htwo : Digit.isDecimal '2' = true := Digit.isDecimal_of_isDigit (by decide)
  have hname : IsNameOf "a_1_benchmark.json" "a_1_benchmark.json_2_benchmark.json" :=
    ⟨"2", by decide, by decide, by decide, by simpa using htwo⟩
  exact ⟨(hiff _ _).mpr hname, hname, hwritten _ .upload "/b/.." 17 rfl (by decide)⟩

end Artifact

end DataStaging
