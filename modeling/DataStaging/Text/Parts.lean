/-!
# Parts of a text

A text is cut at every occurrence of a separator, which belongs to no part.

Results:
* `join_cutAt`: the parts with separators between them are the text.
* `not_mem_of_mem_cutAt`: no part holds the separator.
-/

namespace DataStaging.Parts

/-- Cuts characters at every separator. There is always at least one part. -/
def cutAt (separator : Char) : List Char → List (List Char)
  | [] => [[]]
  | c :: rest =>
    if c = separator then [] :: cutAt separator rest
    else match cutAt separator rest with
      | [] => [[c]]
      | part :: more => (c :: part) :: more

/-- Puts a separator between parts. -/
def join (separator : Char) : List (List Char) → List Char
  | [] => []
  | [part] => part
  | part :: more => part ++ separator :: join separator more

theorem cutAt_ne_nil (separator : Char) (text : List Char) : cutAt separator text ≠ [] := by
  cases text with
  | nil => simp [cutAt]
  | cons c rest =>
    simp only [cutAt]
    split
    · simp
    · split <;> simp

theorem join_cutAt (separator : Char) (text : List Char) :
    join separator (cutAt separator text) = text := by
  induction text with
  | nil => rfl
  | cons c rest ih =>
    simp only [cutAt]
    split
    · rename_i h
      cases hc : cutAt separator rest with
      | nil => exact absurd hc (cutAt_ne_nil separator rest)
      | cons part more => simp [join, ← hc, ih, h]
    · cases hc : cutAt separator rest with
      | nil => exact absurd hc (cutAt_ne_nil separator rest)
      | cons part more =>
        rw [hc] at ih
        cases more with
        | nil => simpa [join] using ih
        | cons next others => simpa [join] using ih

theorem not_mem_of_mem_cutAt {separator : Char} {text part : List Char}
    (h : part ∈ cutAt separator text) : separator ∉ part := by
  induction text generalizing part with
  | nil => simp_all [cutAt]
  | cons c rest ih =>
    simp only [cutAt] at h
    split at h
    · rcases List.mem_cons.mp h with rfl | h
      · simp
      · exact ih h
    · rename_i hc
      cases hr : cutAt separator rest with
      | nil => exact absurd hr (cutAt_ne_nil separator rest)
      | cons first more =>
        rw [hr] at h
        rcases List.mem_cons.mp h with rfl | h
        · have : separator ∉ first := ih (by simp [hr])
          simp [this, Ne.symm hc]
        · exact ih (by simp [hr, h])

end DataStaging.Parts
