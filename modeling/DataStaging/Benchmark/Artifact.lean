import DataStaging.Text.Digit

/-!
# Names of benchmark artifacts

An artifact is named `<operation>_<milliseconds>_benchmark.json`. The operation is any text on one
line, with at least one character; the milliseconds are decimal digits of any script.

Results:
* `operationOf_body`: a body splits at its last `_`, so the operation is unique.
-/

namespace DataStaging.Artifact

/-- The end of every artifact name. -/
def ending : List Char := "_benchmark.json".toList

/-- The name of the artifact of an operation that started at `millis`. -/
def name (operation : String) (millis : Int) : String :=
  operation ++ "_" ++ toString millis ++ "_benchmark.json"

/-- What stands before `ending` in a text that ends so. -/
def dropEnding? (ending text : List Char) : Option (List Char) :=
  if ending.isSuffixOf text then some (text.take (text.length - ending.length)) else none

/-- The operation of a body `<operation>_<digits>`, read from the end. -/
def operationOf (body : List Char) : Option (List Char) :=
  let backward := body.reverse
  let digits := backward.takeWhile Digit.isDecimal
  match backward.dropWhile Digit.isDecimal with
  | '_' :: operation =>
    if digits.isEmpty || operation.isEmpty || operation.any (· == '\n') then none
    else some operation.reverse
  | _ => none

/-- The operation that an artifact's name tells, if it is the name of one. -/
def operation? (name : String) : Option String := do
  let body ← dropEnding? ending name.toList
  let operation ← operationOf body
  return String.ofList operation

theorem takeWhile_append_stop {p : Char → Bool} {digits rest : List Char} {c : Char}
    (h : ∀ d ∈ digits, p d = true) (hc : p c = false) :
    (digits ++ c :: rest).takeWhile p = digits ∧ (digits ++ c :: rest).dropWhile p = c :: rest := by
  induction digits with
  | nil => simp [hc]
  | cons d digits ih =>
    have hd : p d = true := h d (by simp)
    have := ih (fun x hx => h x (by simp [hx]))
    simp [hd, this]

theorem operationOf_body (operation digits : List Char) (hd : digits ≠ [])
    (hdec : ∀ d ∈ digits, Digit.isDecimal d = true) (ho : operation ≠ []) (hn : '\n' ∉ operation) :
    operationOf (operation ++ '_' :: digits) = some operation := by
  have hrev : (operation ++ '_' :: digits).reverse =
      digits.reverse ++ '_' :: operation.reverse := by simp
  have hsplit : (digits.reverse ++ '_' :: operation.reverse).takeWhile Digit.isDecimal
        = digits.reverse ∧
      (digits.reverse ++ '_' :: operation.reverse).dropWhile Digit.isDecimal
        = '_' :: operation.reverse :=
    takeWhile_append_stop (fun d h => hdec d (by simpa using h)) (by decide)
  simp only [operationOf, hrev, hsplit.1, hsplit.2]
  simp [hd, ho, hn]

end DataStaging.Artifact
