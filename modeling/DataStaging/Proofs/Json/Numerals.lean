import DataStaging.Json.Record
import DataStaging.Proofs.Files.Steps
import DataStaging.Proofs.Json.Values
import Mathlib.Data.List.Induction

/-!
# Whole numbers in JSON

A whole number is written in decimal digits, with a minus sign if it is negative. A reader takes
these digits as the number itself while it fits into 64 bits, and whatever a reader takes as a count
does fit: what does not is read as a double, and refused.

`Takes` says what a reader makes of the front of a text, and `Yields` what is known of its values.

Results:
* `takes_number`: the digits of a number are read as that number.
* `takes_countValue`: counts, behind blanks.
* `yields_countValue`: what is read as a count fits into 64 bits.
-/

namespace DataStaging.Json

variable {α β : Type}

/-! ## What a reader takes -/

namespace Reader

/-- From the front of the text `t` the reader takes the value `a`, and it leaves `r`. -/
def Takes (x : Reader α) (t : Bytes) (a : α) (r : Bytes) : Prop :=
  ∀ c : Cursor, c.rest = t → taken (x.run c) = some (a, r)

variable {x : Reader α} {f : α → Reader β} {t r r₁ : Bytes} {a : α} {b : β}

theorem taken_eq_some {p : Except Problem α × Cursor} :
    taken p = some (a, r) ↔ ∃ c, p = (.ok a, c) ∧ c.rest = r := by
  rcases p with ⟨problem | a', c⟩
  · simp [taken, Except.toOption]
  · simp [taken, Except.toOption]

theorem takes_pure (a : α) (t : Bytes) : Takes (pure a : Reader α) t a t := by
  rintro c rfl
  rfl

theorem Takes.bind (hx : Takes x t a r₁) (hf : Takes (f a) r₁ b r) : Takes (x >>= f) t b r := by
  intro c hc
  obtain ⟨c₁, hrun, hrest⟩ := taken_eq_some.mp (hx c hc)
  rw [run_bind, hrun]
  exact hf c₁ hrest

/-- A reader that looks where it stands. -/
theorem Takes.get_bind {f : Cursor → Reader β} (hf : ∀ c, c.rest = t → Takes (f c) t b r) :
    Takes (get >>= f) t b r := fun c hc => hf c hc c hc

theorem takes_of_take (hx : Steady x) (h : x.take t = some (a, r)) : Takes x t a r := by
  rintro c rfl
  rw [hx.run_eq, h]

theorem Takes.tryCatch (hx : Takes x t a r) (handle : Problem → Reader α) :
    Takes (MonadExcept.tryCatch x handle) t a r := by
  intro c hc
  obtain ⟨c₁, hrun, hrest⟩ := taken_eq_some.mp (hx c hc)
  have hx : x c = (.ok a, c₁) := hrun
  change taken ((ExceptT.tryCatch x handle).run c) = _
  unfold ExceptT.tryCatch
  rw [ExceptT.run_mk]
  change taken (StateT.bind x _ c) = _
  unfold StateT.bind
  rw [hx, ← hrest]
  rfl

theorem Takes.placed (hx : Takes x t a r) : Takes (placed x) t a r := by
  intro c hc
  rw [taken_placed]
  exact hx c hc

theorem takes_peek (t : Bytes) : Takes peek t t.head? t := by
  rintro c rfl
  rfl

theorem takes_eat (b : UInt8) (t : Bytes) : Takes eat (b :: t) () t := by
  intro c hc
  rw [taken_eat, hc, List.tail_cons]

theorem takes_next (b : UInt8) (t : Bytes) : Takes next (b :: t) (some b) t := by
  intro c hc
  rw [taken_next, hc, List.tail_cons, List.head?_cons]

/-- Behind blanks, the next byte is looked at. -/
theorem takes_peekPastBlanks {blanks : Bytes} (hblanks : Blank blanks) {b : UInt8}
    (hb : Cursor.isBlank b = false) (t : Bytes) :
    Takes peekPastBlanks (blanks ++ b :: t) (some b) (b :: t) := by
  intro c hc
  rw [taken_peekPastBlanks, hc, hblanks.dropWhile_append,
    List.dropWhile_cons_of_neg (Bool.eq_false_iff.mp hb), List.head?_cons]

theorem takes_peekPastBlanks_end {blanks : Bytes} (hblanks : Blank blanks) :
    Takes peekPastBlanks blanks none [] := by
  intro c hc
  rw [taken_peekPastBlanks, hc, blank_iff.mp hblanks, List.head?_nil]

/-- A text is read completely if only blanks are left. -/
theorem Takes.complete (hx : Takes x t a r) (hr : Blank r) : Takes (complete x) t a [] :=
  hx.bind ((takes_peekPastBlanks_end hr).bind (takes_pure a []))

theorem takes_digits {ds : Bytes} (hds : ∀ d ∈ ds, isDigit d = true) {b : UInt8}
    (hb : isDigit b = false) (t : Bytes) : Takes digits (ds ++ b :: t) ds (b :: t) := by
  intro c hc
  rw [taken_digits, hc, List.takeWhile_append_of_pos hds, List.dropWhile_append_of_pos hds,
    List.takeWhile_cons_of_neg (Bool.eq_false_iff.mp hb),
    List.dropWhile_cons_of_neg (Bool.eq_false_iff.mp hb), List.append_nil]

/-! ## What is known of a value -/

/-- Whatever the text, a value that is read is as `P` says. -/
def Yields (x : Reader α) (P : α → Prop) : Prop := ∀ c a c', x.run c = (.ok a, c') → P a

variable {P : α → Prop} {Q : β → Prop}

theorem yields_pure (h : P a) : Yields (pure a : Reader α) P := by
  intro c a' c' hrun
  cases hrun
  exact h

theorem Fails.yields (hx : Fails x) (P : α → Prop) : Yields x P := by
  intro c a c' hrun
  have hnone := hx c
  rw [hrun] at hnone
  cases hnone

theorem Yields.bind (hx : Yields x P) (hf : ∀ a, P a → Yields (f a) Q) : Yields (x >>= f) Q := by
  intro c b c' hrun
  rw [run_bind] at hrun
  rcases hfirst : x.run c with ⟨problem | a, c₁⟩
  · rw [hfirst] at hrun
    cases hrun
  · rw [hfirst] at hrun
    exact hf a (hx c a c₁ hfirst) c₁ b c' hrun

/-- The last part of a reader alone decides on its value. -/
theorem Yields.of_bind (hf : ∀ a, Yields (f a) Q) : Yields (x >>= f) Q :=
  Yields.bind (P := fun _ => True) (fun _ _ _ _ => trivial) fun a _ => hf a

theorem Yields.congr {y : Reader α} (hx : Yields x P) (h : ∀ c, taken (y.run c) = taken (x.run c)) :
    Yields y P := by
  intro c a c' hrun
  have htaken := h c
  rw [hrun] at htaken
  obtain ⟨c₁, hrun₁, -⟩ := taken_eq_some.mp htaken.symm
  exact hx c a c₁ hrun₁

theorem Yields.placed (hx : Yields x P) : Yields (placed x) P := hx.congr taken_placed

end Reader

/-! ## Numerals -/

/-- The digits of a number. -/
def numeral (n : Nat) : Bytes := Utf8.encode (toString n)

/-- The byte of a digit. -/
def digitByte (d : Nat) : UInt8 := UInt8.ofNat (0x30 + d)

theorem toNat_digitByte {d : Nat} (h : d < 10) : (digitByte d).toNat = 0x30 + d := by
  rw [digitByte, UInt8.toNat_ofNat']
  omega

theorem isDigit_digitByte {d : Nat} (h : d < 10) : Reader.isDigit (digitByte d) = true := by
  have hbyte := toNat_digitByte h
  simp only [Reader.isDigit, Bool.and_eq_true, decide_eq_true_eq, UInt8.le_iff_toNat_le, hbyte]
  constructor
  · exact Nat.le_add_right _ _
  · show 0x30 + d ≤ 0x39
    omega

theorem encodeChars_digitChar {d : Nat} (h : d < 10) :
    Utf8.encodeChars [d.digitChar] = [digitByte d] := by
  have hall : ∀ d < 10, Utf8.encodeChars [d.digitChar] = [digitByte d] := by decide
  exact hall d h

theorem numeral_eq (n : Nat) : numeral n = Utf8.encodeChars (Nat.toDigits 10 n) := by
  show Utf8.encodeChars (Nat.repr n).toList = _
  rw [Nat.toList_repr]

theorem numeral_of_lt {n : Nat} (h : n < 10) : numeral n = [digitByte n] := by
  rw [numeral_eq, Nat.toDigits_of_lt_base h, encodeChars_digitChar h]

theorem numeral_of_le {n : Nat} (h : 10 ≤ n) :
    numeral n = numeral (n / 10) ++ [digitByte (n % 10)] := by
  rw [numeral_eq, Nat.toDigits_eq_if (by decide), if_neg (Nat.not_lt.mpr h),
    Utf8.encodeChars_append, encodeChars_digitChar (Nat.mod_lt n (by decide)), ← numeral_eq]

namespace Number

theorem gather_append (start : Nat) (ds : List UInt8) (d : UInt8) : gather start (ds ++ [d]) =
    if (gather start ds).dropped = 0 ∧ (gather start ds).value * 10 + (d.toNat - 0x30) < limit then
      ⟨(gather start ds).value * 10 + (d.toNat - 0x30), (gather start ds).kept + 1, 0⟩
    else ⟨(gather start ds).value, (gather start ds).kept, (gather start ds).dropped + 1⟩ := by
  unfold gather
  rw [List.foldl_append]
  simp only [List.foldl_cons, List.foldl_nil, Bool.and_eq_true, decide_eq_true_eq]

theorem gather_lt {start : Nat} (hstart : start < limit) (ds : List UInt8) :
    (gather start ds).value < limit := by
  induction ds using List.reverseRecOn with
  | nil => exact hstart
  | append_singleton ds d ih =>
    rw [gather_append]
    split_ifs with h
    · exact h.2
    · exact ih

end Number

/-- The digits of a number begin with one that is not zero, and the others complete it; no number
    on the way reaches the limit. -/
theorem exists_numeral_eq {n : Nat} (hpos : 0 < n) (hlimit : n < Number.limit) :
    ∃ d ds, 0 < d ∧ d < 10 ∧ numeral n = digitByte d :: ds ∧
      (∀ b ∈ ds, Reader.isDigit b = true) ∧ Number.gather d ds = ⟨n, ds.length, 0⟩ := by
  induction n using Nat.strong_induction_on with
  | _ n ih =>
    rcases Nat.lt_or_ge n 10 with hlt | hge
    · exact ⟨n, [], hpos, hlt, numeral_of_lt hlt, by simp, rfl⟩
    · obtain ⟨d, ds, hd, hd10, hnumeral, hdigits, hgather⟩ := ih (n / 10) (by omega) (by omega)
        (by omega)
      have hlast : n % 10 < 10 := Nat.mod_lt n (by decide)
      have hvalue : n / 10 * 10 + ((digitByte (n % 10)).toNat - 0x30) = n := by
        rw [toNat_digitByte hlast]
        omega
      refine ⟨d, ds ++ [digitByte (n % 10)], hd, hd10, ?_, ?_, ?_⟩
      · rw [numeral_of_le hge, hnumeral, List.cons_append]
      · intro b hb
        rcases List.mem_append.mp hb with hb | hb
        · exact hdigits b hb
        · rw [List.mem_singleton.mp hb]
          exact isDigit_digitByte hlast
      · rw [Number.gather_append, hgather, hvalue, if_pos ⟨rfl, hlimit⟩, List.length_append,
          List.length_singleton]

/-! ## Reading numbers -/

/-- A numeral begins with a digit. -/
theorem exists_digit_numeral (n : Nat) :
    ∃ d ds, Reader.isDigit d = true ∧ numeral n = d :: ds := by
  induction n using Nat.strong_induction_on with
  | _ n ih =>
    rcases Nat.lt_or_ge n 10 with hlt | hge
    · exact ⟨digitByte n, [], isDigit_digitByte hlt, numeral_of_lt hlt⟩
    · obtain ⟨d, ds, hd, hnumeral⟩ := ih (n / 10) (by omega)
      exact ⟨d, ds ++ [digitByte (n % 10)], hd, by
        rw [numeral_of_le hge, hnumeral, List.cons_append]⟩

theorem not_isBlank_of_isDigit {d : UInt8} (h : Reader.isDigit d = true) :
    Cursor.isBlank d = false := by
  by_contra hblank
  simp only [Cursor.isBlank, Bool.not_eq_false, Bool.or_eq_true, decide_eq_true_eq] at hblank
  rcases hblank with ((rfl | rfl) | rfl) | rfl <;> exact absurd h (by decide)

namespace Reader

/-- A number that stands before this byte is whole and ends there. -/
structure EndsNumber (b : UInt8) : Prop where
  not_digit : isDigit b = false
  not_point : b ≠ 0x2E
  not_exponent : b ≠ 0x65 ∧ b ≠ 0x45

variable {b : UInt8} {n : Nat}

/-- What becomes of the digits of a whole number. -/
def wholeNumber (positive : Bool) (n : Nat) : Number :=
  if positive then .natural n
  else if 0 < n && 2 * n ≤ Number.limit then .negative (-(n : Int))
  else .float (-(Float.ofNat n))

theorem takes_numberTail (hb : EndsNumber b) (positive : Bool) (n kept : Nat) (t : Bytes) :
    Takes (numberTail positive ⟨n, kept, 0⟩) (b :: t) (wholeNumber positive n) (b :: t) := by
  apply (takes_peek _).bind
  rw [List.head?_cons]
  split
  · rename_i heq
    exact absurd (Option.some.inj heq) hb.not_point
  · rename_i heq
    exact absurd (Option.some.inj heq) hb.not_exponent.1
  · rename_i heq
    exact absurd (Option.some.inj heq) hb.not_exponent.2
  · unfold wholeNumber
    simp only [ne_eq, not_true_eq_false, if_false]
    split_ifs <;> exact takes_pure _ _

/-- The digits of a number are read as that number. -/
theorem takes_number (hb : EndsNumber b) (positive : Bool) (hn : n < Number.limit) (t : Bytes) :
    Takes (number positive) (numeral n ++ b :: t) (wholeNumber positive n) (b :: t) := by
  rcases Nat.eq_zero_or_pos n with rfl | hpos
  · have hzero : numeral 0 = [0x30] := numeral_of_lt (by decide)
    rw [hzero, List.singleton_append]
    apply (takes_next _ _).bind
    simp only [if_true]
    apply (takes_peek _).bind
    simp only [List.head?_cons]
    rw [if_neg (Bool.eq_false_iff.mp hb.not_digit)]
    exact takes_numberTail hb positive 0 0 t
  · obtain ⟨d, ds, hd, hd10, hnumeral, hdigits, hgather⟩ := exists_numeral_eq hpos hn
    have hbyte := toNat_digitByte hd10
    have hzero : digitByte d ≠ 0x30 := by
      intro heq
      rw [heq] at hbyte
      have : (0x30 : UInt8).toNat = 0x30 := rfl
      omega
    rw [hnumeral]
    apply (takes_next _ _).bind
    simp only
    rw [if_neg hzero, if_pos (isDigit_digitByte hd10)]
    apply (takes_digits hdigits hb.not_digit t).bind
    rw [hbyte, Nat.add_sub_cancel_left, hgather]
    exact takes_numberTail hb positive n ds.length t

/-- Behind blanks, a number without a sign is handed on. -/
theorem takes_numberValue (hb : EndsNumber b) {blanks : Bytes} (hblanks : Blank blanks)
    {expected : String} {make : Number → Reader α} {a : α} {t : Bytes} (hn : n < Number.limit)
    (hmake : Takes (make (.natural n)) (b :: t) a (b :: t)) :
    Takes (numberValue expected make) (blanks ++ (numeral n ++ b :: t)) a (b :: t) := by
  obtain ⟨d, ds, hd, hnumeral⟩ := exists_digit_numeral n
  have hnumber : Takes (number true) (numeral n ++ b :: t) (.natural n) (b :: t) :=
    takes_number hb true hn t
  rw [hnumeral, List.cons_append] at hnumber ⊢
  apply (takes_peekPastBlanks hblanks (not_isBlank_of_isDigit hd) _).bind
  split
  · rename_i heq
    cases heq
  · rename_i heq
    rw [Option.some.inj heq] at hd
    exact absurd hd (by decide)
  · rename_i heq
    obtain rfl := Option.some.inj heq
    rw [if_pos hd]
    exact hnumber.bind hmake.placed

/-- Behind blanks, a number with a minus sign is handed on. -/
theorem takes_numberValue_negative (hb : EndsNumber b) {blanks : Bytes} (hblanks : Blank blanks)
    {expected : String} {make : Number → Reader α} {a : α} {t : Bytes} (hpos : 0 < n)
    (hn : 2 * n ≤ Number.limit) (hmake : Takes (make (.negative (-n))) (b :: t) a (b :: t)) :
    Takes (numberValue expected make) (blanks ++ 0x2D :: (numeral n ++ b :: t)) a (b :: t) := by
  have hnumber : Takes (number false) (numeral n ++ b :: t) (.negative (-n)) (b :: t) := by
    have htakes := takes_number hb false (n := n) (by unfold Number.limit at hn ⊢; omega) t
    rwa [wholeNumber, if_neg Bool.false_ne_true, if_pos (by simp [hpos, hn])] at htakes
  apply (takes_peekPastBlanks hblanks (by decide) _).bind
  exact (takes_eat _ _).bind (hnumber.bind hmake.placed)

theorem takes_countValue (hb : EndsNumber b) {blanks : Bytes} (hblanks : Blank blanks)
    (hn : n < Number.limit) (t : Bytes) :
    Takes countValue (blanks ++ (numeral n ++ b :: t)) n (b :: t) :=
  takes_numberValue hb hblanks hn (takes_pure n _)

/-! ## What numbers are read -/

/-- A whole number without a sign fits into 64 bits. -/
def Bounded : Number → Prop
  | .natural n => n < Number.limit
  | .negative _ | .float _ => True

theorem yields_float (positive : Bool) (significand : Nat) (exponent : Int) :
    Yields (float positive significand exponent) Bounded := by
  unfold float
  split
  · exact yields_pure trivial
  · exact (fails_failHere _).yields _

theorem yields_exponentPart (positive : Bool) (significand : Nat) (start : Int) :
    Yields (exponentPart positive significand start) Bounded := by
  refine .of_bind fun _ => .of_bind fun positiveExponent => .of_bind fun first => ?_
  split
  · exact (fails_failHere _).yields _
  · split
    · exact (fails_failHere _).yields _
    · refine .of_bind fun c => .of_bind fun more => ?_
      split
      · exact yields_float _ _ _
      · split
        · exact .of_bind fun _ => (fails_failHere _).yields _
        · exact yields_pure trivial

theorem yields_exponentOrEnd (positive : Bool) (significand : Nat) (exponent : Int) :
    Yields (exponentOrEnd positive significand exponent) Bounded := by
  refine .of_bind fun b => ?_
  split
  · exact yields_exponentPart _ _ _
  · exact yields_exponentPart _ _ _
  · exact yields_float _ _ _

theorem yields_fractionPart (positive : Bool) (significand dropped : Nat) :
    Yields (fractionPart positive significand dropped) Bounded := by
  refine .of_bind fun _ => .of_bind fun ds => ?_
  split_ifs
  · refine .of_bind fun b => ?_
    split
    · exact (fails_failAhead _).yields _
    · exact (fails_failAhead _).yields _
  · exact yields_exponentOrEnd _ _ _

theorem yields_numberTail (positive : Bool) {g : Number.Gathered} (hg : g.value < Number.limit) :
    Yields (numberTail positive g) Bounded := by
  refine .of_bind fun b => ?_
  split
  · exact yields_fractionPart _ _ _
  · exact yields_exponentPart _ _ _
  · exact yields_exponentPart _ _ _
  · split_ifs
    · exact yields_float _ _ _
    · exact yields_pure hg
    · exact yields_pure trivial
    · exact yields_pure trivial

theorem yields_number (positive : Bool) : Yields (number positive) Bounded := by
  refine .of_bind fun b => ?_
  split
  · exact (fails_failHere _).yields _
  · rename_i b
    split_ifs
    · refine .of_bind fun d => ?_
      split
      · split_ifs
        · exact (fails_failAhead _).yields _
        · exact yields_numberTail _ (by decide)
      · exact yields_numberTail _ (by decide)
    · have hb := b.toNat_lt
      exact .of_bind fun ds => yields_numberTail _
        (Number.gather_lt (by unfold Number.limit; omega) ds)
    · exact (fails_failHere _).yields _

/-- What is made of numbers that fit is what is made of numbers. -/
theorem yields_numberValue {expected : String} {make : Number → Reader α} {P : α → Prop}
    (hmake : ∀ n, Bounded n → Yields (make n) P) : Yields (numberValue expected make) P := by
  refine .of_bind fun b => ?_
  split
  · exact (fails_failAhead _).yields _
  · exact .of_bind fun _ => (yields_number false).bind fun n hn => (hmake n hn).placed
  · split_ifs
    · exact (yields_number true).bind fun n hn => (hmake n hn).placed
    · exact (fails_refuse _).yields _

/-- What is read as a count fits into 64 bits. -/
theorem yields_countValue : Yields countValue (· < Number.limit) := by
  apply yields_numberValue
  intro n hn
  cases n with
  | natural n => exact yields_pure hn
  | negative n => exact (fails_failShape _).yields _
  | float x => exact (fails_failKind _ _).yields _

end Reader

end DataStaging.Json
