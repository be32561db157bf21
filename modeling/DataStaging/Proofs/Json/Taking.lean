import DataStaging.Json.Scalar
import Mathlib.Data.List.Basic
import Mathlib.Tactic.Common

/-!
# What readers take

A reader that succeeds has a value and leaves some bytes. Neither depends on the places that it
counts, and a reader looks at most one byte further than it takes. So what it takes from the front
of a text it takes as well where the text is cut off behind that byte, or goes on otherwise; and a
reader whose last byte closes what it reads does not even need the byte behind it.

Results:
* `Local.bind`, `Closed.bind`: readers in parts.
* `closed_scanString`: strings.
* `local_skipNumber`, `local_word`: numbers and words.
-/

namespace DataStaging.Json

variable {α β : Type}

/-- The value of a reader that has succeeded, and the bytes that it leaves. -/
def taken (p : Except Problem α × Cursor) : Option (α × Bytes) :=
  p.1.toOption.map fun a => (a, p.2.rest)

namespace Reader

/-- What a reader takes from the front of a text, if it succeeds. -/
def take (x : Reader α) (t : Bytes) : Option (α × Bytes) := taken (x.run (.ofWhole t))

/-- A success depends on the bytes alone, and leaves the last of them. -/
structure Steady (x : Reader α) : Prop where
  run_eq : ∀ c, taken (x.run c) = x.take c.rest
  suffix : ∀ {t a r}, x.take t = some (a, r) → r <:+ t

/-- A success depends on the bytes that are taken and on at most one more. -/
structure Local (x : Reader α) : Prop extends Steady x where
  append : ∀ {t a r}, r ≠ [] → ∀ s, x.take (t ++ s) = some (a, r ++ s) ↔ x.take t = some (a, r)

/-- A success depends on the bytes alone that are taken, and there are some. -/
structure Closed (x : Reader α) : Prop extends Steady x where
  length_lt : ∀ {t a r}, x.take t = some (a, r) → r.length < t.length
  append : ∀ {t a r} s, x.take (t ++ s) = some (a, r ++ s) ↔ x.take t = some (a, r)

/-- The reader never succeeds. -/
def Fails (x : Reader α) : Prop := ∀ c, taken (x.run c) = none

/-- The reader takes nothing, and either always succeeds or never. -/
def Plain (x : Reader α) : Prop := ∃ o : Option α, ∀ c, taken (x.run c) = o.map (·, c.rest)

variable {x : Reader α} {f : α → Reader β} {t r s : Bytes} {a : α} {b : β}

theorem Closed.toLocal (hx : Closed x) : Local x := ⟨hx.toSteady, fun _ s => hx.append s⟩

/-! ## Readers in parts -/

theorem run_bind (x : Reader α) (f : α → Reader β) (c : Cursor) : (x >>= f).run c =
    match x.run c with
    | (.ok a, c) => (f a).run c
    | (.error problem, c) => (.error problem, c) := by
  change ExceptT.bindCont f (x.run c).1 (x.run c).2 = _
  rcases x.run c with ⟨_ | _, _⟩ <;> rfl

theorem taken_bind (hf : ∀ a, Steady (f a)) (c : Cursor) :
    taken ((x >>= f).run c) = (taken (x.run c)).bind fun p => (f p.1).take p.2 := by
  rw [run_bind]
  rcases x.run c with ⟨_ | a, c₁⟩
  · rfl
  · exact (hf a).run_eq c₁

theorem take_bind (hf : ∀ a, Steady (f a)) (t : Bytes) :
    (x >>= f).take t = (x.take t).bind fun p => (f p.1).take p.2 :=
  taken_bind hf (.ofWhole t)

theorem take_bind_eq_some (hf : ∀ a, Steady (f a)) : (x >>= f).take t = some (b, r) ↔
    ∃ a r₁, x.take t = some (a, r₁) ∧ (f a).take r₁ = some (b, r) := by
  rw [take_bind hf, Option.bind_eq_some_iff]
  exact Prod.exists

/-- Parts that take the same behind a reader take the same with it. -/
theorem take_bind_congr {g : α → Reader β} (hf : ∀ a, Steady (f a)) (hg : ∀ a, Steady (g a))
    (h : ∀ a r, x.take t = some (a, r) → (f a).take r = (g a).take r) :
    (x >>= f).take t = (x >>= g).take t := by
  rw [take_bind hf, take_bind hg]
  exact Option.bind_congr fun p hp => h p.1 p.2 hp

theorem Steady.bind (hx : Steady x) (hf : ∀ a, Steady (f a)) : Steady (x >>= f) where
  run_eq c := by rw [taken_bind hf, hx.run_eq, take_bind hf]
  suffix h := by
    obtain ⟨a, r₁, hfirst, hsecond⟩ := (take_bind_eq_some hf).mp h
    exact ((hf a).suffix hsecond).trans (hx.suffix hfirst)

theorem Local.bind (hx : Local x) (hf : ∀ a, Local (f a)) : Local (x >>= f) where
  toSteady := hx.toSteady.bind fun a => (hf a).toSteady
  append {t b r} hr s := by
    rw [take_bind_eq_some fun a => (hf a).toSteady, take_bind_eq_some fun a => (hf a).toSteady]
    constructor
    · rintro ⟨a, r₁, hfirst, hsecond⟩
      -- what the second part leaves is the end of what the first part leaves
      obtain ⟨u, rfl⟩ := (hf a).suffix hsecond
      rw [← List.append_assoc] at hfirst hsecond
      exact ⟨a, u ++ r, (hx.append (by simp [hr]) s).mp hfirst, ((hf a).append hr s).mp hsecond⟩
    · rintro ⟨a, r₁, hfirst, hsecond⟩
      have hr₁ : r₁ ≠ [] := by
        rintro rfl
        exact hr (List.suffix_nil.mp ((hf a).suffix hsecond))
      exact ⟨a, r₁ ++ s, (hx.append hr₁ s).mpr hfirst, ((hf a).append hr s).mpr hsecond⟩

/-- What ends in a part that is closed is closed. -/
theorem Closed.bind (hx : Local x) (hf : ∀ a, Closed (f a)) : Closed (x >>= f) where
  toSteady := hx.toSteady.bind fun a => (hf a).toSteady
  length_lt h := by
    obtain ⟨a, r₁, hfirst, hsecond⟩ := (take_bind_eq_some fun a => (hf a).toSteady).mp h
    exact Nat.lt_of_lt_of_le ((hf a).length_lt hsecond) (hx.suffix hfirst).length_le
  append {t b r} s := by
    rw [take_bind_eq_some fun a => (hf a).toSteady, take_bind_eq_some fun a => (hf a).toSteady]
    constructor
    · rintro ⟨a, r₁, hfirst, hsecond⟩
      obtain ⟨u, rfl⟩ := (hf a).suffix hsecond
      have hshorter := (hf a).length_lt hsecond
      have hne : u ++ r ≠ [] := by
        rintro heq
        simp_all
      rw [← List.append_assoc] at hfirst hsecond
      exact ⟨a, u ++ r, (hx.append hne s).mp hfirst, ((hf a).append s).mp hsecond⟩
    · rintro ⟨a, r₁, hfirst, hsecond⟩
      have hr₁ : r₁ ≠ [] := List.ne_nil_of_length_pos
        (Nat.zero_lt_of_lt ((hf a).length_lt hsecond))
      exact ⟨a, r₁ ++ s, (hx.append hr₁ s).mpr hfirst, ((hf a).append s).mpr hsecond⟩

/-! ## Readers that take nothing -/

theorem Plain.take_eq {o : Option α} (h : ∀ c, taken (x.run c) = o.map (·, c.rest)) (t : Bytes) :
    x.take t = o.map (·, t) := h (.ofWhole t)

theorem Plain.toLocal (hx : Plain x) : Local x := by
  obtain ⟨o, ho⟩ := hx
  refine ⟨⟨fun c => (ho c).trans (Plain.take_eq ho c.rest).symm, fun h => ?_⟩, fun hr s => ?_⟩
  · rw [Plain.take_eq ho] at h
    obtain ⟨a, -, heq⟩ := Option.map_eq_some_iff.mp h
    exact (Prod.mk.inj heq).2 ▸ List.suffix_refl _
  · simp [Plain.take_eq ho, Prod.ext_iff]

theorem Fails.plain (hx : Fails x) : Plain x := ⟨none, hx⟩

theorem Fails.toLocal (hx : Fails x) : Local x := hx.plain.toLocal

theorem plain_pure (a : α) : Plain (pure a : Reader α) := ⟨some a, fun _ => rfl⟩

theorem fails_throw (problem : Problem) : Fails (throw problem : Reader α) := fun _ => rfl

theorem fails_failHere (flaw : Flaw) : Fails (failHere flaw : Reader α) := fun _ => rfl

theorem fails_failAhead (flaw : Flaw) : Fails (failAhead flaw : Reader α) := fun _ => rfl

theorem take_pure (a : α) (t : Bytes) : (pure a : Reader α).take t = some (a, t) := rfl

theorem take_failAhead (flaw : Flaw) (t : Bytes) : (failAhead flaw : Reader α).take t = none := rfl

/-- What is made of a value takes no more than the value. -/
theorem take_bind_pure (g : α → β) : (x >>= fun a => pure (g a)).take t = some (b, r) ↔
    ∃ a, x.take t = some (a, r) ∧ g a = b := by
  refine (take_bind_eq_some fun a => (plain_pure (g a)).toLocal.toSteady).trans ?_
  simp only [take_pure, Option.some_inj, Prod.mk.injEq]
  constructor
  · rintro ⟨a, _, hx, ha, rfl⟩
    exact ⟨a, hx, ha⟩
  · rintro ⟨a, hx, ha⟩
    exact ⟨a, r, hx, ha, rfl⟩

theorem Fails.bind_left (hx : Fails x) : Fails (x >>= f) := by
  intro c
  have hnone := hx c
  rw [run_bind]
  rcases hrun : x.run c with ⟨_ | a, c₁⟩
  · rfl
  · rw [hrun] at hnone
    cases hnone

theorem Fails.bind_right (hf : ∀ a, Fails (f a)) : Fails (x >>= f) := by
  intro c
  rw [run_bind]
  rcases x.run c with ⟨_ | a, c₁⟩
  · rfl
  · exact hf a c₁

/-- A closed part stays closed, whatever is made of its value. -/
theorem Closed.bind_plain (hx : Closed x) (hf : ∀ a, Plain (f a)) : Closed (x >>= f) := by
  have hsteady := fun a => (hf a).toLocal.toSteady
  have htake : ∀ {t b r}, (x >>= f).take t = some (b, r) ↔
      ∃ a, x.take t = some (a, r) ∧ (f a).take [] = some (b, []) := by
    intro t b r
    rw [take_bind_eq_some hsteady]
    constructor
    · rintro ⟨a, r₁, hfirst, hsecond⟩
      obtain ⟨o, ho⟩ := hf a
      rw [Plain.take_eq ho] at hsecond
      obtain ⟨a', rfl, heq⟩ := Option.map_eq_some_iff.mp hsecond
      obtain ⟨rfl, rfl⟩ := Prod.mk.inj heq
      exact ⟨a, hfirst, Plain.take_eq ho []⟩
    · rintro ⟨a, hfirst, hsecond⟩
      obtain ⟨o, ho⟩ := hf a
      rw [Plain.take_eq ho] at hsecond
      obtain ⟨a', rfl, heq⟩ := Option.map_eq_some_iff.mp hsecond
      obtain ⟨rfl, -⟩ := Prod.mk.inj heq
      exact ⟨a, r, hfirst, Plain.take_eq ho r⟩
  refine ⟨hx.toSteady.bind hsteady, fun h => ?_, fun s => ?_⟩
  · obtain ⟨a, hfirst, -⟩ := htake.mp h
    exact hx.length_lt hfirst
  · simp only [htake, hx.append s]

/-! ## Bytes -/

/-- A reader that always succeeds. -/
theorem Local.of_total (value : Bytes → α) (left : Bytes → Bytes)
    (hrun : ∀ c, taken (x.run c) = some (value c.rest, left c.rest)) (hsuffix : ∀ t, left t <:+ t)
    (happend : ∀ t s, left t ≠ [] → value (t ++ s) = value t ∧ left (t ++ s) = left t ++ s)
    (hshort : ∀ t s, left t = [] → left (t ++ s) <:+ s) : Local x := by
  have htake : ∀ t, x.take t = some (value t, left t) := fun t => hrun (.ofWhole t)
  refine ⟨⟨fun c => (hrun c).trans (htake c.rest).symm, fun h => ?_⟩, fun {t a r} hr s => ?_⟩
  · rw [htake] at h
    exact (Prod.mk.inj (Option.some.inj h)).2 ▸ hsuffix _
  · rw [htake, htake, Option.some_inj, Option.some_inj, Prod.mk.injEq, Prod.mk.injEq]
    by_cases hleft : left t = []
    · have hlength := (hshort t s hleft).length_le
      have hpos := List.length_pos_iff.mpr hr
      constructor
      · rintro ⟨-, heq⟩
        rw [heq, List.length_append] at hlength
        omega
      · rintro ⟨-, rfl⟩
        exact absurd hleft hr
    · obtain ⟨hvalue, happ⟩ := happend t s hleft
      rw [hvalue, happ, List.append_left_inj]

theorem local_peek : Local peek :=
  .of_total List.head? id (fun _ => rfl) List.suffix_refl
    (fun t _ ht => ⟨List.head?_append_of_ne_nil t ht, rfl⟩)
    fun t s ht => by rw [show t = [] from ht]; exact List.suffix_refl s

theorem rest_advance (c : Cursor) : c.advance.rest = c.rest.tail := by
  unfold Cursor.advance
  split <;> simp_all

/-- The readers of one byte leave all bytes but the first. -/
theorem tail_append {t : Bytes} (s : Bytes) (ht : t.tail ≠ []) : (t ++ s).tail = t.tail ++ s :=
  List.tail_append_of_ne_nil fun h => ht (by rw [h]; rfl)

theorem tail_suffix_of_short {t : Bytes} (s : Bytes) (ht : t.tail = []) : (t ++ s).tail <:+ s := by
  match t, ht with
  | [], _ => exact List.tail_suffix s
  | [b], _ => exact List.suffix_refl s

theorem taken_eat (c : Cursor) : taken (eat.run c) = some ((), c.rest.tail) := by
  rw [← rest_advance]
  rfl

theorem taken_next (c : Cursor) : taken (next.run c) = some (c.rest.head?, c.rest.tail) := by
  rw [← rest_advance]
  rfl

theorem local_eat : Local eat :=
  .of_total (fun _ => ()) List.tail taken_eat List.tail_suffix
    (fun _ s ht => ⟨rfl, tail_append s ht⟩) fun _ s => tail_suffix_of_short s

theorem local_next : Local next :=
  .of_total List.head? List.tail taken_next List.tail_suffix
    (fun t s ht => ⟨List.head?_append_of_ne_nil t fun h => ht (by rw [h]; rfl), tail_append s ht⟩)
    fun _ s => tail_suffix_of_short s

/-- Dropping goes on behind a text only if all of it is dropped. -/
theorem dropWhile_append_of_left {p : UInt8 → Bool} {t : Bytes} (s : Bytes)
    (ht : t.dropWhile p ≠ []) : (t ++ s).dropWhile p = t.dropWhile p ++ s := by
  rw [List.dropWhile_append, if_neg (by simpa using ht)]

theorem dropWhile_suffix_of_left {p : UInt8 → Bool} {t : Bytes} (s : Bytes)
    (ht : t.dropWhile p = []) : (t ++ s).dropWhile p <:+ s := by
  rw [List.dropWhile_append, if_pos (by simpa using ht)]
  exact List.dropWhile_suffix p

theorem fst_passBlanks (t : Bytes) (place : Place) :
    (Cursor.passBlanks t place).1 = t.dropWhile Cursor.isBlank := by
  induction t generalizing place with
  | nil => rfl
  | cons b rest ih =>
    rw [Cursor.passBlanks, List.dropWhile_cons]
    split_ifs
    · exact ih _
    · rfl

theorem taken_peekPastBlanks (c : Cursor) : taken (peekPastBlanks.run c) =
    some ((c.rest.dropWhile Cursor.isBlank).head?, c.rest.dropWhile Cursor.isBlank) := by
  rw [← fst_passBlanks c.rest c.place]
  rfl

theorem local_peekPastBlanks : Local peekPastBlanks :=
  .of_total (fun t => (t.dropWhile Cursor.isBlank).head?) (List.dropWhile Cursor.isBlank)
    taken_peekPastBlanks (fun _ => List.dropWhile_suffix _)
    (fun t s ht => by
      rw [dropWhile_append_of_left s ht]
      exact ⟨List.head?_append_of_ne_nil _ ht, rfl⟩)
    fun _ s => dropWhile_suffix_of_left s

theorem taken_digits (c : Cursor) : taken (digits.run c) =
    some (c.rest.takeWhile isDigit, c.rest.dropWhile isDigit) := rfl

theorem local_digits : Local digits :=
  .of_total (List.takeWhile isDigit) (List.dropWhile isDigit) taken_digits
    (fun _ => List.dropWhile_suffix _)
    (fun t s ht => by
      refine ⟨?_, dropWhile_append_of_left s ht⟩
      rw [List.takeWhile_append, if_neg]
      intro hlength
      have hparts := congrArg List.length (List.takeWhile_append_dropWhile (p := isDigit) (l := t))
      rw [List.length_append, hlength, Nat.add_eq_left, List.length_eq_zero_iff] at hparts
      exact ht hparts)
    fun _ s => dropWhile_suffix_of_left s

/-! ## Words and numbers -/

theorem local_word (letters : List UInt8) : Local (word letters) := by
  induction letters with
  | nil => exact (plain_pure ()).toLocal
  | cons expected more ih =>
    refine local_next.bind fun b => ?_
    split
    · exact (fails_failHere _).toLocal
    · split_ifs
      · exact ih
      · exact (fails_failHere _).toLocal

/-- Takes the digits of an exponent. -/
def skipExponentDigits : Reader Unit := do
  match ← next with
  | some d => if isDigit d then let _ ← digits else failHere .invalidNumber
  | none => failHere .invalidNumber

theorem local_skipExponentDigits : Local skipExponentDigits := by
  refine local_next.bind fun b => ?_
  split
  · split_ifs
    · exact local_digits.bind fun _ => (plain_pure ()).toLocal
    · exact (fails_failHere _).toLocal
  · exact (fails_failHere _).toLocal

theorem local_skipExponent : Local skipExponent := by
  refine local_eat.bind fun _ => local_peek.bind fun b => ?_
  split
  · exact local_eat.bind fun _ => local_skipExponentDigits
  · exact local_eat.bind fun _ => local_skipExponentDigits
  · exact local_skipExponentDigits

/-- A number takes at least one byte. -/
theorem exists_skipNumber_eq : ∃ f, skipNumber = next >>= f ∧ ∀ b, Local (f b) := by
  refine ⟨_, rfl, fun b => ?_⟩
  extract_lets exponent fraction
  have hexponent : ∀ u, Local (exponent u) := by
    refine fun _ => local_peek.bind fun b => ?_
    split
    · exact local_skipExponent
    · exact local_skipExponent
    · exact (plain_pure ()).toLocal
  have hfraction : ∀ u, Local (fraction u) := by
    refine fun _ => local_peek.bind fun b => ?_
    split
    · refine local_eat.bind fun _ => local_digits.bind fun digits => ?_
      split_ifs
      · exact (fails_failAhead _).bind_left.toLocal
      · exact hexponent ()
    · exact local_skipExponent
    · exact local_skipExponent
    · exact (plain_pure ()).toLocal
  split
  · split_ifs
    · refine local_peek.bind fun d => ?_
      split
      · split_ifs
        · exact (fails_failAhead _).bind_left.toLocal
        · exact hfraction ()
      · exact hfraction ()
    · exact local_digits.bind fun _ => hfraction ()
    · exact (fails_failHere _).bind_left.toLocal
  · exact (fails_failHere _).bind_left.toLocal

theorem local_skipNumber : Local skipNumber := by
  obtain ⟨f, heq, hf⟩ := exists_skipNumber_eq
  exact heq ▸ local_next.bind hf

/-! ## Strings -/

/-- What a scan takes, if it comes to the end of the string. -/
def scanned (keep : Bool) : Bytes → EscapeState → Bytes → Option (Bytes × Bytes)
  | [], _, _ => none
  | b :: rest, state, text =>
    match scanStep keep b state with
    | .go state more => scanned keep rest state (more.reverse ++ text)
    | .close => some (text.reverse, rest)
    | .fail _ => none

theorem scan_eq (keep leaveControl : Bool) (t : Bytes) (place : Place) (state : EscapeState)
    (text : Bytes) : ((scan keep leaveControl t place state text).outcome.toOption.map fun text' =>
      (text', (scan keep leaveControl t place state text).rest)) = scanned keep t state text := by
  induction t generalizing place state text with
  | nil => rfl
  | cons b rest ih =>
    unfold scan scanned
    cases scanStep keep b state with
    | go state more => exact ih _ _ _
    | close => rfl
    | fail flaw =>
      simp only
      split_ifs <;> rfl

theorem scanned_suffix {keep : Bool} {state : EscapeState} {text text' : Bytes}
    (h : scanned keep t state text = some (text', r)) : r <:+ t ∧ r.length < t.length := by
  induction t generalizing state text with
  | nil => cases h
  | cons b rest ih =>
    unfold scanned at h
    split at h
    · obtain ⟨hsuffix, hlength⟩ := ih h
      exact ⟨hsuffix.trans (List.suffix_cons b rest), Nat.lt_succ_of_lt hlength⟩
    · obtain ⟨-, rfl⟩ := Prod.mk.inj (Option.some.inj h)
      exact ⟨List.suffix_cons b rest, Nat.lt_succ_self _⟩
    · cases h

theorem scanned_append {keep : Bool} {state : EscapeState} {text text' : Bytes} (s : Bytes) :
    scanned keep (t ++ s) state text = some (text', r ++ s) ↔
      scanned keep t state text = some (text', r) := by
  induction t generalizing state text with
  | nil =>
    refine ⟨fun h => ?_, nofun⟩
    have hlength := (scanned_suffix h).2
    rw [List.nil_append, List.length_append] at hlength
    omega
  | cons b rest ih =>
    rw [List.cons_append]
    unfold scanned
    split
    · exact ih
    · simp [Prod.ext_iff]
    · exact ⟨nofun, nofun⟩

theorem run_get_bind (f : Cursor → Reader α) (c : Cursor) : (get >>= f).run c = (f c).run c := rfl

theorem run_set_bind (c' : Cursor) (f : PUnit → Reader α) (c : Cursor) :
    (set c' >>= f).run c = (f ⟨⟩).run c' := rfl

theorem taken_scanString (keep : Bool) (c : Cursor) :
    taken ((scanString keep).run c) = scanned keep c.rest .plain [] := by
  rw [← scan_eq keep (!keep && !c.stream) c.rest c.place .plain []]
  unfold scanString
  rw [run_get_bind]
  generalize scan keep (!keep && !c.stream) c.rest c.place .plain [] = ending
  simp only [run_set_bind]
  cases ending.outcome <;> rfl

theorem closed_scanString (keep : Bool) : Closed (scanString keep) where
  run_eq c := (taken_scanString keep c).trans (taken_scanString keep (.ofWhole c.rest)).symm
  suffix h := (scanned_suffix ((taken_scanString keep (.ofWhole _)).symm.trans h)).1
  length_lt h := (scanned_suffix ((taken_scanString keep (.ofWhole _)).symm.trans h)).2
  append s := by
    rw [take, take, taken_scanString, taken_scanString]
    exact scanned_append s

theorem closed_text : Closed text := by
  refine (closed_scanString true).bind_plain fun bytes => ?_
  split
  · exact plain_pure _
  · exact (fails_failHere _).plain

theorem closed_skipText : Closed skipText :=
  (closed_scanString false).bind_plain fun _ => plain_pure ()

end Reader

end DataStaging.Json
