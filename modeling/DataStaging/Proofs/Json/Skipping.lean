import DataStaging.Proofs.Json.Forms

/-!
# Values that are skipped

A value that nobody asked for is taken in turns, each of which takes a scalar or opens a list or an
object; the open ones wait in a list of frames. `IsJson` is the grammar of such values, and has
nothing to do with frames. A string is only looked through for its end, so it need not be UTF-8, and
its surrogates need no partner.

Results:
* `takes_skipText`, `takes_skipNumber`: strings and numbers.
* `skips_of_spells`: a value, whatever is open around it.
* `reads_skipValue`: every value is skipped.
-/

namespace DataStaging.Json

open Reader

variable {t r : Bytes}

/-! ## Scalars -/

/-- What stands behind the opening quote of a string, up to its closing one. -/
inductive IsText : Bytes → Prop
  | close : IsText [0x22]
  | plain {b : UInt8} {body : Bytes} (hquote : b ≠ 0x22) (hescape : b ≠ 0x5C)
      (hcontrol : ¬ b < 0x20) (hbody : IsText body) : IsText (b :: body)
  | letter {b : UInt8} {body : Bytes} (hletter : (letterByte? b).isSome) (hbody : IsText body) :
      IsText (0x5C :: b :: body)
  | unit {d₁ d₂ d₃ d₄ : UInt8} {body : Bytes}
      (hdigits : ∀ d ∈ [d₁, d₂, d₃, d₄], (hexValue? d).isSome) (hbody : IsText body) :
      IsText (0x5C :: 0x75 :: d₁ :: d₂ :: d₃ :: d₄ :: body)

/-- At least one digit. -/
structure IsDigits (ds : Bytes) : Prop where
  ne_nil : ds ≠ []
  digits : ∀ d ∈ ds, isDigit d = true

/-- A whole number is zero or does not begin with it. -/
inductive IsWhole : Bytes → Prop
  | zero : IsWhole [0x30]
  | digits {d : UInt8} {ds : Bytes} (hzero : d ≠ 0x30) (hd : isDigit d = true)
      (hds : ∀ b ∈ ds, isDigit b = true) : IsWhole (d :: ds)

/-- A point and digits, or nothing. -/
inductive IsFraction : Bytes → Prop
  | none : IsFraction []
  | some {ds : Bytes} (hds : IsDigits ds) : IsFraction (0x2E :: ds)

/-- A letter, perhaps a sign, and digits, or nothing. -/
inductive IsExponent : Bytes → Prop
  | none : IsExponent []
  | some {letter : UInt8} {sign ds : Bytes} (hletter : letter = 0x65 ∨ letter = 0x45)
      (hsign : sign = [] ∨ sign = [0x2B] ∨ sign = [0x2D]) (hds : IsDigits ds) :
      IsExponent (letter :: (sign ++ ds))

/-- A number without a sign. -/
def IsNumber (text : Bytes) : Prop :=
  ∃ whole fraction exponent, IsWhole whole ∧ IsFraction fraction ∧ IsExponent exponent ∧
    text = whole ++ (fraction ++ exponent)

theorem letterByte?_ne_unit {b : UInt8} (h : (letterByte? b).isSome) : b ≠ 0x75 := by
  rintro rfl
  exact absurd h (by decide)

theorem exists_unitOf? {d₁ d₂ d₃ d₄ : UInt8}
    (h : ∀ d ∈ [d₁, d₂, d₃, d₄], (hexValue? d).isSome) :
    ∃ unit, unitOf? [d₄, d₃, d₂, d₁] = some unit := by
  simp only [List.forall_mem_cons, Option.isSome_iff_exists] at h
  obtain ⟨⟨n₁, h₁⟩, ⟨n₂, h₂⟩, ⟨n₃, h₃⟩, ⟨n₄, h₄⟩, -⟩ := h
  simp [unitOf?, h₁, h₂, h₃, h₄]

namespace Reader

theorem scanned_go {b : UInt8} {state state' : EscapeState} {more : Bytes}
    (h : scanStep false b state = .go state' more) (t text : Bytes) :
    scanned false (b :: t) state text = scanned false t state' (more.reverse ++ text) := by
  rw [scanned, h]

/-- A string is looked through up to its closing quote. -/
theorem exists_scanned {body : Bytes} (h : IsText body) (t text : Bytes) :
    ∃ text', scanned false (body ++ t) .plain text = some (text', t) := by
  induction h generalizing text with
  | close => exact ⟨text.reverse, rfl⟩
  | @plain b body hquote hescape hcontrol hbody ih =>
    have hstep : scanStep false b .plain = .go .plain [b] := by
      rw [scanStep, if_neg hquote, if_neg hescape, if_neg hcontrol]
    rw [List.cons_append, scanned_go hstep]
    exact ih _
  | @letter b body hletter hbody ih =>
    obtain ⟨byte, hbyte⟩ := Option.isSome_iff_exists.mp hletter
    have hescape : scanStep false 0x5C .plain = .go .escape [] := rfl
    have hstep : scanStep false b .escape = .go .plain [byte] := by
      rw [scanStep, if_neg (letterByte?_ne_unit hletter), hbyte]
    rw [List.cons_append, List.cons_append, scanned_go hescape, scanned_go hstep]
    exact ih _
  | @unit d₁ d₂ d₃ d₄ body hdigits hbody ih =>
    obtain ⟨unit, hunit⟩ := exists_unitOf? hdigits
    have hescape : scanStep false 0x5C .plain = .go .escape [] := rfl
    have hunits : scanStep false 0x75 .escape = .go (.digits [] none) [] := rfl
    have hmore (d : UInt8) {seen : List UInt8} (hseen : seen.length < 3) :
        scanStep false d (.digits seen none) = .go (.digits (d :: seen) none) [] := by
      rw [scanStep, if_pos hseen]
    have hlast : scanStep false d₄ (.digits [d₃, d₂, d₁] none) = .go .plain [] := by
      rw [scanStep, if_neg (by simp), hunit]
      rfl
    simp only [List.cons_append]
    rw [scanned_go hescape, scanned_go hunits, scanned_go (hmore d₁ (by decide)),
      scanned_go (hmore d₂ (by simp)), scanned_go (hmore d₃ (by simp)), scanned_go hlast]
    exact ih _

theorem takes_skipText {body : Bytes} (h : IsText body) (t : Bytes) :
    Takes skipText (body ++ t) () t := by
  obtain ⟨text, hscanned⟩ := exists_scanned h t []
  have hscan : Takes (scanString false) (body ++ t) text t := by
    intro c hc
    rw [taken_scanString, hc, hscanned]
  exact hscan.bind (takes_pure () t)

variable {b : UInt8}

/-- At least one digit is taken, and then all others. -/
theorem takes_skipExponentDigits {ds : Bytes} (hds : IsDigits ds) (hb : isDigit b = false)
    (t : Bytes) : Takes skipExponentDigits (ds ++ b :: t) () (b :: t) := by
  obtain ⟨d, more, rfl⟩ := List.exists_cons_of_ne_nil hds.ne_nil
  have hd := hds.digits d List.mem_cons_self
  have hmore := fun x hx => hds.digits x (List.mem_cons_of_mem d hx)
  apply (takes_next d _).bind
  simp only [hd, if_true]
  exact (takes_digits hmore hb t).bind (takes_pure () _)

theorem takes_skipExponent {letter : UInt8} {sign ds : Bytes}
    (hsign : sign = [] ∨ sign = [0x2B] ∨ sign = [0x2D]) (hds : IsDigits ds)
    (hb : isDigit b = false) (t : Bytes) :
    Takes skipExponent (letter :: (sign ++ (ds ++ b :: t))) () (b :: t) := by
  have hdigits := takes_skipExponentDigits hds hb t
  apply (takes_eat _ _).bind
  apply (takes_peek _).bind
  rcases hsign with rfl | rfl | rfl
  · obtain ⟨d, more, rfl⟩ := List.exists_cons_of_ne_nil hds.ne_nil
    have hd := hds.digits d List.mem_cons_self
    split
    · rename_i heq
      rw [Option.some.inj heq] at hd
      exact absurd hd (by decide)
    · rename_i heq
      rw [Option.some.inj heq] at hd
      exact absurd hd (by decide)
    · exact hdigits
  · exact (takes_eat _ _).bind hdigits
  · exact (takes_eat _ _).bind hdigits

/-- Takes an exponent, if there is one. -/
def skipExponentPart : Reader Unit := do
  match ← peek with
  | some 0x65 | some 0x45 => skipExponent
  | _ => pure ()

/-- Takes a fraction and an exponent, if there are any. -/
def skipFractionPart : Reader Unit := do
  match ← peek with
  | some 0x2E =>
    eat
    let taken ← digits
    if taken.isEmpty then failAhead .invalidNumber
    skipExponentPart
  | some 0x65 | some 0x45 => skipExponent
  | _ => pure ()

theorem takes_skipExponentPart {text : Bytes} (h : IsExponent text) (hb : EndsNumber b)
    (t : Bytes) : Takes skipExponentPart (text ++ b :: t) () (b :: t) := by
  apply (takes_peek _).bind
  cases h with
  | none =>
    split
    · rename_i heq
      exact absurd (Option.some.inj heq) hb.not_exponent.1
    · rename_i heq
      exact absurd (Option.some.inj heq) hb.not_exponent.2
    · exact takes_pure () _
  | some hletter hsign hds =>
    rw [List.cons_append, List.append_assoc]
    rcases hletter with rfl | rfl <;> exact takes_skipExponent hsign hds hb.not_digit t

/-- Neither a fraction nor an exponent begins with a digit. -/
theorem exists_not_digit {fraction exponent : Bytes} (hfraction : IsFraction fraction)
    (hexponent : IsExponent exponent) (hb : EndsNumber b) (t : Bytes) :
    ∃ c u, fraction ++ (exponent ++ b :: t) = c :: u ∧ isDigit c = false := by
  cases hfraction with
  | some _ => exact ⟨_, _, rfl, by decide⟩
  | none =>
    cases hexponent with
    | none => exact ⟨b, t, rfl, hb.not_digit⟩
    | some hletter _ _ =>
      refine ⟨_, _, rfl, ?_⟩
      rcases hletter with rfl | rfl <;> decide

theorem takes_skipFractionPart {fraction exponent : Bytes} (hfraction : IsFraction fraction)
    (hexponent : IsExponent exponent) (hb : EndsNumber b) (t : Bytes) :
    Takes skipFractionPart (fraction ++ (exponent ++ b :: t)) () (b :: t) := by
  apply (takes_peek _).bind
  cases hfraction with
  | none =>
    cases hexponent with
    | none =>
      split
      · rename_i heq
        exact absurd (Option.some.inj heq) hb.not_point
      · rename_i heq
        exact absurd (Option.some.inj heq) hb.not_exponent.1
      · rename_i heq
        exact absurd (Option.some.inj heq) hb.not_exponent.2
      · exact takes_pure () _
    | some hletter hsign hds =>
      rw [List.nil_append, List.cons_append, List.append_assoc]
      rcases hletter with rfl | rfl <;> exact takes_skipExponent hsign hds hb.not_digit t
  | @some ds hds =>
    obtain ⟨c, u, heq, hc⟩ := exists_not_digit .none hexponent hb t
    have hpart := takes_skipExponentPart hexponent hb t
    rw [List.nil_append] at heq
    rw [heq] at hpart
    rw [heq]
    apply (takes_eat _ _).bind
    apply (takes_digits hds.digits hc u).bind
    have hne : ds.isEmpty = false := by simpa using hds.ne_nil
    rw [hne]
    exact hpart

theorem takes_skipNumber {text : Bytes} (h : IsNumber text) (hb : EndsNumber b) (t : Bytes) :
    Takes skipNumber (text ++ b :: t) () (b :: t) := by
  obtain ⟨whole, fraction, exponent, hwhole, hfraction, hexponent, rfl⟩ := h
  have hpart := takes_skipFractionPart hfraction hexponent hb t
  obtain ⟨c, u, heq, hc⟩ := exists_not_digit hfraction hexponent hb t
  rw [List.append_assoc, List.append_assoc]
  rw [heq] at hpart ⊢
  cases hwhole with
  | zero =>
    rw [List.singleton_append]
    apply (takes_next _ _).bind
    apply (takes_peek _).bind
    simp only [List.head?_cons, hc]
    exact hpart
  | @digits d ds hzero hd hds =>
    apply (takes_next _ _).bind
    simp only [hzero, hd, if_false, if_true]
    exact (takes_digits hds hc u).bind hpart

end Reader

/-! ## Values -/

/-- A value without parts. -/
inductive IsScalar : Bytes → Prop
  | null : IsScalar [0x6E, 0x75, 0x6C, 0x6C]
  | true : IsScalar [0x74, 0x72, 0x75, 0x65]
  | false : IsScalar [0x66, 0x61, 0x6C, 0x73, 0x65]
  | positive {text : Bytes} (h : IsNumber text) : IsScalar text
  | negative {text : Bytes} (h : IsNumber text) : IsScalar (0x2D :: text)
  | string {body : Bytes} (h : IsText body) : IsScalar (0x22 :: body)

def Reader.Frame.opening : Frame → UInt8
  | .list => 0x5B
  | .object => 0x7B

def Reader.Frame.closing : Frame → UInt8
  | .list => 0x5D
  | .object => 0x7D

/-- What stands in front of a value: in an object its key and a colon. -/
inductive IsHead : Frame → Bytes → Prop
  | list : IsHead .list []
  | object {before body between : Bytes} (hbefore : Blank before) (hbody : IsText body)
      (hbetween : Blank between) :
      IsHead .object (before ++ 0x22 :: (body ++ (between ++ [0x3A])))

/-- The text is a value, or, for a frame, what stands inside a list or an object that is not
    empty. -/
inductive Spells : Option Frame → Bytes → Prop
  | scalar {text : Bytes} (h : IsScalar text) : Spells none text
  | empty (frame : Frame) {blanks : Bytes} (hblanks : Blank blanks) :
      Spells none (frame.opening :: (blanks ++ [frame.closing]))
  | filled (frame : Frame) {text : Bytes} (h : Spells (some frame) text) :
      Spells none (frame.opening :: (text ++ [frame.closing]))
  | last {frame : Frame} {head gap value after : Bytes} (hhead : IsHead frame head)
      (hgap : Blank gap) (hvalue : Spells none value) (hafter : Blank after) :
      Spells (some frame) (head ++ (gap ++ (value ++ after)))
  | more {frame : Frame} {head gap value after rest : Bytes} (hhead : IsHead frame head)
      (hgap : Blank gap) (hvalue : Spells none value) (hafter : Blank after)
      (hrest : Spells (some frame) rest) :
      Spells (some frame) (head ++ (gap ++ (value ++ (after ++ 0x2C :: rest))))

/-- The text is a value. -/
abbrev IsJson (text : Bytes) : Prop := Spells none text

/-! ## Turns -/

/-- What a turn takes of a value: a scalar as a whole, or a bracket. -/
def skipHead : Reader (Option Frame) := do
  match ← peekPastBlanks with
  | none => failAhead .endInValue
  | some 0x6E => eat; word [0x75, 0x6C, 0x6C]; return none
  | some 0x74 => eat; word [0x72, 0x75, 0x65]; return none
  | some 0x66 => eat; word [0x61, 0x6C, 0x73, 0x65]; return none
  | some 0x2D => eat; skipNumber; return none
  | some 0x22 => eat; skipText; return none
  | some 0x5B => eat; return some Frame.list
  | some 0x7B => eat; return some Frame.object
  | some b => if isDigit b then skipNumber; return none else failAhead .expectedValue

/-- What a turn does behind that. -/
def skipTail (fuel : Nat) (frames : List Frame) : Option Frame → Reader Unit
  | some frame => closeFrames (frame :: frames) false >>= skipMore fuel
  | none => closeFrames frames true >>= skipMore fuel

theorem skipFrom_succ (fuel : Nat) (frames : List Frame) :
    skipFrom (fuel + 1) frames = skipHead >>= skipTail fuel frames := by
  have hsucc : skipFrom (fuel + 1) frames = skipHead >>= fun opened =>
      (match opened with
        | some frame => closeFrames (frame :: frames) false
        | none => closeFrames frames true) >>= skipMore fuel := rfl
  rw [hsucc]
  congr 1
  funext opened
  cases opened <;> rfl

variable {frames : List Frame}

/-- Before a value: with enough fuel, it and what is open around it are taken. -/
def Enters (frames : List Frame) (t r : Bytes) : Prop :=
  ∀ fuel, t.length < fuel → Takes (skipFrom fuel frames) t () r

/-- Behind the comma or the opening bracket of the innermost frame. -/
def Goes (frames : List Frame) (t r : Bytes) : Prop :=
  ∀ fuel, t.length < fuel → Takes (skipMore fuel frames) t () r

/-- Behind a value. -/
def Resumes (frames : List Frame) (t r : Bytes) : Prop :=
  ∀ fuel, t.length < fuel → Takes (closeFrames frames true >>= skipMore fuel) t () r

theorem takes_word (letters : List UInt8) (t : Bytes) :
    Takes (word letters) (letters ++ t) () t := by
  induction letters with
  | nil => exact takes_pure () t
  | cons letter letters ih =>
    apply (takes_next _ _).bind
    simp only [if_true]
    exact ih

theorem IsNumber.exists_digit {text : Bytes} (h : IsNumber text) :
    ∃ d ds, text = d :: ds ∧ isDigit d = true := by
  obtain ⟨whole, fraction, exponent, hwhole, -, -, rfl⟩ := h
  cases hwhole with
  | zero => exact ⟨0x30, _, rfl, by decide⟩
  | digits _ hd _ => exact ⟨_, _, rfl, hd⟩

theorem takes_skipHead {text blanks : Bytes} (h : IsScalar text) (hblanks : Blank blanks)
    (ht : Stops t) : Takes skipHead (blanks ++ (text ++ t)) none t := by
  obtain ⟨b, rest, rfl, hb⟩ := ht.exists_endsNumber
  have hword (letters : List UInt8) : Takes (word letters >>= fun _ => pure (none : Option Frame))
      (letters ++ b :: rest) none (b :: rest) := (takes_word letters _).bind (takes_pure _ _)
  cases h with
  | null => exact (takes_peekPastBlanks hblanks rfl _).bind ((takes_eat _ _).bind (hword _))
  | true => exact (takes_peekPastBlanks hblanks rfl _).bind ((takes_eat _ _).bind (hword _))
  | false => exact (takes_peekPastBlanks hblanks rfl _).bind ((takes_eat _ _).bind (hword _))
  | string hbody =>
    exact (takes_peekPastBlanks hblanks rfl _).bind
      ((takes_eat _ _).bind ((takes_skipText hbody _).bind (takes_pure _ _)))
  | negative hnumber =>
    exact (takes_peekPastBlanks hblanks rfl _).bind
      ((takes_eat _ _).bind ((takes_skipNumber hnumber hb rest).bind (takes_pure _ _)))
  | positive hnumber =>
    have hskip : Takes (skipNumber >>= fun _ => pure (none : Option Frame)) (text ++ b :: rest)
      none (b :: rest) := (takes_skipNumber hnumber hb rest).bind (takes_pure _ _)
    obtain ⟨d, ds, rfl, hd⟩ := hnumber.exists_digit
    apply (takes_peekPastBlanks hblanks (not_isBlank_of_isDigit hd) _).bind
    split
    case h_9 =>
      rename_i heq
      cases heq
      rw [if_pos hd]
      exact hskip
    all_goals
      rename_i heq
      cases heq
      try exact absurd hd (by decide)

theorem takes_skipHead_opening (frame : Frame) {blanks : Bytes} (hblanks : Blank blanks)
    (t : Bytes) : Takes skipHead (blanks ++ frame.opening :: t) (some frame) t := by
  cases frame <;>
    exact (takes_peekPastBlanks hblanks rfl _).bind ((takes_eat _ _).bind (takes_pure _ _))

variable {frame : Frame}

/-- The innermost frame is closed. -/
theorem takes_closing {after : Bytes} (hafter : Blank after) (h : Resumes frames t r) (comma : Bool)
    {fuel : Nat} (hfuel : t.length < fuel) :
    Takes (closeFrames (frame :: frames) comma >>= skipMore fuel) (after ++ frame.closing :: t) ()
      r := by
  have hclose : Takes ((eat >>= fun _ => closeFrames frames true) >>= skipMore fuel)
      (frame.closing :: t) () r := by
    rw [bind_assoc]
    exact (takes_eat _ _).bind (h fuel hfuel)
  have hmark : Cursor.isBlank frame.closing = false := by cases frame <;> rfl
  rw [closeFrames, bind_assoc]
  apply (takes_peekPastBlanks hafter hmark t).bind
  cases frame <;> exact hclose

/-- The innermost frame goes on. -/
theorem takes_comma {after : Bytes} (hafter : Blank after) (h : Goes (frame :: frames) t r)
    {fuel : Nat} (hfuel : t.length < fuel) :
    Takes (closeFrames (frame :: frames) true >>= skipMore fuel) (after ++ 0x2C :: t) () r := by
  have hgo : Takes ((eat >>= fun _ => pure (frame :: frames)) >>= skipMore fuel)
      (0x2C :: t) () r := by
    rw [bind_assoc]
    exact (takes_eat _ _).bind ((takes_pure _ _).bind (h fuel hfuel))
  rw [closeFrames, bind_assoc]
  apply (takes_peekPastBlanks hafter rfl t).bind
  cases frame <;> exact hgo

/-- Behind its bracket, a frame that does not end at once is open. -/
theorem takes_opened {blanks : Bytes} (hblanks : Blank blanks) {b : UInt8}
    (hb : Cursor.isBlank b = false) (hend : b ≠ frame.closing) (t : Bytes) :
    Takes (closeFrames (frame :: frames) false) (blanks ++ b :: t) (frame :: frames) (b :: t) := by
  rw [closeFrames]
  apply (takes_peekPastBlanks hblanks hb t).bind
  split
  · rename_i heq
    exact absurd (Option.some.inj heq) hend
  · rename_i heq
    exact absurd (Option.some.inj heq) hend
  · exact takes_pure _ _
  · rename_i heq
    cases heq

/-! ## Values -/

/-- Inside the frame, something is in sight that does not end it. -/
def IsOpened (frame : Frame) (frames : List Frame) (t r : Bytes) : Prop :=
  ∃ blanks b u, t = blanks ++ b :: u ∧ Blank blanks ∧ Cursor.isBlank b = false ∧
    b ≠ frame.closing ∧ ∀ gap, Blank gap → Goes (frame :: frames) (gap ++ b :: u) r

/-- What a turn makes of a value, or of the inside of a frame. -/
def Skips : Option Frame → Bytes → Prop
  | none, text => BeginsValue text ∧ ∀ frames blanks t r, Blank blanks → Stops t →
      Resumes frames t r → Enters frames (blanks ++ (text ++ t)) r
  | some frame, text => ∀ frames t r, Resumes frames t r →
      IsOpened frame frames (text ++ frame.closing :: t) r

theorem beginsValue_opening (frame : Frame) (t : Bytes) : BeginsValue (frame.opening :: t) := by
  refine ⟨frame.opening, t, rfl, ?_⟩
  cases frame <;> decide

theorem beginsValue_of_isScalar {text : Bytes} (h : IsScalar text) : BeginsValue text := by
  cases h with
  | positive hnumber =>
    obtain ⟨d, ds, rfl, hd⟩ := hnumber.exists_digit
    exact beginsValue_of_isDigit hd ds
  | _ => exact ⟨_, _, rfl, by decide, by decide⟩

theorem stops_closing (frame : Frame) (t : Bytes) : Stops (frame.closing :: t) := by
  cases frame
  · exact stops_listEnd t
  · exact stops_objectEnd t

/-- From its key on, a member goes on as its value does. -/
theorem goes_object {body between gap : Bytes} (hbody : IsText body) (hbetween : Blank between)
    (hgap : Blank gap) (h : Enters (.object :: frames) t r) :
    Goes (.object :: frames) (gap ++ 0x22 :: (body ++ (between ++ 0x3A :: t))) r := by
  intro fuel hfuel
  have hkey : Takes skipKey (gap ++ 0x22 :: (body ++ (between ++ 0x3A :: t))) () t :=
    (takes_peekPastBlanks hgap rfl _).bind ((takes_eat _ _).bind ((takes_skipText hbody _).bind
      ((takes_peekPastBlanks hbetween rfl _).bind (takes_eat _ _))))
  refine hkey.bind (h fuel ?_)
  simp only [List.length_append, List.length_cons] at hfuel
  omega

/-- A value, with what stands in front of it, opens the frame. -/
theorem isOpened_of_head {head gap value : Bytes} (hhead : IsHead frame head) (hgap : Blank gap)
    (hbegins : BeginsValue value)
    (h : ∀ gap, Blank gap → Enters (frame :: frames) (gap ++ (value ++ t)) r) :
    IsOpened frame frames (head ++ (gap ++ (value ++ t))) r := by
  cases hhead with
  | list =>
    obtain ⟨b, rest, rfl, hb, hend⟩ := hbegins
    exact ⟨gap, b, rest ++ t, rfl, hgap, hb, hend, h⟩
  | @object before body between hbefore hbody hbetween =>
    refine ⟨before, 0x22, body ++ (between ++ 0x3A :: (gap ++ (value ++ t))), by simp, hbefore, rfl,
      by decide, fun gap' hgap' => ?_⟩
    exact goes_object hbody hbetween hgap' (h gap hgap)

theorem skips_scalar {text : Bytes} (h : IsScalar text) : Skips none text := by
  refine ⟨beginsValue_of_isScalar h, fun frames blanks t r hblanks ht hresume fuel hfuel => ?_⟩
  obtain ⟨b, rest, htext, -⟩ := beginsValue_of_isScalar h
  obtain ⟨fuel, rfl⟩ := Nat.exists_eq_add_one.mpr (Nat.zero_lt_of_lt hfuel)
  rw [skipFrom_succ]
  refine (takes_skipHead h hblanks ht).bind (hresume fuel ?_)
  simp only [htext, List.length_append, List.length_cons] at hfuel
  omega

theorem skips_empty (frame : Frame) {gap : Bytes} (hgap : Blank gap) :
    Skips none (frame.opening :: (gap ++ [frame.closing])) := by
  refine ⟨beginsValue_opening frame _, fun frames blanks t r hblanks ht hresume fuel hfuel => ?_⟩
  obtain ⟨fuel, rfl⟩ := Nat.exists_eq_add_one.mpr (Nat.zero_lt_of_lt hfuel)
  simp only [List.length_append, List.length_cons] at hfuel
  rw [skipFrom_succ, List.cons_append, List.append_assoc, List.singleton_append]
  exact (takes_skipHead_opening frame hblanks _).bind (takes_closing hgap hresume false (by omega))

theorem skips_filled (frame : Frame) {text : Bytes} (ih : Skips (some frame) text) :
    Skips none (frame.opening :: (text ++ [frame.closing])) := by
  refine ⟨beginsValue_opening frame _, fun frames blanks t r hblanks ht hresume fuel hfuel => ?_⟩
  obtain ⟨fuel, rfl⟩ := Nat.exists_eq_add_one.mpr (Nat.zero_lt_of_lt hfuel)
  obtain ⟨gap, b, u, htext, hgap, hb, hend, hgoes⟩ := ih frames t r hresume
  rw [skipFrom_succ, List.cons_append, List.append_assoc, List.singleton_append, htext]
  refine (takes_skipHead_opening frame hblanks _).bind
    ((takes_opened hgap hb hend u).bind (hgoes [] blank_nil fuel ?_))
  have hlength := congrArg List.length htext
  simp only [List.nil_append, List.length_append, List.length_cons] at hfuel hlength ⊢
  omega

/-- A value is skipped, by induction on its parts: inside a list or an object, what is open around
    them goes on behind each of them. -/
theorem skips_of_spells {part : Option Frame} {text : Bytes} (h : Spells part text) :
    Skips part text := by
  induction h with
  | scalar h => exact skips_scalar h
  | empty frame hblanks => exact skips_empty frame hblanks
  | filled frame _ ih => exact skips_filled frame ih
  | @last frame head gap value after hhead hgap _ hafter ih =>
    intro frames t r hresume
    have hclose : Resumes (frame :: frames) (after ++ frame.closing :: t) r := by
      intro fuel hfuel
      simp only [List.length_append, List.length_cons] at hfuel
      exact takes_closing hafter hresume true (by omega)
    have hstops := (stops_closing frame t).blank_append hafter
    simp only [List.append_assoc]
    exact isOpened_of_head hhead hgap ih.1 fun gap hgap => ih.2 _ gap _ r hgap hstops hclose
  | @more frame head gap value after rest hhead hgap _ hafter _ ih ihrest =>
    intro frames t r hresume
    obtain ⟨blanks, b, u, hrest, hblanks, -, -, hgoes⟩ := ihrest frames t r hresume
    have hgo : Goes (frame :: frames) (rest ++ frame.closing :: t) r := by
      rw [hrest]
      exact hgoes blanks hblanks
    have hcomma : Resumes (frame :: frames) (after ++ 0x2C :: (rest ++ frame.closing :: t)) r := by
      intro fuel hfuel
      simp only [List.length_append, List.length_cons] at hfuel
      exact takes_comma hafter hgo (by simp only [List.length_append, List.length_cons]; omega)
    have hstops : Stops (after ++ 0x2C :: (rest ++ frame.closing :: t)) :=
      Stops.blank_append hafter ⟨0x2C, _, rfl, by decide⟩
    simp only [List.append_assoc, List.cons_append]
    exact isOpened_of_head hhead hgap ih.1 fun gap hgap => ih.2 _ gap _ r hgap hstops hcomma

/-- Every value is skipped. -/
theorem reads_skipValue {text : Bytes} (h : IsJson text) : Reads skipValue text () := by
  intro blanks t hblanks ht
  have hdone : Resumes [] t t := fun fuel _ => (takes_pure [] t).bind (takes_pure () t)
  have henters := (skips_of_spells h).2 [] blanks t t hblanks ht hdone
  apply Takes.get_bind
  intro c hc
  exact henters _ (hc ▸ Nat.lt_succ_self _)

end DataStaging.Json
