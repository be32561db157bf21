import DataStaging.Proofs.Json.Numerals
import DataStaging.Proofs.Json.Records

/-!
# The two forms of a record

A record is written as an object, whose members come in any order and among others, or as the list
of its fields. `Members` and `Elements` say how the texts between the commas make a draft, whatever
blanks stand around their parts.

Results:
* `Shape.takes_read_object`, `Shape.takes_read_list`: records in these forms are read.
* `Shape.yields_read`: what all fields keep of a draft is so of every record that is read.
-/

namespace DataStaging.Json

open Reader

variable {α : Type} {x : Reader α} {a : α} {t r : Bytes}

/-! ## Values inside a record -/

/-- A value inside a record may end here. -/
def Stops (t : Bytes) : Prop :=
  ∃ b rest, t = b :: rest ∧ (Cursor.isBlank b = true ∨ b = 0x2C ∨ b = 0x7D ∨ b = 0x5D)

theorem Stops.blank_append {blanks : Bytes} (hblanks : Blank blanks) (ht : Stops t) :
    Stops (blanks ++ t) := by
  cases blanks with
  | nil => exact ht
  | cons b blanks => exact ⟨b, blanks ++ t, rfl, Or.inl (hblanks b List.mem_cons_self)⟩

theorem Stops.exists_endsNumber (ht : Stops t) : ∃ b rest, t = b :: rest ∧ EndsNumber b := by
  obtain ⟨b, rest, rfl, hb⟩ := ht
  refine ⟨b, rest, rfl, ?_⟩
  rcases hb with hb | rfl | rfl | rfl
  · simp only [Cursor.isBlank, Bool.or_eq_true, decide_eq_true_eq] at hb
    rcases hb with ((rfl | rfl) | rfl) | rfl <;> exact ⟨by decide, by decide, by decide⟩
  all_goals exact ⟨by decide, by decide, by decide⟩

theorem stops_objectEnd (t : Bytes) : Stops (0x7D :: t) := ⟨0x7D, t, rfl, by decide⟩

theorem stops_listEnd (t : Bytes) : Stops (0x5D :: t) := ⟨0x5D, t, rfl, by decide⟩

/-- A value may end before further ones. -/
theorem Stops.flatMap_append (texts : List Bytes) {closing : Bytes} (hclosing : Blank closing)
    (ht : Stops t) : Stops (texts.flatMap (0x2C :: ·) ++ (closing ++ t)) := by
  cases texts with
  | nil =>
    rw [List.flatMap_nil, List.nil_append]
    exact ht.blank_append hclosing
  | cons text texts => exact ⟨0x2C, _, rfl, by decide⟩

/-- The reader takes the text as this value, behind blanks and wherever a value may end. -/
def Reads (x : Reader α) (text : Bytes) (a : α) : Prop :=
  ∀ blanks t, Blank blanks → Stops t → Takes x (blanks ++ (text ++ t)) a t

/-- What is made of a value is read where the value is. -/
theorem reads_bind_pure {β : Type} {text : Bytes} (h : Reads x text a) (f : α → β) :
    Reads (x >>= fun a => pure (f a)) text (f a) :=
  fun blanks t hblanks ht => (h blanks t hblanks ht).bind (takes_pure _ _)

/-- The text is a value with blanks around it. -/
def IsSpaced (text value : Bytes) : Prop :=
  ∃ before after, Blank before ∧ Blank after ∧ text = before ++ (value ++ after)

/-- The value begins like one, and not as a list ends. -/
def BeginsValue (value : Bytes) : Prop :=
  ∃ b rest, value = b :: rest ∧ Cursor.isBlank b = false ∧ b ≠ 0x5D

theorem beginsValue_of_isDigit {d : UInt8} (hd : isDigit d = true) (ds : Bytes) :
    BeginsValue (d :: ds) := by
  refine ⟨d, ds, rfl, not_isBlank_of_isDigit hd, ?_⟩
  rintro rfl
  exact absurd hd (by decide)

/-- The text is a key, a colon and a value, with blanks around each of them. -/
def IsMember (text : Bytes) (key : String) (value : Bytes) : Prop :=
  ∃ before body between gap after, Blank before ∧ Blank between ∧ Blank gap ∧ Blank after ∧
    Reader.text.take body = some (key, []) ∧
    text = before ++ 0x22 :: (body ++ (between ++ 0x3A :: (gap ++ (value ++ after))))

theorem length_le_flatMap (texts : List Bytes) :
    texts.length ≤ (texts.flatMap (0x2C :: ·)).length := by
  induction texts with
  | nil => exact Nat.le_refl _
  | cons text texts ih =>
    rw [List.flatMap_cons, List.length_append, List.length_cons, List.length_cons]
    omega

/-! ## Marks -/

namespace Reader

variable {blanks : Bytes}

theorem takes_colon (hblanks : Blank blanks) (t : Bytes) :
    Takes colon (blanks ++ 0x3A :: t) () t :=
  (takes_peekPastBlanks hblanks rfl t).bind (takes_eat _ _)

theorem takes_closeObject (hblanks : Blank blanks) (t : Bytes) :
    Takes closeObject (blanks ++ 0x7D :: t) () t :=
  (takes_peekPastBlanks hblanks rfl t).bind (takes_eat _ _)

theorem takes_closeList (hblanks : Blank blanks) (t : Bytes) :
    Takes closeList (blanks ++ 0x5D :: t) () t :=
  (takes_peekPastBlanks hblanks rfl t).bind (takes_eat _ _)

theorem takes_bracketed {inside : Reader α} {close : Reader Unit} (hinside : Takes inside t a r)
    {r' : Bytes} (hclose : Takes close r () r') (b : UInt8) :
    Takes (bracketed inside close) (b :: t) a r' := by
  apply Takes.placed
  exact (takes_eat b t).bind ((hinside.tryCatch _).bind (hclose.bind (takes_pure a r')))

theorem takes_text {body : Bytes} {key : String} (hbody : text.take body = some (key, []))
    (t : Bytes) : Takes text (body ++ t) key t :=
  takes_of_take closed_text.toSteady ((closed_text.append t).mpr hbody)

/-! ## What follows -/

theorem takes_memberFollows_end (first : Bool) (hblanks : Blank blanks) (t : Bytes) :
    Takes (memberFollows first) (blanks ++ 0x7D :: t) false (0x7D :: t) :=
  (takes_peekPastBlanks hblanks rfl t).bind (takes_pure _ _)

theorem takes_memberFollows_first (hblanks : Blank blanks) (t : Bytes) :
    Takes (memberFollows true) (blanks ++ 0x22 :: t) true (0x22 :: t) :=
  (takes_peekPastBlanks hblanks rfl t).bind (takes_pure _ _)

theorem takes_memberFollows_comma (hblanks : Blank blanks) {before : Bytes} (hbefore : Blank before)
    (t : Bytes) :
    Takes (memberFollows false) (blanks ++ 0x2C :: (before ++ 0x22 :: t)) true (0x22 :: t) :=
  (takes_peekPastBlanks hblanks rfl _).bind
    ((takes_eat _ _).bind ((takes_peekPastBlanks hbefore rfl t).bind (takes_pure _ _)))

variable {b : UInt8}

theorem takes_elementFollows_first (hblanks : Blank blanks) (hb : Cursor.isBlank b = false)
    (hend : b ≠ 0x5D) (t : Bytes) :
    Takes (elementFollows true) (blanks ++ b :: t) true (b :: t) := by
  rw [elementFollows_eq]
  apply (takes_peekPastBlanks hblanks hb t).bind
  rw [beforeElement, if_neg hend, if_pos rfl]
  exact takes_pure _ _

theorem takes_elementFollows_comma (hblanks : Blank blanks) {before : Bytes}
    (hbefore : Blank before) (hb : Cursor.isBlank b = false) (hend : b ≠ 0x5D) (t : Bytes) :
    Takes (elementFollows false) (blanks ++ 0x2C :: (before ++ b :: t)) true (b :: t) := by
  rw [elementFollows_eq]
  apply (takes_peekPastBlanks hblanks rfl _).bind
  apply (takes_eat _ _).bind
  apply (takes_peekPastBlanks hbefore hb t).bind
  rw [afterComma, if_neg hend]
  exact takes_pure _ _

end Reader

namespace Shape

variable {ρ : Type} {shape : Shape ρ} {fields : List (Field ρ)} {draft draft' : ρ}
  {texts : List Bytes} {blanks closing : Bytes}

/-! ## Objects -/

/-- What stands behind the key of a member takes one draft to another: a field that is not set yet
    is read, and any other value is skipped. -/
def ReadsMember (shape : Shape ρ) (key : String) (value : Bytes) (draft draft' : ρ) : Prop :=
  match shape.fields.find? (fun f => f.name == key) with
  | some field => field.isSet draft = false ∧ Reads (field.read draft) value draft'
  | none => draft' = draft ∧ Reads skipValue value ()

/-- Members take one draft to another, one after the other. -/
inductive Members (shape : Shape ρ) : ρ → List Bytes → ρ → Prop
  | nil (draft : ρ) : Members shape draft [] draft
  | cons {draft draft₁ draft' : ρ} {key : String} {text value : Bytes} {texts : List Bytes}
      (hmember : IsMember text key value) (hvalue : shape.ReadsMember key value draft draft₁)
      (hrest : Members shape draft₁ texts draft') : Members shape draft (text :: texts) draft'

theorem takes_member {key : String} {value : Bytes}
    (hvalue : shape.ReadsMember key value draft draft') {between gap : Bytes}
    (hbetween : Blank between) (hgap : Blank gap) (ht : Stops t) :
    Takes (shape.member key draft) (between ++ 0x3A :: (gap ++ (value ++ t))) draft' t := by
  unfold ReadsMember at hvalue
  unfold member
  split at hvalue
  · rename_i field hfind
    simp only [hfind]
    obtain ⟨hset, hreads⟩ := hvalue
    rw [if_neg (Bool.eq_false_iff.mp hset)]
    exact (takes_colon hbetween _).bind (hreads gap t hgap ht)
  · rename_i hfind
    simp only [hfind]
    obtain ⟨rfl, hreads⟩ := hvalue
    exact (takes_colon hbetween _).bind ((hreads gap t hgap ht).bind (takes_pure _ _))

/-- All fields are set. -/
def IsFilled (shape : Shape ρ) (draft : ρ) : Prop :=
  ∀ field ∈ shape.fields, field.isSet draft = true

theorem takes_filled (h : shape.IsFilled draft) (t : Bytes) :
    Takes (shape.filled draft) t draft t := by
  have hnone : shape.fields.find? (fun f => !f.isSet draft) = none := by
    rw [List.find?_eq_none]
    intro field hfield
    rw [h field hfield]
    decide
  unfold filled
  rw [hnone]
  exact takes_pure _ _

/-- From its key on, a member is taken before the others. -/
theorem takes_turn {fuel : Nat} {key : String} {body between gap value : Bytes} {draft₁ : ρ}
    (hbody : text.take body = some (key, [])) (hbetween : Blank between) (hgap : Blank gap)
    (hvalue : shape.ReadsMember key value draft draft₁) (ht : Stops t)
    (hrest : Takes (shape.members fuel false draft₁) t draft' r) :
    Takes (eat >>= fun _ => text >>= fun key => shape.member key draft >>= shape.members fuel false)
      (0x22 :: (body ++ (between ++ 0x3A :: (gap ++ (value ++ t))))) draft' r :=
  (takes_eat _ _).bind ((takes_text hbody _).bind
    ((takes_member hvalue hbetween hgap ht).bind hrest))

/-- By induction on the members; what follows a value are its blanks and the other members. -/
theorem takes_members (h : shape.Members draft texts draft') (hfilled : shape.IsFilled draft')
    (hblanks : Blank blanks) (hclosing : Blank closing) {fuel : Nat} (hfuel : texts.length < fuel)
    (t : Bytes) : Takes (shape.members fuel false draft)
      (blanks ++ (texts.flatMap (0x2C :: ·) ++ (closing ++ 0x7D :: t))) draft' (0x7D :: t) := by
  induction h generalizing blanks fuel with
  | nil draft =>
    obtain ⟨fuel, rfl⟩ := Nat.exists_eq_add_one.mpr hfuel
    rw [members_succ, List.flatMap_nil, List.nil_append, ← List.append_assoc]
    exact (takes_memberFollows_end false (hblanks.append hclosing) t).bind (takes_filled hfilled _)
  | @cons draft draft₁ draft' key text value texts hmember hvalue hrest ih =>
    obtain ⟨fuel, rfl⟩ := Nat.exists_eq_add_one.mpr (Nat.zero_lt_of_lt hfuel)
    obtain ⟨before, body, between, gap, after, hbefore, hbetween, hgap, hafter, hbody, rfl⟩ :=
      hmember
    have hstops := ((stops_objectEnd t).flatMap_append texts hclosing).blank_append hafter
    have hturn := takes_turn hbody hbetween hgap hvalue hstops
      (ih hfilled hafter (Nat.lt_of_succ_lt_succ hfuel))
    rw [members_succ]
    simp only [List.flatMap_cons, List.cons_append, List.append_assoc]
    exact (takes_memberFollows_comma hblanks hbefore _).bind hturn

theorem takes_members_first (h : shape.Members draft texts draft')
    (hfilled : shape.IsFilled draft') (hclosing : Blank closing) {fuel : Nat}
    (hfuel : texts.length < fuel) (t : Bytes) : Takes (shape.members fuel true draft)
      ([0x2C].intercalate texts ++ (closing ++ 0x7D :: t)) draft' (0x7D :: t) := by
  obtain ⟨fuel, rfl⟩ := Nat.exists_eq_add_one.mpr (Nat.zero_lt_of_lt hfuel)
  rw [members_succ]
  cases h with
  | nil =>
    exact (takes_memberFollows_end true hclosing t).bind (takes_filled hfilled _)
  | @cons _ draft₁ _ key text value texts hmember hvalue hrest =>
    obtain ⟨before, body, between, gap, after, hbefore, hbetween, hgap, hafter, hbody, rfl⟩ :=
      hmember
    have hstops := ((stops_objectEnd t).flatMap_append texts hclosing).blank_append hafter
    have hturn := takes_turn hbody hbetween hgap hvalue hstops
      (takes_members hrest hfilled hafter hclosing (Nat.lt_of_succ_lt_succ hfuel) t)
    rw [intercalate_cons]
    simp only [List.cons_append, List.append_assoc]
    exact (takes_memberFollows_first hbefore _).bind hturn

/-- An object whose members fill a draft is read as that draft. -/
theorem takes_read_object {empty : ρ} (h : shape.Members empty texts draft')
    (hfilled : shape.IsFilled draft') (hblanks : Blank blanks) (hclosing : Blank closing)
    (t : Bytes) : Takes (shape.read empty)
      (blanks ++ 0x7B :: ([0x2C].intercalate texts ++ (closing ++ 0x7D :: t))) draft' t := by
  apply (takes_peekPastBlanks hblanks rfl _).bind
  apply Takes.get_bind
  intro c hc
  refine takes_bracketed (takes_members_first h hfilled hclosing ?_ t)
    (takes_closeObject blank_nil t) _
  -- every member but the first stands behind a comma
  rw [hc, List.length_cons, List.length_append, List.length_append, List.length_cons]
  cases texts with
  | nil => exact Nat.succ_pos _
  | cons text texts =>
    have hle := length_le_flatMap texts
    rw [intercalate_cons, List.length_append, List.length_cons]
    omega

/-! ## Lists -/

/-- Elements take one draft to another, one for each field. -/
inductive Elements : List (Field ρ) → ρ → List Bytes → ρ → Prop
  | nil (draft : ρ) : Elements [] draft [] draft
  | cons {field : Field ρ} {fields : List (Field ρ)} {draft draft₁ draft' : ρ}
      {text value : Bytes} {texts : List Bytes} (hspaced : IsSpaced text value)
      (hbegins : BeginsValue value) (hvalue : Reads (field.read draft) value draft₁)
      (hrest : Elements fields draft₁ texts draft') :
      Elements (field :: fields) draft (text :: texts) draft'

theorem takes_elements (h : Elements fields draft texts draft') (hblanks : Blank blanks)
    (hclosing : Blank closing) {done : Nat} (hdone : done ≠ 0) (t : Bytes) :
    ∃ left, Blank left ∧ Takes (shape.elements fields done draft)
      (blanks ++ (texts.flatMap (0x2C :: ·) ++ (closing ++ 0x5D :: t))) draft'
      (left ++ 0x5D :: t) := by
  induction h generalizing blanks done with
  | nil draft =>
    refine ⟨blanks ++ closing, hblanks.append hclosing, ?_⟩
    rw [List.flatMap_nil, List.nil_append, List.append_assoc]
    exact takes_pure _ _
  | @cons field fields draft draft₁ draft' text value texts hspaced hbegins hvalue hrest ih =>
    obtain ⟨before, after, hbefore, hafter, rfl⟩ := hspaced
    obtain ⟨b, rest, rfl, hb, hend⟩ := hbegins
    obtain ⟨left, hleft, htakes⟩ := ih hafter (Nat.succ_ne_zero done)
    refine ⟨left, hleft, ?_⟩
    have hstops := (stops_listEnd t).flatMap_append texts hclosing
    have hread := hvalue [] _ blank_nil (hstops.blank_append hafter)
    unfold elements
    simp only [hdone, decide_false, List.flatMap_cons, List.cons_append, List.append_assoc]
    exact (takes_elementFollows_comma hblanks hbefore hb hend _).bind (hread.bind htakes)

/-- A list of all fields is read as the draft that they make. -/
theorem takes_read_list {empty : ρ} (h : Elements shape.fields empty texts draft')
    (hblanks : Blank blanks) (hclosing : Blank closing) (t : Bytes) : Takes (shape.read empty)
      (blanks ++ 0x5B :: ([0x2C].intercalate texts ++ (closing ++ 0x5D :: t))) draft' t := by
  apply (takes_peekPastBlanks hblanks rfl _).bind
  have helements : ∃ left, Blank left ∧ Takes (shape.elements shape.fields 0 empty)
      ([0x2C].intercalate texts ++ (closing ++ 0x5D :: t)) draft' (left ++ 0x5D :: t) := by
    generalize shape.fields = fields at h
    cases h with
    | nil => exact ⟨closing, hclosing, takes_pure _ _⟩
    | @cons field fields _ draft₁ _ text value texts hspaced hbegins hvalue hrest =>
      obtain ⟨before, after, hbefore, hafter, rfl⟩ := hspaced
      obtain ⟨b, rest, rfl, hb, hend⟩ := hbegins
      obtain ⟨left, hleft, htakes⟩ := @takes_elements ρ shape fields draft₁ draft' texts after
        closing hrest hafter hclosing 1 Nat.one_ne_zero t
      refine ⟨left, hleft, ?_⟩
      have hstops := (stops_listEnd t).flatMap_append texts hclosing
      have hread := hvalue [] _ blank_nil (hstops.blank_append hafter)
      unfold elements
      rw [intercalate_cons]
      simp only [decide_true, List.cons_append, List.append_assoc]
      exact (takes_elementFollows_first hbefore hb hend _).bind (hread.bind htakes)
  obtain ⟨left, hleft, htakes⟩ := helements
  exact takes_bracketed htakes (takes_closeList hleft t) _

/-! ## What is known of a record -/

variable {P : ρ → Prop}

theorem yields_member (hfields : ∀ field ∈ shape.fields, ∀ draft, P draft →
    Yields (field.read draft) P) (key : String) (hdraft : P draft) :
    Yields (shape.member key draft) P := by
  unfold member
  split
  · exact .of_bind fun _ => .of_bind fun _ => yields_pure hdraft
  · rename_i field hfind
    split_ifs
    · exact (fails_failShape _).yields _
    · exact .of_bind fun _ => hfields field (List.mem_of_find?_eq_some hfind) draft hdraft

theorem yields_members (hfields : ∀ field ∈ shape.fields, ∀ draft, P draft →
    Yields (field.read draft) P) (fuel : Nat) (first : Bool) (hdraft : P draft) :
    Yields (shape.members fuel first draft) P := by
  induction fuel generalizing first draft with
  | zero => exact (fails_failAhead _).yields _
  | succ fuel ih =>
    rw [members_succ]
    refine .of_bind fun more => ?_
    split_ifs
    · exact .of_bind fun _ => .of_bind fun key =>
        (yields_member hfields key hdraft).bind fun _ => ih false
    · unfold filled
      split
      · exact (fails_failShape _).yields _
      · exact yields_pure hdraft

theorem yields_elements (fields : List (Field ρ)) (hfields : ∀ field ∈ fields, ∀ draft, P draft →
    Yields (field.read draft) P) (done : Nat) (hdraft : P draft) :
    Yields (shape.elements fields done draft) P := by
  induction fields generalizing done draft with
  | nil => exact yields_pure hdraft
  | cons field fields ih =>
    unfold elements
    refine .of_bind fun more => ?_
    split_ifs
    · refine (hfields field List.mem_cons_self draft hdraft).bind fun draft₁ hdraft₁ => ?_
      exact ih (fun f hf => hfields f (List.mem_cons_of_mem _ hf)) _ hdraft₁
    · exact (fails_failShape _).yields _

theorem yields_bracketed {inside : Reader ρ} (hinside : Yields inside P) (close : Reader Unit) :
    Yields (bracketed inside close) P := by
  have hcatch : Yields (tryCatch inside fun problem => do attempt close; throw problem) P :=
    hinside.congr (taken_tryCatch fun _ => .bind_right fun _ => fails_throw _)
  exact Yields.placed (.of_bind fun _ => hcatch.bind fun a ha => .of_bind fun _ => yields_pure ha)

/-- What all fields keep of a draft is so of every record that is read. -/
theorem yields_read {empty : ρ} (hempty : P empty) (hfields : ∀ field ∈ shape.fields, ∀ draft,
    P draft → Yields (field.read draft) P) : Yields (shape.read empty) P := by
  refine .of_bind fun b => ?_
  split
  · exact (fails_failAhead _).yields _
  · exact yields_bracketed (yields_elements _ hfields 0 hempty) _
  · exact .of_bind fun _ => yields_bracketed (yields_members hfields _ true hempty) _
  · exact (fails_refuse _).yields _

end Shape

end DataStaging.Json
