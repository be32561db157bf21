import DataStaging.Proofs.Json.Values
import Mathlib.Data.List.DropRight

/-!
# What readers of records take

The fields of a record are read from an object or from a list. Like the values in it, its members
are read turn by turn under a limit that is never reached. A record ends with a bracket, and so it
is told by its own bytes alone: what follows it can be anything.

Results:
* `closed_read`: records are told by their own bytes.
* `take_read_dropWhile`, `exists_bracket_of_take`: what may stand before a record.
-/

namespace DataStaging.Json

/-- Texts with commas between them: the first one, and each other behind a comma. -/
theorem intercalate_cons (text : Bytes) (texts : List Bytes) :
    [0x2C].intercalate (text :: texts) = text ++ texts.flatMap (0x2C :: ·) := by
  induction texts generalizing text with
  | nil => simp
  | cons next texts ih => simp [ih]

namespace Shape

open Reader

variable {ρ : Type} {shape : Shape ρ} {t r : Bytes}

/-- All fields of a record have local readers. -/
def IsLocal (shape : Shape ρ) : Prop := ∀ field ∈ shape.fields, ∀ draft, Local (field.read draft)

/-- What follows a key. -/
def member (shape : Shape ρ) (key : String) (draft : ρ) : Reader ρ :=
  match shape.fields.find? (fun f => f.name == key) with
  | none => do colon; skipValue; return draft
  | some field =>
    if field.isSet draft then failShape ("duplicate field `" ++ key ++ "`")
    else do colon; field.read draft

/-- A record whose members have all been read. -/
def filled (shape : Shape ρ) (draft : ρ) : Reader ρ :=
  match shape.fields.find? (fun f => !f.isSet draft) with
  | some field => failShape ("missing field `" ++ field.name ++ "`")
  | none => return draft

theorem members_succ (fuel : Nat) (first : Bool) (draft : ρ) :
    shape.members (fuel + 1) first draft = memberFollows first >>= fun more => if more then
      eat >>= fun _ => text >>= fun key => shape.member key draft >>= shape.members fuel false
    else shape.filled draft := by
  rw [members]
  refine bind_congr fun more => ?_
  split
  · refine bind_congr fun _ => bind_congr fun key => ?_
    unfold member
    cases shape.fields.find? (fun f => f.name == key) with
    | none => simp only [bind_assoc, pure_bind]
    | some field =>
      simp only
      split_ifs
      · rfl
      · rw [bind_assoc]
  · rfl

theorem local_member (hshape : shape.IsLocal) (key : String) (draft : ρ) :
    Local (shape.member key draft) := by
  unfold member
  split
  · exact closed_colon.toLocal.bind fun _ => local_skipValue.bind fun _ =>
      (plain_pure draft).toLocal
  · rename_i field hfind
    split_ifs
    · exact (fails_failShape _).toLocal
    · exact closed_colon.toLocal.bind fun _ => hshape field (List.mem_of_find?_eq_some hfind) draft

theorem local_filled (draft : ρ) : Local (shape.filled draft) := by
  unfold filled
  split
  · exact (fails_failShape _).toLocal
  · exact (plain_pure draft).toLocal

theorem local_members (hshape : shape.IsLocal) (fuel : Nat) (first : Bool) (draft : ρ) :
    Local (shape.members fuel first draft) := by
  induction fuel generalizing first draft with
  | zero => exact (fails_failAhead _).toLocal
  | succ fuel ih =>
    rw [members_succ]
    refine (local_memberFollows first).bind fun more => ?_
    split_ifs
    · exact local_eat.bind fun _ => closed_text.toLocal.bind fun key =>
        (local_member hshape key draft).bind (ih false)
    · exact local_filled draft

/-- Nothing can be read of nothing. -/
theorem take_members_nil (hshape : shape.IsLocal) (fuel : Nat) (first : Bool) (draft : ρ) :
    (shape.members fuel first draft).take [] = none := by
  cases fuel with
  | zero => rfl
  | succ fuel =>
    have hnone : (memberFollows first).take [] = none := rfl
    rw [members_succ, take_bind, hnone]
    · rfl
    · intro more
      split_ifs
      · exact (local_eat.bind fun _ => closed_text.toLocal.bind fun key =>
          (local_member hshape key draft).bind (local_members hshape fuel false)).toSteady
      · exact (local_filled draft).toSteady

/-- The limit on the members is not reached. -/
theorem take_members_eq (hshape : shape.IsLocal) {n m : Nat} {first : Bool} {draft : ρ}
    (hn : t.length ≤ n) (hm : t.length ≤ m) :
    (shape.members n first draft).take t = (shape.members m first draft).take t := by
  induction n generalizing m first draft t with
  | zero =>
    obtain rfl := List.length_eq_zero_iff.mp (Nat.le_zero.mp hn)
    rw [take_members_nil hshape, take_members_nil hshape]
  | succ n ih =>
    cases m with
    | zero =>
      obtain rfl := List.length_eq_zero_iff.mp (Nat.le_zero.mp hm)
      rw [take_members_nil hshape, take_members_nil hshape]
    | succ m =>
      have hrest : ∀ fuel key, Local (shape.member key draft >>= shape.members fuel false) :=
        fun fuel key => (local_member hshape key draft).bind (local_members hshape fuel false)
      have hmore : ∀ fuel, Local (eat >>= fun _ => text >>= fun key =>
          shape.member key draft >>= shape.members fuel false) :=
        fun fuel => local_eat.bind fun _ => closed_text.toLocal.bind (hrest fuel)
      have hturn : ∀ fuel (more : Bool), Steady (if more then eat >>= fun _ => text >>= fun key =>
          shape.member key draft >>= shape.members fuel false else shape.filled draft) := by
        intro fuel more
        split_ifs
        · exact (hmore fuel).toSteady
        · exact (local_filled draft).toSteady
      rw [members_succ, members_succ]
      refine take_bind_congr (hturn n) (hturn m) fun more r₁ hfollows => ?_
      split_ifs
      · refine take_bind_congr (fun _ => (closed_text.toLocal.bind (hrest n)).toSteady)
          (fun _ => (closed_text.toLocal.bind (hrest m)).toSteady) fun u r₂ heat => ?_
        refine take_bind_congr (fun key => (hrest n key).toSteady)
          (fun key => (hrest m key).toSteady) fun key r₃ hkey => ?_
        refine take_bind_congr (fun draft => (local_members hshape n false draft).toSteady)
          (fun draft => (local_members hshape m false draft).toSteady) fun draft' r₄ hmember => ?_
        -- a key takes a byte at least
        have h₁ := ((local_memberFollows first).suffix hfollows).length_le
        have h₂ := (local_eat.suffix heat).length_le
        have h₃ := closed_text.length_lt hkey
        have h₄ := ((local_member hshape key draft).suffix hmember).length_le
        exact ih (by omega) (by omega)
      · rfl

theorem local_elements (hshape : shape.IsLocal) {fields : List (Field ρ)}
    (hfields : ∀ field ∈ fields, field ∈ shape.fields) (done : Nat) (draft : ρ) :
    Local (shape.elements fields done draft) := by
  induction fields generalizing done draft with
  | nil => exact (plain_pure draft).toLocal
  | cons field fields ih =>
    unfold elements
    refine (local_elementFollows _).bind fun more => ?_
    split_ifs
    · refine (hshape field (hfields field List.mem_cons_self) draft).bind fun draft' => ?_
      exact ih (fun f hf => hfields f (List.mem_cons_of_mem _ hf)) _ _
    · exact (fails_failShape _).toLocal

/-- The reader of an object sets its own limit. -/
theorem closed_object (hshape : shape.IsLocal) (empty : ρ) : Closed (get >>= fun c : Cursor =>
    bracketed (shape.members c.rest.length true empty) closeObject) := by
  refine .of_fuel (fun n => closed_bracketed (local_members hshape n true empty) closed_closeObject)
    fun c n hn => ?_
  rw [run_get_bind,
    (closed_bracketed (local_members hshape _ true empty) closed_closeObject).run_eq]
  refine take_bracketed_congr (local_members hshape _ true empty)
    (local_members hshape n true empty) closed_closeObject (take_members_eq hshape ?_ ?_)
  · rw [List.length_tail]
    exact Nat.sub_le _ _
  · rw [List.length_tail]
    omega

/-- The reader of a record, after the byte it has looked at. -/
theorem exists_read_eq (hshape : shape.IsLocal) (empty : ρ) : ∃ f, shape.read empty =
    peekPastBlanks >>= f ∧ (∀ b, Closed (f b)) ∧
      ∀ b, b ≠ some 0x5B → b ≠ some 0x7B → Fails (f b) := by
  refine ⟨_, rfl, fun b => ?_, fun b hlist hobject => ?_⟩
  · split
    · exact (fails_failAhead _).closed
    · exact closed_bracketed (local_elements hshape (fun _ h => h) 0 empty) closed_closeList
    · exact closed_object hshape empty
    · exact (fails_refuse _).closed
  · split
    · exact fails_failAhead _
    · exact absurd rfl hlist
    · exact absurd rfl hobject
    · exact fails_refuse _

/-- A record is told by its own bytes. -/
theorem closed_read (hshape : shape.IsLocal) (empty : ρ) : Closed (shape.read empty) := by
  obtain ⟨f, heq, hf, -⟩ := exists_read_eq hshape empty
  exact heq ▸ .bind local_peekPastBlanks hf

/-- Blanks before a record make no difference. -/
theorem take_read_dropWhile (hshape : shape.IsLocal) (empty : ρ) (t : Bytes) :
    (shape.read empty).take (t.dropWhile Cursor.isBlank) = (shape.read empty).take t := by
  obtain ⟨f, heq, hf, -⟩ := exists_read_eq hshape empty
  have hsteady := fun b => (hf b).toSteady
  rw [heq, take_peekPastBlanks_bind hsteady, take_peekPastBlanks_bind hsteady,
    List.dropWhile_idempotent]

/-- Behind blanks, a record begins with a bracket. -/
theorem exists_bracket_of_take (hshape : shape.IsLocal) {empty draft : ρ}
    (h : (shape.read empty).take t = some (draft, r)) : ∃ u,
      t.dropWhile Cursor.isBlank = 0x5B :: u ∨ t.dropWhile Cursor.isBlank = 0x7B :: u := by
  obtain ⟨f, heq, hf, hother⟩ := exists_read_eq hshape empty
  rw [heq, take_peekPastBlanks_bind fun b => (hf b).toSteady] at h
  cases hdrop : t.dropWhile Cursor.isBlank with
  | nil =>
    rw [hdrop] at h
    cases (hother none nofun nofun _).symm.trans h
  | cons b u =>
    rw [hdrop] at h
    by_cases hlist : b = 0x5B
    · exact ⟨u, .inl (by rw [hlist])⟩
    · by_cases hobject : b = 0x7B
      · exact ⟨u, .inr (by rw [hobject])⟩
      · have hfails := hother (some b) (by simpa using hlist) (by simpa using hobject)
        cases (hfails _).symm.trans h

end Shape

end DataStaging.Json
