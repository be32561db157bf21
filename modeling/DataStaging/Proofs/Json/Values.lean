import DataStaging.Json.Record
import DataStaging.Proofs.Json.Taking
import Mathlib.Data.List.TakeWhile

/-!
# What readers of values take

Values that are skipped, objects and lists are read turn by turn. The number of turns is limited by
the number of bytes, which is never reached: every turn takes a byte. So a success does not depend
on how many bytes there are, and like every other reader a reader of values looks at one byte more
than it takes.

Results:
* `local_skipValue`: values that are skipped.
* `closed_bracketed`: what stands between two brackets.
-/

namespace DataStaging.Json

variable {α β : Type}

/-! ## Blanks -/

/-- Blanks and nothing else. -/
def Blank (t : Bytes) : Prop := ∀ b ∈ t, Cursor.isBlank b = true

instance (t : Bytes) : Decidable (Blank t) :=
  List.decidableBAll (fun b => Cursor.isBlank b = true) t

theorem blank_nil : Blank [] := nofun

theorem blank_iff {t : Bytes} : Blank t ↔ t.dropWhile Cursor.isBlank = [] :=
  List.dropWhile_eq_nil_iff.symm

theorem Blank.append {t s : Bytes} (ht : Blank t) (hs : Blank s) : Blank (t ++ s) := by
  intro b hb
  rcases List.mem_append.mp hb with h | h
  · exact ht b h
  · exact hs b h

theorem Blank.dropWhile_append {t : Bytes} (ht : Blank t) (s : Bytes) :
    (t ++ s).dropWhile Cursor.isBlank = s.dropWhile Cursor.isBlank := by
  rw [List.dropWhile_append, if_pos]
  simpa using blank_iff.mp ht

/-- What stands behind the blanks at the front, with the blanks. -/
theorem exists_blank_append {t s : Bytes} (h : t.dropWhile Cursor.isBlank = s) :
    ∃ blanks, Blank blanks ∧ t = blanks ++ s :=
  ⟨t.takeWhile Cursor.isBlank, fun _ hb => List.mem_takeWhile_imp hb,
    by rw [← h, List.takeWhile_append_dropWhile]⟩

namespace Reader

variable {x y : Reader α} {f : α → Reader β} {t r s : Bytes} {a : α} {b : β}

/-! ## Problems that are caught -/

theorem Local.congr (hx : Local x) (h : ∀ c, taken (y.run c) = taken (x.run c)) : Local y := by
  have htake : ∀ t, y.take t = x.take t := fun t => h (.ofWhole t)
  refine ⟨⟨fun c => ?_, fun heq => hx.suffix (htake _ ▸ heq)⟩, fun hr s => ?_⟩
  · rw [h, htake, hx.run_eq]
  · rw [htake, htake]
    exact hx.append hr s

theorem Closed.congr (hx : Closed x) (h : ∀ c, taken (y.run c) = taken (x.run c)) : Closed y := by
  have htake : ∀ t, y.take t = x.take t := fun t => h (.ofWhole t)
  refine ⟨(hx.toLocal.congr h).toSteady, fun heq => hx.length_lt (htake _ ▸ heq), fun s => ?_⟩
  rw [htake, htake]
  exact hx.append s

/-- Where every problem is thrown again, catching it makes no success. -/
theorem taken_tryCatch {handle : Problem → Reader α} (hhandle : ∀ problem, Fails (handle problem))
    (c : Cursor) : taken ((tryCatch x handle : Reader α).run c) = taken (x.run c) := by
  change taken ((ExceptT.tryCatch x handle).run c) = _
  unfold ExceptT.tryCatch
  rw [ExceptT.run_mk]
  change taken (StateT.bind x _ c) = taken (x c)
  unfold StateT.bind
  rcases x c with ⟨o, c₁⟩
  cases o with
  | ok a => rfl
  | error problem => exact hhandle problem c₁

theorem taken_placed (c : Cursor) : taken ((placed x).run c) = taken (x.run c) := by
  refine taken_tryCatch (fun problem => ?_) c
  split
  · exact fails_throw _
  · exact fails_failHere _

theorem Fails.placed (hx : Fails x) : Fails (placed x) := fun c => (taken_placed c).trans (hx c)

/-! ## Values of another kind -/

theorem fails_failShape (text : String) : Fails (failShape text : Reader α) := fails_throw _

theorem fails_failKind (found expected : String) : Fails (failKind found expected : Reader α) :=
  fails_throw _

theorem fails_refuse (expected : String) : Fails (refuse expected : Reader α) := by
  refine Fails.placed (Fails.bind_right fun b => ?_)
  split
  · exact .bind_right fun _ => .bind_right fun _ => fails_failKind _ _
  · exact .bind_right fun _ => .bind_right fun _ => fails_failKind _ _
  · exact .bind_right fun _ => .bind_right fun _ => fails_failKind _ _
  · exact .bind_right fun _ => .bind_right fun _ => fails_failKind _ _
  · exact .bind_right fun _ => .bind_right fun _ => fails_failKind _ _
  · exact fails_failKind _ _
  · exact fails_failKind _ _
  · split_ifs
    · exact .bind_right fun _ => fails_failKind _ _
    · exact fails_failAhead _
  · exact fails_failAhead _

theorem local_textValue : Local textValue := by
  refine local_peekPastBlanks.bind fun b => ?_
  split
  · exact (fails_failAhead _).toLocal
  · exact local_eat.bind fun _ => closed_text.toLocal
  · exact (fails_refuse _).toLocal

/-! ## Marks -/

/-- Behind blanks, a reader goes on with the byte that it has looked at. -/
theorem take_peekPastBlanks_bind {f : Option UInt8 → Reader β} (hf : ∀ b, Steady (f b))
    (t : Bytes) : (peekPastBlanks >>= f).take t =
      (f (t.dropWhile Cursor.isBlank).head?).take (t.dropWhile Cursor.isBlank) := by
  rw [take, taken_bind hf, taken_peekPastBlanks]
  rfl

theorem Local.of_mark {mark : UInt8} {f : Option UInt8 → Reader Unit} (hmark : f (some mark) = eat)
    (hother : ∀ b, b ≠ some mark → Fails (f b)) (b : Option UInt8) : Local (f b) := by
  by_cases hb : b = some mark
  · rw [hb, hmark]
    exact local_eat
  · exact (hother b hb).toLocal

/-- A reader that takes one mark, behind blanks. -/
theorem take_mark {mark : UInt8} {f : Option UInt8 → Reader Unit} (hmark : f (some mark) = eat)
    (hother : ∀ b, b ≠ some mark → Fails (f b)) {u : Unit} :
    (peekPastBlanks >>= f).take t = some (u, r) ↔ t.dropWhile Cursor.isBlank = mark :: r := by
  rw [take_peekPastBlanks_bind fun b => (Local.of_mark hmark hother b).toSteady]
  cases t.dropWhile Cursor.isBlank with
  | nil => simp [take, hother none (by simp) _]
  | cons b rest =>
    by_cases hb : b = mark
    · rw [hb, List.head?_cons, hmark]
      simp [take, taken_eat, Cursor.ofWhole]
    · simp [take, hother (some b) (by simpa using hb) _, hb]

theorem closed_of_mark (mark : UInt8) {f : Option UInt8 → Reader Unit} (hmark : f (some mark) = eat)
    (hother : ∀ b, b ≠ some mark → Fails (f b)) : Closed (peekPastBlanks >>= f) := by
  have hlt : ∀ {t r : Bytes}, t.dropWhile Cursor.isBlank = mark :: r → r.length < t.length := by
    intro t r h
    have hle := (List.dropWhile_suffix (l := t) Cursor.isBlank).length_le
    rw [h] at hle
    exact hle
  refine ⟨(local_peekPastBlanks.bind (Local.of_mark hmark hother)).toSteady,
    fun h => hlt ((take_mark hmark hother).mp h), fun {t u r} s => ?_⟩
  rw [take_mark hmark hother, take_mark hmark hother]
  by_cases hdrop : t.dropWhile Cursor.isBlank = []
  · have hshort := (dropWhile_suffix_of_left s hdrop).length_le
    refine ⟨fun h => ?_, fun h => by rw [hdrop] at h; cases h⟩
    rw [h, List.length_cons, List.length_append] at hshort
    omega
  · rw [dropWhile_append_of_left s hdrop, ← List.cons_append, List.append_left_inj]

theorem closed_colon : Closed colon := by
  refine closed_of_mark 0x3A rfl fun b hb => ?_
  split
  · exact absurd rfl hb
  · exact fails_failAhead _
  · exact fails_failAhead _

theorem closed_closeObject : Closed closeObject := by
  refine closed_of_mark 0x7D rfl fun b hb => ?_
  split
  · exact absurd rfl hb
  · exact fails_failAhead _
  · exact fails_failAhead _
  · exact fails_failAhead _

/-- The reader of a list's end, after the byte it has looked at. -/
theorem exists_closeList_eq : ∃ f, closeList = peekPastBlanks >>= f ∧ f (some 0x5D) = eat ∧
    ∀ b, b ≠ some 0x5D → Fails (f b) := by
  refine ⟨_, rfl, rfl, fun b hb => ?_⟩
  split
  · exact absurd rfl hb
  · refine .bind_right fun _ => .bind_right fun b => ?_
    split <;> exact fails_failAhead _
  · exact fails_failAhead _
  · exact fails_failAhead _

theorem closed_closeList : Closed closeList := by
  obtain ⟨f, heq, hmark, hother⟩ := exists_closeList_eq
  exact heq ▸ closed_of_mark 0x5D hmark hother

theorem take_closeList {u : Unit} :
    closeList.take t = some (u, r) ↔ t.dropWhile Cursor.isBlank = 0x5D :: r := by
  obtain ⟨f, heq, hmark, hother⟩ := exists_closeList_eq
  rw [heq]
  exact take_mark hmark hother

/-! ## Values that are skipped -/

theorem local_skipKey : Local skipKey := by
  refine local_peekPastBlanks.bind fun b => ?_
  extract_lets text
  have htext : ∀ u, Local (text u) := by
    refine fun _ => closed_skipText.toLocal.bind fun _ => closed_colon.toLocal
  split
  · exact local_eat.bind fun _ => htext ()
  · exact (fails_failAhead _).bind_left.toLocal
  · exact (fails_failAhead _).bind_left.toLocal

theorem local_closeFrames (frames : List Frame) (comma : Bool) :
    Local (closeFrames frames comma) := by
  induction frames generalizing comma with
  | nil => exact (plain_pure _).toLocal
  | cons frame outer ih =>
    unfold closeFrames
    refine local_peekPastBlanks.bind fun b => ?_
    split
    · exact local_eat.bind fun _ => ih true
    · exact local_eat.bind fun _ => ih true
    · split
      · split
        · exact local_eat.bind fun _ => (plain_pure _).toLocal
        · exact (fails_failAhead _).toLocal
      · exact (plain_pure _).toLocal
    · exact (fails_failAhead _).toLocal

/-- A local reader that takes a byte where there is one. -/
structure Bites (x : Reader α) : Prop extends Local x where
  first : ∀ {b t a r}, x.take (b :: t) = some (a, r) → r <:+ t

/-- A local reader that takes a byte. -/
structure Moves (x : Reader α) : Prop extends Local x where
  length_lt : ∀ {t a r}, x.take t = some (a, r) → r.length < t.length

theorem Fails.bites (hx : Fails x) : Bites x := ⟨hx.toLocal, fun h => by cases (hx _).symm.trans h⟩

theorem bites_eat : Bites eat := by
  refine ⟨local_eat, fun {b t u r} h => ?_⟩
  cases (taken_eat _).symm.trans h
  exact List.suffix_refl t

theorem bites_next : Bites next := by
  refine ⟨local_next, fun {b t u r} h => ?_⟩
  cases (taken_next _).symm.trans h
  exact List.suffix_refl t

theorem Bites.bind (hx : Bites x) (hf : ∀ a, Local (f a)) : Bites (x >>= f) := by
  refine ⟨hx.toLocal.bind hf, fun h => ?_⟩
  obtain ⟨a, r₁, hfirst, hsecond⟩ := (take_bind_eq_some fun a => (hf a).toSteady).mp h
  exact ((hf a).suffix hsecond).trans (hx.first hfirst)

theorem bites_skipNumber : Bites skipNumber := by
  obtain ⟨f, heq, hf⟩ := exists_skipNumber_eq
  exact heq ▸ bites_next.bind hf

/-- Who has looked at a byte can take it. -/
theorem moves_of_peek {f : Option UInt8 → Reader β} (hnone : Fails (f none))
    (hsome : ∀ b, Bites (f (some b))) : Moves (peekPastBlanks >>= f) := by
  have hf : ∀ b, Local (f b) := by
    rintro (_ | b)
    · exact hnone.toLocal
    · exact (hsome b).toLocal
  refine ⟨local_peekPastBlanks.bind hf, fun {t b r} h => ?_⟩
  rw [take_peekPastBlanks_bind fun b => (hf b).toSteady] at h
  have hle := (List.dropWhile_suffix (l := t) Cursor.isBlank).length_le
  cases hdrop : t.dropWhile Cursor.isBlank with
  | nil =>
    rw [hdrop] at h
    cases (hnone _).symm.trans h
  | cons b rest =>
    rw [hdrop] at h hle
    exact Nat.lt_of_le_of_lt ((hsome b).first h).length_le hle

/-- What a turn does after a value. -/
def skipMore (fuel : Nat) (frames : List Frame) : Reader Unit :=
  match frames with
  | [] => return ()
  | .object :: _ => do skipKey; skipFrom fuel frames
  | .list :: _ => skipFrom fuel frames

/-- A turn takes a scalar or opens a frame, closes what ends behind it and goes on. -/
theorem exists_skipFrom_succ_eq : ∃ (head : Reader (Option Frame))
    (close : Option Frame → List Frame → Reader (List Frame)), Moves head ∧
      (∀ opened frames, Local (close opened frames)) ∧ ∀ fuel frames, skipFrom (fuel + 1) frames =
        head >>= fun opened => close opened frames >>= skipMore fuel := by
  refine ⟨_, fun opened frames => _, moves_of_peek (fails_failAhead _) fun b => ?_,
    fun opened frames => ?_, fun fuel frames => rfl⟩
  · split
    · exact (fails_failAhead _).bites
    · exact bites_eat.bind fun _ => (local_word _).bind fun _ => (plain_pure _).toLocal
    · exact bites_eat.bind fun _ => (local_word _).bind fun _ => (plain_pure _).toLocal
    · exact bites_eat.bind fun _ => (local_word _).bind fun _ => (plain_pure _).toLocal
    · exact bites_eat.bind fun _ => local_skipNumber.bind fun _ => (plain_pure _).toLocal
    · exact bites_eat.bind fun _ => closed_skipText.toLocal.bind fun _ => (plain_pure _).toLocal
    · exact bites_eat.bind fun _ => (plain_pure _).toLocal
    · exact bites_eat.bind fun _ => (plain_pure _).toLocal
    · split_ifs
      · exact bites_skipNumber.bind fun _ => (plain_pure _).toLocal
      · exact (fails_failAhead _).bites
  · cases opened with
    | none => exact local_closeFrames frames true
    | some frame => exact local_closeFrames (frame :: frames) false

theorem local_skipMore {fuel : Nat} (h : ∀ frames, Local (skipFrom fuel frames))
    (frames : List Frame) : Local (skipMore fuel frames) := by
  unfold skipMore
  split
  · exact (plain_pure ()).toLocal
  · exact local_skipKey.bind fun _ => h _
  · exact h _

theorem local_skipFrom (fuel : Nat) (frames : List Frame) : Local (skipFrom fuel frames) := by
  induction fuel generalizing frames with
  | zero => exact (fails_failAhead _).toLocal
  | succ fuel ih =>
    obtain ⟨head, close, hhead, hclose, hsucc⟩ := exists_skipFrom_succ_eq
    rw [hsucc]
    exact hhead.toLocal.bind fun opened => (hclose opened frames).bind (local_skipMore ih)

/-- The limit on the turns is not reached. -/
theorem take_skipFrom_eq {n m : Nat} {frames : List Frame} (hn : t.length < n) (hm : t.length < m) :
    (skipFrom n frames).take t = (skipFrom m frames).take t := by
  induction n generalizing m frames t with
  | zero => exact absurd hn (Nat.not_lt_zero _)
  | succ n ih =>
    obtain ⟨m, rfl⟩ : ∃ k, m = k + 1 := Nat.exists_eq_add_one.mpr (Nat.zero_lt_of_lt hm)
    obtain ⟨head, close, hhead, hclose, hsucc⟩ := exists_skipFrom_succ_eq
    have hmore := fun fuel => local_skipMore (local_skipFrom fuel)
    rw [hsucc, hsucc]
    refine take_bind_congr (fun opened => ((hclose opened frames).bind (hmore n)).toSteady)
      (fun opened => ((hclose opened frames).bind (hmore m)).toSteady) fun opened r₁ hfirst => ?_
    refine take_bind_congr (fun fs => (hmore n fs).toSteady) (fun fs => (hmore m fs).toSteady)
      fun fs r₂ hsecond => ?_
    -- what the turn leaves is shorter, and so is what a key leaves of that
    have hshorter : r₂.length < t.length :=
      Nat.lt_of_le_of_lt ((hclose opened frames).suffix hsecond).length_le (hhead.length_lt hfirst)
    unfold skipMore
    split
    · rfl
    · refine take_bind_congr (fun _ => (local_skipFrom n _).toSteady)
        (fun _ => (local_skipFrom m _).toSteady) fun u r₃ hkey => ?_
      have hle := (local_skipKey.suffix hkey).length_le
      exact ih (by omega) (by omega)
    · exact ih (by omega) (by omega)

/-- A reader that sets its own limit by the number of bytes is one with a fixed limit, for a text
    and whatever may follow it. -/
theorem exists_fuel {reader : Nat → Reader α}
    (hx : ∀ c n, c.rest.length < n → taken (x.run c) = (reader n).take c.rest) (t s : Bytes) :
    ∃ n, x.take t = (reader n).take t ∧ x.take (t ++ s) = (reader n).take (t ++ s) := by
  refine ⟨(t ++ s).length + 1, hx (.ofWhole t) _ ?_, hx (.ofWhole (t ++ s)) _ (Nat.lt_succ_self _)⟩
  change t.length < (t ++ s).length + 1
  rw [List.length_append]
  omega

theorem Local.of_fuel {reader : Nat → Reader α} (hreader : ∀ n, Local (reader n))
    (hx : ∀ c n, c.rest.length < n → taken (x.run c) = (reader n).take c.rest) : Local x := by
  refine ⟨⟨fun c => ?_, fun {t a r} h => ?_⟩, fun {t a r} hr s => ?_⟩
  · rw [hx c _ (Nat.lt_succ_self _)]
    exact (hx (.ofWhole c.rest) _ (Nat.lt_succ_self _)).symm
  · obtain ⟨n, htake, -⟩ := exists_fuel hx t []
    exact (hreader n).suffix (htake ▸ h)
  · obtain ⟨n, htake, happend⟩ := exists_fuel hx t s
    rw [htake, happend]
    exact (hreader n).append hr s

theorem local_skipValue : Local skipValue := by
  refine .of_fuel (fun n => local_skipFrom n []) fun c n hn => ?_
  unfold skipValue
  rw [run_get_bind, (local_skipFrom _ []).run_eq]
  exact take_skipFrom_eq (Nat.lt_succ_self _) hn

/-! ## Objects and lists -/

theorem Fails.closed (hx : Fails x) : Closed x where
  toSteady := hx.toLocal.toSteady
  length_lt h := by cases (hx _).symm.trans h
  append s := by
    rw [take, take, hx, hx]
    exact iff_of_false (by simp) (by simp)

theorem Closed.of_fuel {reader : Nat → Reader α} (hreader : ∀ n, Closed (reader n))
    (hx : ∀ c n, c.rest.length < n → taken (x.run c) = (reader n).take c.rest) : Closed x := by
  refine ⟨(Local.of_fuel (fun n => (hreader n).toLocal) hx).toSteady, fun {t a r} h => ?_,
    fun {t a r} s => ?_⟩
  · obtain ⟨n, htake, -⟩ := exists_fuel hx t []
    exact (hreader n).length_lt (htake ▸ h)
  · obtain ⟨n, htake, happend⟩ := exists_fuel hx t s
    rw [htake, happend]
    exact (hreader n).append s

theorem local_memberFollows (first : Bool) : Local (memberFollows first) := by
  refine local_peekPastBlanks.bind fun b => ?_
  split
  · exact (fails_failAhead _).toLocal
  · exact (plain_pure _).toLocal
  · split_ifs
    · exact (plain_pure _).toLocal
    · exact (fails_failAhead _).toLocal
    · refine local_eat.bind fun _ => local_peekPastBlanks.bind fun b => ?_
      split
      · exact (plain_pure _).toLocal
      · exact (fails_failAhead _).toLocal
      · exact (fails_failAhead _).toLocal
      · exact (fails_failAhead _).toLocal
    · exact (fails_failAhead _).toLocal

/-- What comes of the byte behind a comma. -/
def afterComma : Option UInt8 → Reader Bool
  | none => failAhead .endInValue
  | some b => if b = 0x5D then failAhead .trailingComma else return true

/-- What comes of the byte at which an element may follow. -/
def beforeElement (first : Bool) : Option UInt8 → Reader Bool
  | none => failAhead .endInList
  | some b =>
    if b = 0x5D then return false
    else if first then return true
    else if b = 0x2C then eat >>= fun _ => peekPastBlanks >>= afterComma
    else failAhead .expectedListEnd

theorem elementFollows_eq (first : Bool) :
    elementFollows first = peekPastBlanks >>= beforeElement first := by
  refine bind_congr fun b => ?_
  split
  · rfl
  · rfl
  · rename_i b hb
    rw [beforeElement, if_neg hb]
    refine if_congr Iff.rfl rfl (if_congr Iff.rfl (bind_congr fun _ => bind_congr fun b => ?_) rfl)
    split
    · rfl
    · rename_i b hb
      rw [afterComma, if_neg hb]
    · rfl

theorem local_afterComma (b : Option UInt8) : Local (afterComma b) := by
  unfold afterComma
  split
  · exact (fails_failAhead _).toLocal
  · split_ifs
    · exact (fails_failAhead _).toLocal
    · exact (plain_pure _).toLocal

theorem local_beforeElement (first : Bool) (b : Option UInt8) : Local (beforeElement first b) := by
  unfold beforeElement
  split
  · exact (fails_failAhead _).toLocal
  · split_ifs
    · exact (plain_pure _).toLocal
    · exact (plain_pure _).toLocal
    · exact local_eat.bind fun _ => local_peekPastBlanks.bind local_afterComma
    · exact (fails_failAhead _).toLocal

theorem local_elementFollows (first : Bool) : Local (elementFollows first) :=
  elementFollows_eq first ▸ local_peekPastBlanks.bind (local_beforeElement first)

/-- Behind a comma there must be another element. -/
theorem take_afterComma {more : Bool} : (peekPastBlanks >>= afterComma).take t = some (more, r) ↔
    more = true ∧ t.dropWhile Cursor.isBlank = r ∧ ∃ b, b ≠ 0x5D ∧ r.head? = some b := by
  rw [take_peekPastBlanks_bind fun b => (local_afterComma b).toSteady]
  cases t.dropWhile Cursor.isBlank with
  | nil =>
    rw [List.head?_nil, afterComma, take_failAhead]
    refine ⟨nofun, ?_⟩
    rintro ⟨-, rfl, b, -, hb⟩
    cases hb
  | cons b u =>
    rw [List.head?_cons, afterComma]
    split_ifs with hb
    · rw [take_failAhead]
      refine ⟨nofun, ?_⟩
      rintro ⟨-, rfl, b', hne, hb'⟩
      exact absurd (hb ▸ (Option.some.inj hb').symm) hne
    · rw [take_pure, Option.some_inj, Prod.mk.injEq]
      constructor
      · rintro ⟨rfl, rfl⟩
        exact ⟨rfl, rfl, b, hb, rfl⟩
      · rintro ⟨rfl, rfl, -⟩
        exact ⟨rfl, rfl⟩

theorem take_elementFollows (first : Bool) (t : Bytes) : (elementFollows first).take t =
    match t.dropWhile Cursor.isBlank with
    | [] => none
    | b :: u =>
      if b = 0x5D then some (false, b :: u)
      else if first then some (true, b :: u)
      else if b = 0x2C then (peekPastBlanks >>= afterComma).take u
      else none := by
  rw [elementFollows_eq, take_peekPastBlanks_bind fun b => (local_beforeElement first b).toSteady]
  cases t.dropWhile Cursor.isBlank with
  | nil => rfl
  | cons b u =>
    simp only [List.head?_cons, beforeElement]
    split_ifs
    · rfl
    · rfl
    · exact take_bind (fun _ => (local_peekPastBlanks.bind local_afterComma).toSteady) _
    · rfl

/-- No element follows where the list ends. -/
theorem take_elementFollows_false {first : Bool} : (elementFollows first).take t = some (false, r) ↔
    t.dropWhile Cursor.isBlank = r ∧ r.head? = some 0x5D := by
  rw [take_elementFollows]
  cases t.dropWhile Cursor.isBlank with
  | nil => grind
  | cons b u =>
    by_cases hb : b = 0x5D
    · grind
    · have hcomma : (peekPastBlanks >>= afterComma).take u ≠ some (false, r) := by
        simp [take_afterComma]
      grind

/-- An element follows at the start of the list, or behind a comma. -/
theorem take_elementFollows_true {first : Bool} : (elementFollows first).take t = some (true, r) ↔
    ∃ s, (if first then s = t else t.dropWhile Cursor.isBlank = 0x2C :: s) ∧
      s.dropWhile Cursor.isBlank = r ∧ ∃ b, b ≠ 0x5D ∧ r.head? = some b := by
  rw [take_elementFollows]
  cases first with
  | true =>
    simp only [if_true, exists_eq_left]
    cases t.dropWhile Cursor.isBlank with
    | nil => grind
    | cons b u =>
      by_cases hb : b = 0x5D
      · grind
      · simp +contextual [hb, eq_comm]
  | false =>
    cases t.dropWhile Cursor.isBlank with
    | nil => simp
    | cons b u =>
      by_cases hb : b = 0x2C
      · simp [hb, take_afterComma]
      · grind

section

variable {inside inside' : Reader α} {close : Reader Unit}

theorem local_inside (hinside : Local inside) (close : Reader Unit) : Local
    (tryCatch inside fun problem => do attempt close; throw problem : Reader α) :=
  hinside.congr (taken_tryCatch fun _ => .bind_right fun _ => fails_throw _)

/-- What stands between two brackets. -/
theorem closed_bracketed (hinside : Local inside) (hclose : Closed close) :
    Closed (bracketed inside close) := by
  refine Closed.congr ?_ taken_placed
  exact .bind local_eat fun _ => .bind (local_inside hinside close) fun value =>
    hclose.bind_plain fun _ => plain_pure value

theorem take_bracketed_congr (hinside : Local inside) (hinside' : Local inside')
    (hclose : Closed close) (h : inside.take t.tail = inside'.take t.tail) :
    (bracketed inside close).take t = (bracketed inside' close).take t := by
  have hend : ∀ value, Local (close >>= fun _ => pure value : Reader α) :=
    fun value => (hclose.bind_plain fun _ => plain_pure value).toLocal
  have hin := local_inside hinside close
  have hin' := local_inside hinside' close
  have hcatch : ∀ (x : Reader α) t, Reader.take
      (tryCatch x fun problem => do attempt close; throw problem : Reader α) t = x.take t :=
    fun x t => taken_tryCatch (fun _ => .bind_right fun _ => fails_throw _) _
  refine (taken_placed _).trans (Eq.trans ?_ (taken_placed _).symm)
  refine take_bind_congr (fun _ => (hin.bind hend).toSteady) (fun _ => (hin'.bind hend).toSteady)
    fun u r hr => ?_
  obtain rfl : t.tail = r := (Prod.mk.inj (Option.some.inj ((taken_eat _).symm.trans hr))).2
  rw [take_bind fun value => (hend value).toSteady, take_bind fun value => (hend value).toSteady,
    hcatch, hcatch, h]

end

/-! ## Whole texts -/

theorem result_eq_ok {c : Cursor} : result x c = .ok a ↔ ∃ r, taken (x.run c) = some (a, r) := by
  unfold result taken
  rcases x.run c with ⟨o, c₁⟩
  cases o <;> simp [Except.toOption]

theorem Fails.exists_result_eq (hx : Fails x) (c : Cursor) :
    ∃ problem, result x c = .error problem := by
  have hnone := hx c
  unfold result
  rcases hrun : x.run c with ⟨problem | a, c₁⟩
  · exact ⟨problem, rfl⟩
  · rw [hrun] at hnone
    cases hnone

theorem exists_complete_eq (x : Reader α) : ∃ f : α → Option UInt8 → Reader α,
    complete x = (x >>= fun a => peekPastBlanks >>= f a) ∧ (∀ a, f a none = pure a) ∧
      (∀ a b, Fails (f a (some b))) ∧ ∀ a b, Steady (f a b) := by
  refine ⟨_, rfl, fun _ => rfl, fun _ _ => fails_failAhead _, fun a b => ?_⟩
  split
  · exact (fails_failAhead _).toLocal.toSteady
  · exact (plain_pure a).toLocal.toSteady

theorem Steady.complete (hx : Steady x) : Steady (complete x) := by
  obtain ⟨f, heq, -, -, hf⟩ := exists_complete_eq x
  exact heq ▸ hx.bind fun a => local_peekPastBlanks.toSteady.bind (hf a)

/-- A text is read completely if only blanks are left. -/
theorem take_complete :
    (complete x).take t = some (a, r) ↔ ∃ r₁, x.take t = some (a, r₁) ∧ Blank r₁ ∧ r = [] := by
  obtain ⟨f, heq, hnone, hsome, hf⟩ := exists_complete_eq x
  have hend : ∀ a' r₁, (peekPastBlanks >>= f a').take r₁ = some (a, r) ↔
      a' = a ∧ Blank r₁ ∧ r = [] := by
    intro a' r₁
    rw [take_peekPastBlanks_bind (hf a'), blank_iff]
    cases r₁.dropWhile Cursor.isBlank with
    | nil =>
      rw [List.head?_nil, hnone, Plain.take_eq (o := some a') (fun _ => rfl)]
      simp [eq_comm]
    | cons b u =>
      rw [List.head?_cons, take, hsome]
      simp
  rw [heq, take_bind_eq_some fun a => local_peekPastBlanks.toSteady.bind (hf a)]
  simp only [hend]
  constructor
  · rintro ⟨_, r₁, hfirst, rfl, hrest⟩
    exact ⟨r₁, hfirst, hrest⟩
  · rintro ⟨r₁, hfirst, hrest⟩
    exact ⟨a, r₁, hfirst, rfl, hrest⟩

end Reader

end DataStaging.Json
