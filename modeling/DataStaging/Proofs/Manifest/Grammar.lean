import DataStaging.Manifest.Entry
import DataStaging.Proofs.Json.Records
import Mathlib.Data.List.Forall2

/-!
# What a manifest lists

A manifest is a bracket, entries with commas between them and a bracket, with blanks around all of
them. Whatever a file holds, the entries that are handed on are the longest list of entries that it
begins with: the elements before the first one that is no entry, or before whatever else is no list.

Results:
* `opens_iff_isPrefix`: the lists of entries that a file begins with.
* `lists_iff`: when a file is read to its end.
* `entries_readFor`: what is handed on to a queue that is closed.
-/

namespace DataStaging

open Json (Blank Cursor Problem taken)
open Json.Reader

/-! ## Entries -/

namespace ManifestEntry

variable {t r s text : Bytes} {e : ManifestEntry}

theorem isLocal_shape : shape.IsLocal := by
  intro field hfield draft
  rcases List.mem_pair.mp hfield with rfl | rfl
  · exact local_textValue.bind fun _ => (plain_pure _).toLocal
  · exact local_textValue.bind fun _ => (plain_pure _).toLocal

theorem closed_reader : Closed reader :=
  (Json.Shape.closed_read isLocal_shape _).bind_plain fun _ => plain_pure _

theorem take_reader_eq_some : reader.take t = some (e, r) ↔
    ∃ draft, (shape.read ⟨none, none⟩).take t = some (draft, r) ∧
      ⟨draft.relativePath.getD "", draft.storagePath.getD ""⟩ = e :=
  take_bind_pure _

/-- Blanks before an entry make no difference. -/
theorem take_reader_dropWhile (t : Bytes) :
    reader.take (t.dropWhile Cursor.isBlank) = reader.take t := by
  ext ⟨e, r⟩
  simp only [take_reader_eq_some, Json.Shape.take_read_dropWhile isLocal_shape]

/-- Behind blanks, an entry does not begin as a list ends. -/
theorem exists_head_of_take (h : reader.take t = some (e, r)) :
    ∃ b, b ≠ 0x5D ∧ (t.dropWhile Cursor.isBlank).head? = some b := by
  obtain ⟨draft, hread, -⟩ := take_reader_eq_some.mp h
  obtain ⟨u, hu | hu⟩ := Json.Shape.exists_bracket_of_take isLocal_shape hread
  · exact ⟨0x5B, by decide, by rw [hu]; rfl⟩
  · exact ⟨0x7B, by decide, by rw [hu]; rfl⟩

/-- The text is this entry, with or without blanks around it. -/
def Decodes (text : Bytes) (e : ManifestEntry) : Prop :=
  result (complete reader) (.ofWhole text) = .ok e

theorem decodes_iff : Decodes text e ↔ ∃ r, reader.take text = some (e, r) ∧ Blank r := by
  refine result_eq_ok.trans ?_
  change (∃ r, (complete reader).take text = some (e, r)) ↔ _
  simp [take_complete]

end ManifestEntry

namespace Manifest

variable {first : Bool} {t r s rest : Bytes} {e : ManifestEntry} {es : List ManifestEntry}

/-! ## Elements -/

/-- Reads the next element of a list, if there is one. -/
def element (first : Bool) : Json.Reader (Option ManifestEntry) :=
  elementFollows first >>= fun more =>
    if more then ManifestEntry.reader >>= fun e => pure (some e) else pure none

theorem closed_entry : Closed (ManifestEntry.reader >>= fun e => pure (some e)) :=
  ManifestEntry.closed_reader.bind_plain fun _ => plain_pure _

theorem local_element_turn (more : Bool) : Local
    (if more then ManifestEntry.reader >>= fun e => pure (some e) else pure none) := by
  split_ifs
  · exact closed_entry.toLocal
  · exact (plain_pure _).toLocal

theorem local_element (first : Bool) : Local (element first) :=
  (local_elementFollows first).bind local_element_turn

/-- An entry is taken at the start of the list, or behind a comma. -/
theorem take_element_some : (element first).take t = some (some e, r) ↔
    ∃ s, (if first then s = t else t.dropWhile Cursor.isBlank = 0x2C :: s) ∧
      ManifestEntry.reader.take s = some (e, r) := by
  refine (take_bind_eq_some fun more => (local_element_turn more).toSteady).trans ?_
  constructor
  · rintro ⟨more, r₁, hfollows, hread⟩
    cases more with
    | false => cases hread
    | true =>
      obtain ⟨s, hs, hdrop, -⟩ := take_elementFollows_true.mp hfollows
      obtain ⟨_, hentry, ⟨⟩⟩ := (take_bind_pure some).mp hread
      rw [← hdrop, ManifestEntry.take_reader_dropWhile] at hentry
      exact ⟨s, hs, hentry⟩
  · rintro ⟨s, hs, hread⟩
    have hhead := ManifestEntry.exists_head_of_take hread
    rw [← ManifestEntry.take_reader_dropWhile] at hread
    exact ⟨true, _, take_elementFollows_true.mpr ⟨s, hs, rfl, hhead⟩,
      (take_bind_pure some).mpr ⟨e, hread, rfl⟩⟩

/-- No entry is taken where the list ends. -/
theorem take_element_none : (element first).take t = some (none, r) ↔
    t.dropWhile Cursor.isBlank = r ∧ r.head? = some 0x5D := by
  refine (take_bind_eq_some fun more => (local_element_turn more).toSteady).trans ?_
  constructor
  · rintro ⟨more, r₁, hfollows, hread⟩
    cases more with
    | false =>
      cases hread
      exact take_elementFollows_false.mp hfollows
    | true =>
      obtain ⟨e, -, he⟩ := (take_bind_pure some).mp hread
      cases he
  · intro h
    exact ⟨false, r, take_elementFollows_false.mpr h, rfl⟩

/-! ## Entries between commas -/

/-- The entries `es` are taken one after the other, and `u` is left. -/
inductive Front : Bool → Bytes → List ManifestEntry → Bytes → Prop where
  | nil {first : Bool} {t : Bytes} : Front first t [] t
  | cons {first : Bool} {t r u : Bytes} {e : ManifestEntry} {es : List ManifestEntry} :
      (element first).take t = some (some e, r) → Front false r es u → Front first t (e :: es) u

theorem front_cons_iff {u : Bytes} : Front first t (e :: es) u ↔
    ∃ r, (element first).take t = some (some e, r) ∧ Front false r es u :=
  ⟨fun | .cons htake hfront => ⟨_, htake, hfront⟩, fun ⟨_, htake, hfront⟩ => .cons htake hfront⟩

/-- Where no entry can be taken, none is. -/
theorem exists_front_iff_of_none (hnone : ∀ e r, (element first).take t ≠ some (some e, r)) :
    (∃ u, Front first t es u) ↔ es = [] := by
  constructor
  · rintro ⟨u, hfront⟩
    cases hfront with
    | nil => rfl
    | cons htake _ => exact absurd htake (hnone _ _)
  · rintro rfl
    exact ⟨t, .nil⟩

/-- Texts of entries, each behind a comma, are taken one after the other. -/
theorem exists_front_of_decodes (rest : Bytes) {texts : List Bytes}
    (h : List.Forall₂ ManifestEntry.Decodes texts es) {blanks : Bytes} (hblanks : Blank blanks) :
    ∃ b, Blank b ∧ Front false (blanks ++ (texts.flatMap (0x2C :: ·) ++ rest)) es (b ++ rest) := by
  induction h generalizing blanks with
  | nil => exact ⟨blanks, hblanks, .nil⟩
  | @cons text e texts es htext _ ih =>
    obtain ⟨r, hread, hr⟩ := ManifestEntry.decodes_iff.mp htext
    obtain ⟨b, hb, hfront⟩ := ih hr
    refine ⟨b, hb, .cons (take_element_some.mpr
      ⟨text ++ (texts.flatMap (0x2C :: ·) ++ rest), ?_, ?_⟩) hfront⟩
    · rw [if_neg Bool.false_ne_true, hblanks.dropWhile_append, List.flatMap_cons, List.cons_append,
        List.cons_append, List.append_assoc, List.dropWhile_cons_of_neg (by decide)]
    · exact (ManifestEntry.closed_reader.append _).mpr hread

/-- What is taken as an entry is a text of that entry. -/
theorem exists_text_of_take (h : ManifestEntry.reader.take t = some (e, r)) :
    ∃ text, t = text ++ r ∧ ∀ blanks, Blank blanks → ManifestEntry.Decodes (text ++ blanks) e := by
  obtain ⟨text, rfl⟩ := ManifestEntry.closed_reader.suffix h
  have hread : ManifestEntry.reader.take text = some (e, []) :=
    (ManifestEntry.closed_reader.append r).mp h
  exact ⟨text, rfl, fun blanks hblanks => ManifestEntry.decodes_iff.mpr
    ⟨blanks, (ManifestEntry.closed_reader.append blanks).mpr hread, hblanks⟩⟩

/-- What is taken one after the other are texts of entries, each behind a comma. -/
theorem exists_texts_of_front {u : Bytes} (h : Front false t es u) : ∃ blanks texts, Blank blanks ∧
    List.Forall₂ ManifestEntry.Decodes texts es ∧
      t = blanks ++ (texts.flatMap (0x2C :: ·) ++ u) := by
  generalize hfirst : false = first at h
  induction h with
  | nil => exact ⟨[], [], Json.blank_nil, .nil, rfl⟩
  | @cons first t r u e es htake _ ih =>
    subst hfirst
    obtain ⟨s, hs, hread⟩ := take_element_some.mp htake
    obtain ⟨blanks, hblanks, rfl⟩ := Json.exists_blank_append hs
    obtain ⟨text, rfl, htext⟩ := exists_text_of_take hread
    obtain ⟨between, texts, hbetween, htexts, rfl⟩ := ih rfl
    -- blanks before a comma belong to the text before it
    refine ⟨blanks, (text ++ between) :: texts, hblanks, .cons (htext between hbetween) htexts, ?_⟩
    simp only [List.flatMap_cons, List.cons_append, List.append_assoc]

/-! ## Manifests -/

/-- The bytes begin a list of these entries, and `rest` follows them. -/
def Opens (bytes : Bytes) (es : List ManifestEntry) (rest : Bytes) : Prop :=
  ∃ blanks texts, Blank blanks ∧ List.Forall₂ ManifestEntry.Decodes texts es ∧
    bytes = blanks ++ 0x5B :: ([0x2C].intercalate texts ++ rest)

/-- The bytes end a list, and nothing but blanks follows it. -/
def Closes (rest : Bytes) : Prop :=
  ∃ before after, Blank before ∧ Blank after ∧ rest = before ++ 0x5D :: after

/-- The bytes are one list of these entries. -/
def Lists (bytes : Bytes) (es : List ManifestEntry) : Prop :=
  ∃ rest, Opens bytes es rest ∧ Closes rest

variable {bytes : Bytes}

theorem Opens.exists_front (h : Opens bytes es rest) : ∃ t b,
    bytes.dropWhile Cursor.isBlank = 0x5B :: t ∧ Blank b ∧ Front true t es (b ++ rest) := by
  obtain ⟨blanks, texts, hblanks, htexts, rfl⟩ := h
  refine ⟨[0x2C].intercalate texts ++ rest, ?_⟩
  have hdrop : (blanks ++ 0x5B :: ([0x2C].intercalate texts ++ rest)).dropWhile Cursor.isBlank =
      0x5B :: ([0x2C].intercalate texts ++ rest) := by
    rw [hblanks.dropWhile_append, List.dropWhile_cons_of_neg (by decide)]
  cases htexts with
  | nil => exact ⟨[], hdrop, Json.blank_nil, .nil⟩
  | @cons text e texts es htext htexts =>
    obtain ⟨r, hread, hr⟩ := ManifestEntry.decodes_iff.mp htext
    obtain ⟨b, hb, hfront⟩ := exists_front_of_decodes rest htexts hr
    refine ⟨b, hdrop, hb, .cons (take_element_some.mpr
      ⟨[0x2C].intercalate (text :: texts) ++ rest, rfl, ?_⟩) hfront⟩
    rw [Json.intercalate_cons, List.append_assoc]
    exact (ManifestEntry.closed_reader.append _).mpr hread

theorem opens_of_front (hdrop : bytes.dropWhile Cursor.isBlank = 0x5B :: t)
    (h : Front true t es r) : Opens bytes es r := by
  obtain ⟨blanks, hblanks, rfl⟩ := Json.exists_blank_append hdrop
  cases h with
  | nil => exact ⟨blanks, [], hblanks, .nil, rfl⟩
  | cons htake hfront =>
    obtain ⟨s, hs, hread⟩ := take_element_some.mp htake
    obtain rfl : s = t := hs
    obtain ⟨text, rfl, htext⟩ := exists_text_of_take hread
    obtain ⟨between, texts, hbetween, htexts, rfl⟩ := exists_texts_of_front hfront
    refine ⟨blanks, (text ++ between) :: texts, hblanks, .cons (htext between hbetween) htexts, ?_⟩
    rw [Json.intercalate_cons]
    simp only [List.append_assoc]

theorem closes_iff : Closes t ↔ ∃ r, t.dropWhile Cursor.isBlank = 0x5D :: r ∧ Blank r := by
  constructor
  · rintro ⟨before, after, hbefore, hafter, rfl⟩
    refine ⟨after, ?_, hafter⟩
    rw [hbefore.dropWhile_append, List.dropWhile_cons_of_neg (by decide)]
  · rintro ⟨r, hdrop, hr⟩
    obtain ⟨blanks, hblanks, rfl⟩ := Json.exists_blank_append hdrop
    exact ⟨blanks, r, hblanks, hr, rfl⟩

theorem closes_dropWhile : Closes (t.dropWhile Cursor.isBlank) ↔ Closes t := by
  rw [closes_iff, closes_iff, List.dropWhile_idempotent]

theorem closes_blank_append {b : Bytes} (hb : Blank b) : Closes (b ++ rest) ↔ Closes rest := by
  rw [closes_iff, closes_iff, hb.dropWhile_append]

/-! ## Reading a list to its end -/

/-- The entries that are read from here on, how the list ends behind them, and where. -/
inductive Ahead : Bool → Cursor → List ManifestEntry → Except Problem Unit → Cursor → Prop where
  | ended {first : Bool} {c c' : Cursor} :
      (element first).run c = (.ok none, c') → Ahead first c [] (.ok ()) c'
  | flawed {first : Bool} {c c' : Cursor} {problem : Problem} :
      (element first).run c = (.error problem, c') → Ahead first c [] (.error problem) c'
  | entry {first : Bool} {c c₁ c' : Cursor} {e : ManifestEntry} {es : List ManifestEntry}
      {outcome : Except Problem Unit} : (element first).run c = (.ok (some e), c₁) →
      Ahead false c₁ es outcome c' → Ahead first c (e :: es) outcome c'

variable {c c₁ c' : Cursor} {outcome : Except Problem Unit}

theorem take_element_of_run {o : Option ManifestEntry} (h : (element first).run c = (.ok o, c')) :
    (element first).take c.rest = some (o, c'.rest) := by
  rw [← (local_element first).run_eq, h]
  rfl

theorem take_element_of_error {problem : Problem}
    (h : (element first).run c = (.error problem, c')) : (element first).take c.rest = none := by
  rw [← (local_element first).run_eq, h]
  rfl

/-- An entry takes at least a byte. -/
theorem length_lt_of_element (h : (element first).run c = (.ok (some e), c₁)) :
    c₁.rest.length < c.rest.length := by
  obtain ⟨s, hs, hread⟩ := take_element_some.mp (take_element_of_run h)
  refine Nat.lt_of_lt_of_le (ManifestEntry.closed_reader.length_lt hread) ?_
  split_ifs at hs
  · rw [hs]
  · have hle := (List.dropWhile_suffix (l := c.rest) Cursor.isBlank).length_le
    rw [hs, List.length_cons] at hle
    omega

theorem exists_ahead (first : Bool) (c : Cursor) :
    ∃ es outcome c', Ahead first c es outcome c' := by
  induction hn : c.rest.length using Nat.strong_induction_on generalizing first c with
  | _ n ih =>
    rcases h : (element first).run c with ⟨_ | _ | e, c₁⟩
    · exact ⟨_, _, _, .flawed h⟩
    · exact ⟨_, _, _, .ended h⟩
    · obtain ⟨es, outcome, c', hrest⟩ := ih _ (hn ▸ length_lt_of_element h) false c₁ rfl
      exact ⟨_, _, _, .entry h hrest⟩

/-- What is read is what can be taken, and no more. -/
theorem Ahead.exists_front_iff {es' : List ManifestEntry} (h : Ahead first c es outcome c') :
    (∃ r, Front first c.rest es' r) ↔ es' <+: es := by
  induction h generalizing es' with
  | ended hrun =>
    rw [List.prefix_nil]
    exact exists_front_iff_of_none fun e r htake => by
      cases htake.symm.trans (take_element_of_run hrun)
  | flawed hrun =>
    rw [List.prefix_nil]
    exact exists_front_iff_of_none fun e r htake => by
      cases htake.symm.trans (take_element_of_error hrun)
  | entry hrun _ ih =>
    have htake := take_element_of_run hrun
    cases es' with
    | nil => exact ⟨fun _ => List.nil_prefix, fun _ => ⟨_, .nil⟩⟩
    | cons e' es' =>
      rw [List.cons_prefix_cons, ← ih]
      constructor
      · rintro ⟨u, hfront⟩
        obtain ⟨r, htake', hfront⟩ := front_cons_iff.mp hfront
        cases htake'.symm.trans htake
        exact ⟨rfl, u, hfront⟩
      · rintro ⟨rfl, u, hfront⟩
        exact ⟨u, .cons htake hfront⟩

/-! ## The end of a manifest -/

/-- What comes of a list once its elements have been read. -/
def verdict (outcome : Except Problem Unit) (c : Cursor) : Except Problem Unit :=
  match leave outcome c with
  | (.error problem, _) => .error problem
  | (.ok (), c) => result (complete (pure ())) c

theorem verdict_error_ne (problem : Problem) (c : Cursor) :
    verdict (.error problem) c ≠ .ok () := nofun

theorem verdict_ok_iff : verdict (.ok ()) c = .ok () ↔ Closes c.rest := by
  have hclose : taken (closeList.run c) = closeList.take c.rest := closed_closeList.run_eq c
  have hend : ∀ c', result (complete (pure ())) c' = .ok () ↔ Blank c'.rest := by
    intro c'
    rw [result_eq_ok, (plain_pure ()).toLocal.toSteady.complete.run_eq]
    simp [take_complete, take_pure]
  unfold verdict leave
  rw [closes_iff]
  rcases hrun : closeList.run c with ⟨problem | u, c₁⟩
  · rw [hrun] at hclose
    refine ⟨nofun, ?_⟩
    rintro ⟨r, hdrop, -⟩
    cases hclose.trans ((take_closeList (u := ())).mpr hdrop)
  · rw [hrun] at hclose
    have hdrop := take_closeList.mp hclose.symm
    simp only
    rw [hend]
    constructor
    · intro hblank
      exact ⟨_, hdrop, hblank⟩
    · rintro ⟨r, hdrop', hblank⟩
      obtain ⟨-, rfl⟩ := List.cons.inj (hdrop.symm.trans hdrop')
      exact hblank

theorem exists_take_element_of_closes (first : Bool) (h : Closes t) :
    ∃ r, (element first).take t = some (none, r) := by
  obtain ⟨r, hdrop, -⟩ := closes_iff.mp h
  exact ⟨_, take_element_none.mpr ⟨hdrop, rfl⟩⟩

/-- A list ends well exactly if all of it has been taken. -/
theorem Ahead.exists_closes_iff {es' : List ManifestEntry} (h : Ahead first c es outcome c') :
    (∃ r, Front first c.rest es' r ∧ Closes r) ↔ es' = es ∧ verdict outcome c' = .ok () := by
  induction h generalizing es' with
  | @ended first c c' hrun =>
    have htake := take_element_of_run hrun
    obtain ⟨hdrop, -⟩ := take_element_none.mp htake
    rw [verdict_ok_iff, ← hdrop, closes_dropWhile]
    constructor
    · rintro ⟨r, hfront, hcloses⟩
      cases hfront with
      | nil => exact ⟨rfl, hcloses⟩
      | cons htake' _ => cases htake'.symm.trans htake
    · rintro ⟨rfl, hcloses⟩
      exact ⟨_, .nil, hcloses⟩
  | @flawed first c c' problem hrun =>
    have htake := take_element_of_error hrun
    refine ⟨?_, fun h => absurd h.2 (verdict_error_ne problem c')⟩
    rintro ⟨r, hfront, hcloses⟩
    cases hfront with
    | nil =>
      obtain ⟨r, htake'⟩ := exists_take_element_of_closes first hcloses
      cases htake'.symm.trans htake
    | cons htake' _ => cases htake'.symm.trans htake
  | @entry first c c₁ c' e es outcome hrun _ ih =>
    have htake := take_element_of_run hrun
    cases es' with
    | nil =>
      refine ⟨?_, nofun⟩
      rintro ⟨r, hfront, hcloses⟩
      cases hfront
      obtain ⟨r, htake'⟩ := exists_take_element_of_closes first hcloses
      cases htake'.symm.trans htake
    | cons e' es' =>
      rw [List.cons.injEq, and_assoc, ← ih]
      constructor
      · rintro ⟨u, hfront, hcloses⟩
        obtain ⟨r, htake', hfront⟩ := front_cons_iff.mp hfront
        cases htake'.symm.trans htake
        exact ⟨rfl, u, hfront, hcloses⟩
      · rintro ⟨rfl, u, hfront, hcloses⟩
        exact ⟨u, .cons htake hfront, hcloses⟩

/-! ## Reading a manifest -/

theorem elements_succ (fuel : Nat) (room : Option Nat) (entries : List ManifestEntry) :
    elements (fuel + 1) first room entries c = match (element first).run c with
      | (.error problem, c) => (entries, .error problem, c)
      | (.ok none, c) => (entries, .ok (), c)
      | (.ok (some entry), c) =>
        match room with
        | some 0 => (entries, .ok (), c)
        | some (n + 1) => elements fuel false (some n) (entry :: entries) c
        | none => elements fuel false none (entry :: entries) c := by
  rw [elements, element, run_bind]
  rcases (elementFollows first).run c with ⟨problem | _ | _, c₁⟩
  · rfl
  · rfl
  · simp only [if_true, run_bind]
    rcases ManifestEntry.reader.run c₁ with ⟨problem | e, c₂⟩
    · rfl
    · rfl

/-- The limit on the elements is not reached. -/
theorem Ahead.elements_none {fuel : Nat} {entries : List ManifestEntry}
    (h : Ahead first c es outcome c') (hfuel : c.rest.length < fuel) :
    elements fuel first none entries c = (es.reverse ++ entries, outcome, c') := by
  induction h generalizing fuel entries with
  | ended hrun | flawed hrun =>
    obtain ⟨fuel, rfl⟩ := Nat.exists_eq_add_one.mpr (Nat.zero_lt_of_lt hfuel)
    rw [elements_succ, hrun]
    rfl
  | entry hrun _ ih =>
    obtain ⟨fuel, rfl⟩ := Nat.exists_eq_add_one.mpr (Nat.zero_lt_of_lt hfuel)
    rw [elements_succ, hrun]
    have hlt := length_lt_of_element hrun
    simp only
    rw [ih (by omega), List.reverse_cons, List.append_assoc]
    rfl

/-- A queue that is closed takes no more than it has room for. -/
theorem Ahead.elements_some {fuel n : Nat} {entries : List ManifestEntry}
    (h : Ahead first c es outcome c') (hfuel : c.rest.length < fuel) :
    (elements fuel first (some n) entries c).1 = (es.take n).reverse ++ entries := by
  induction h generalizing fuel n entries with
  | ended hrun | flawed hrun =>
    obtain ⟨fuel, rfl⟩ := Nat.exists_eq_add_one.mpr (Nat.zero_lt_of_lt hfuel)
    rw [elements_succ, hrun, List.take_nil]
    rfl
  | entry hrun _ ih =>
    obtain ⟨fuel, rfl⟩ := Nat.exists_eq_add_one.mpr (Nat.zero_lt_of_lt hfuel)
    rw [elements_succ, hrun]
    have hlt := length_lt_of_element hrun
    cases n with
    | zero => rfl
    | succ n =>
      simp only
      rw [ih (by omega), List.take_succ_cons, List.reverse_cons, List.append_assoc]
      rfl

/-- The reader's place behind the blanks at the front. -/
def opening (bytes : Bytes) : Cursor := (Cursor.ofStream bytes).skipBlanks

theorem rest_opening (bytes : Bytes) : (opening bytes).rest = bytes.dropWhile Cursor.isBlank :=
  fst_passBlanks bytes _

theorem run_opening (bytes : Bytes) : peekPastBlanks.run (.ofStream bytes) =
    (.ok (opening bytes).rest.head?, opening bytes) := rfl

theorem length_opening_lt (bytes : Bytes) :
    (opening bytes).advance.rest.length < bytes.length + 1 := by
  have hle := (List.dropWhile_suffix (l := bytes) Cursor.isBlank).length_le
  rw [rest_advance, rest_opening, List.length_tail]
  omega

theorem entries_readFor_of_bracket (room : Option Nat)
    (h : (opening bytes).rest.head? = some 0x5B) : (readFor room bytes).entries =
      (elements (bytes.length + 1) true room [] (opening bytes).advance).1.reverse := by
  simp only [readFor, run_opening, h]
  split <;> rfl

theorem read_of_ahead (h : (opening bytes).rest.head? = some 0x5B)
    (ha : Ahead true (opening bytes).advance es outcome c') :
    read bytes = ⟨es, verdict outcome c'⟩ := by
  simp only [read, readFor, run_opening, h, ha.elements_none (length_opening_lt bytes),
    List.append_nil, List.reverse_reverse, verdict]
  rcases leave outcome c' with ⟨_ | _, _⟩ <;> rfl

theorem readFor_of_no_bracket (room : Option Nat) (h : (opening bytes).rest.head? ≠ some 0x5B) :
    (readFor room bytes).entries = [] ∧
      ∃ problem, (readFor room bytes).outcome = .error problem := by
  simp only [readFor, run_opening]
  cases hb : (opening bytes).rest.head? with
  | none => exact ⟨rfl, _, rfl⟩
  | some b =>
    have hne : b ≠ 0x5B := fun heq => h (by rw [hb, heq])
    simp only
    exact ⟨trivial, (fails_refuse _).exists_result_eq _⟩

/-- What is handed on to a queue that is closed after `n` entries. -/
theorem entries_readFor (n : Nat) (bytes : Bytes) :
    (readFor (some n) bytes).entries = (read bytes).entries.take n := by
  by_cases h : (opening bytes).rest.head? = some 0x5B
  · obtain ⟨es, outcome, c', ha⟩ := exists_ahead true (opening bytes).advance
    rw [entries_readFor_of_bracket _ h, read_of_ahead h ha,
      ha.elements_some (length_opening_lt bytes), List.append_nil, List.reverse_reverse]
  · rw [(readFor_of_no_bracket _ h).1, read, (readFor_of_no_bracket _ h).1, List.take_nil]

theorem dropWhile_of_head (h : (opening bytes).rest.head? = some 0x5B) :
    bytes.dropWhile Cursor.isBlank = 0x5B :: (opening bytes).advance.rest := by
  obtain ⟨t, ht⟩ := List.head?_eq_some_iff.mp h
  rw [rest_advance, ht, ← rest_opening, ht]
  rfl

theorem Opens.head_opening (h : Opens bytes es rest) : (opening bytes).rest.head? = some 0x5B := by
  obtain ⟨t, -, hdrop, -⟩ := h.exists_front
  rw [rest_opening, hdrop]
  rfl

theorem opens_nil_of_head (h : (opening bytes).rest.head? = some 0x5B) :
    ∃ rest, Opens bytes [] rest :=
  ⟨_, opens_of_front (dropWhile_of_head h) .nil⟩

/-- A file that begins no list has no entries. -/
theorem entries_read_of_not_opens (h : ¬ ∃ rest, Opens bytes [] rest) : (read bytes).entries = [] :=
  (readFor_of_no_bracket none fun hhead => h (opens_nil_of_head hhead)).1

/-- What a file begins with is what can be taken behind its bracket. -/
theorem Opens.front_opening (h : Opens bytes es rest) :
    ∃ b, Blank b ∧ Front true (opening bytes).advance.rest es (b ++ rest) := by
  obtain ⟨t, b, hdrop, hb, hfront⟩ := h.exists_front
  obtain ⟨-, rfl⟩ := List.cons.inj ((dropWhile_of_head h.head_opening).symm.trans hdrop)
  exact ⟨b, hb, hfront⟩

/-- A file begins with the entries that are handed on, and with no other ones. -/
theorem opens_iff_isPrefix : (∃ rest, Opens bytes es rest) ↔
    (∃ rest, Opens bytes [] rest) ∧ es <+: (read bytes).entries := by
  constructor
  · rintro ⟨rest, hopens⟩
    obtain ⟨es', outcome, c', ha⟩ := exists_ahead true (opening bytes).advance
    obtain ⟨b, -, hfront⟩ := hopens.front_opening
    rw [read_of_ahead hopens.head_opening ha]
    exact ⟨opens_nil_of_head hopens.head_opening, ha.exists_front_iff.mp ⟨_, hfront⟩⟩
  · rintro ⟨⟨rest, hopens⟩, hprefix⟩
    obtain ⟨es', outcome, c', ha⟩ := exists_ahead true (opening bytes).advance
    rw [read_of_ahead hopens.head_opening ha] at hprefix
    obtain ⟨r, hfront⟩ := ha.exists_front_iff.mpr hprefix
    exact ⟨r, opens_of_front (dropWhile_of_head hopens.head_opening) hfront⟩

/-- An entry, a comma and a flaw. -/
example : Opens (Utf8.encode "[[\"a\",\"b\"], x") [⟨"a", "b"⟩] (Utf8.encode ", x") :=
  ⟨[], [Utf8.encode "[\"a\",\"b\"]"], nofun,
    .cons (by unfold ManifestEntry.Decodes; decide +kernel) .nil, by decide +kernel⟩

/-- A file is read to its end exactly if it is one list, and then the list is handed on. -/
theorem lists_iff : Lists bytes es ↔ es = (read bytes).entries ∧ (read bytes).outcome = .ok () := by
  obtain ⟨es', outcome, c', ha⟩ := exists_ahead true (opening bytes).advance
  constructor
  · rintro ⟨rest, hopens, hcloses⟩
    obtain ⟨b, hb, hfront⟩ := hopens.front_opening
    rw [read_of_ahead hopens.head_opening ha]
    exact ha.exists_closes_iff.mp ⟨_, hfront, (closes_blank_append hb).mpr hcloses⟩
  · intro h
    by_cases hhead : (opening bytes).rest.head? = some 0x5B
    · rw [read_of_ahead hhead ha] at h
      obtain ⟨r, hfront, hcloses⟩ := ha.exists_closes_iff.mpr h
      exact ⟨r, opens_of_front (dropWhile_of_head hhead) hfront, hcloses⟩
    · obtain ⟨-, problem, hproblem⟩ := readFor_of_no_bracket none hhead
      cases h.2.symm.trans hproblem

end Manifest

end DataStaging
