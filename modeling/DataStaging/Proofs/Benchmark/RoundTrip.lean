import DataStaging.Benchmark.Metrics
import DataStaging.Proofs.Json.Skipping
import Mathlib.Data.List.Forall2

/-!
# Metrics, written and read

Metrics are written in one way and read in many: as an object whose members come in any order, among
others and with blanks between them, or as the list of the four fields. Either way the same metrics
come of it, and what is read can be written and read again.

Times are whole milliseconds of the calendar, before or after 1970, and counts fit into 64 bits.

Results:
* `decode_of_isObjectOf`, `decode_of_isListOf`: metrics in either form.
* `decode_encode`: metrics that are written are read as they were.
* `isLegal_of_decode`: whatever is read can be written.
* `metrics_round_trip`: all of this, so that what is written is a normal form of what is read.
-/

namespace DataStaging.BenchmarkMetrics

open Json Json.Reader

variable {m : BenchmarkMetrics} {key : String} {contents : Bytes}

/-- The times lie in the calendar, and the counts fit into 64 bits. -/
structure IsLegal (m : BenchmarkMetrics) : Prop where
  start : Calendar.isLegal m.start = true
  finish : Calendar.isLegal m.finish = true
  bytes : m.bytes < Number.limit
  files : m.files < Number.limit

/-! ## Values -/

/-- The digits of a time, behind a minus sign if it lies before 1970. -/
def timeText (t : Instant) : Bytes := Utf8.encode (toString t)

theorem timeText_negSucc (n : Nat) : timeText (Int.negSucc n) = 0x2D :: numeral (n + 1) := by
  rw [timeText, Int.toString_eq_repr, Int.repr_eq_if, if_neg (by simp), Utf8.encode_append]
  rfl

theorem beginsValue_numeral (n : Nat) : BeginsValue (numeral n) := by
  obtain ⟨d, ds, hd, hnumeral⟩ := exists_digit_numeral n
  rw [hnumeral]
  exact beginsValue_of_isDigit hd ds

theorem beginsValue_timeText (t : Instant) : BeginsValue (timeText t) := by
  cases t with
  | ofNat n => exact beginsValue_numeral n
  | negSucc n => exact ⟨0x2D, _, timeText_negSucc n, by decide, by decide⟩

/-- Legal times are far from the limit of numbers, on either side of zero. -/
theorem natAbs_of_isLegal {t : Int} (ht : Calendar.isLegal t = true) :
    2 * t.natAbs < Number.limit := by
  rw [Calendar.isLegal, Bool.and_eq_true_iff, decide_eq_true_iff, decide_eq_true_iff] at ht
  have hearliest : (-8334601228800000 : Int) ≤ t := ht.1
  have hlatest : t ≤ (8210266876799999 : Int) := ht.2
  have hlimit : Number.limit = 18446744073709551616 := rfl
  omega

theorem reads_instant {t : Instant} (ht : Calendar.isLegal t = true) :
    Reads instant (timeText t) t := by
  intro blanks u hblanks hu
  obtain ⟨b, rest, rfl, hb⟩ := hu.exists_endsNumber
  have hlegal : Takes (legalInstant t) (b :: rest) t (b :: rest) := by
    rw [legalInstant, if_pos ht]
    exact takes_pure _ _
  have hlimit := natAbs_of_isLegal ht
  cases t with
  | ofNat n =>
    have hn : 2 * n < Number.limit := hlimit
    exact takes_numberValue hb hblanks (by omega) hlegal
  | negSucc n =>
    rw [timeText_negSucc]
    exact takes_numberValue_negative hb hblanks (Nat.succ_pos n) hlimit.le hlegal

theorem reads_countValue {n : Nat} (hn : n < Number.limit) : Reads countValue (numeral n) n := by
  intro blanks u hblanks hu
  obtain ⟨b, rest, rfl, hb⟩ := hu.exists_endsNumber
  exact takes_countValue hb hblanks hn rest

/-! ## Forms -/

/-- The names of the fields. -/
def names : List String := ["start_time", "end_time", "bytes_transferred", "file_count"]

/-- The values of the fields, as they are written. -/
def values (m : BenchmarkMetrics) : List Bytes :=
  [timeText m.start, timeText m.finish, numeral m.bytes, numeral m.files]

/-- What may stand behind a key: behind the name of a field its value, and behind any other key any
    value. -/
def IsValueOf (m : BenchmarkMetrics) (key : String) (value : Bytes) : Prop :=
  (key, value) ∈ names.zip m.values ∨ key ∉ names ∧ IsJson value

/-- The text is a member of an object of these metrics. -/
def IsMemberOf (m : BenchmarkMetrics) (text : Bytes) (key : String) : Prop :=
  ∃ value, IsMember text key value ∧ m.IsValueOf key value

/-- An object that has each of the fields once, in any order and among other members. -/
def IsObjectOf (m : BenchmarkMetrics) (contents : Bytes) : Prop :=
  ∃ before texts keys after, Blank before ∧ Blank after ∧ List.Forall₂ m.IsMemberOf texts keys ∧
    (∀ name ∈ names, keys.count name = 1) ∧
    contents = before ++ 0x7B :: ([0x2C].intercalate texts ++ 0x7D :: after)

/-- A list of the fields in order. -/
def IsListOf (m : BenchmarkMetrics) (contents : Bytes) : Prop :=
  ∃ before texts after, Blank before ∧ Blank after ∧ List.Forall₂ IsSpaced texts m.values ∧
    contents = before ++ 0x5B :: ([0x2C].intercalate texts ++ 0x5D :: after)

/-! ## Drafts -/

/-- The draft of these metrics with the fields that were read. -/
def draftOf (m : BenchmarkMetrics) (seen : List String) : Draft where
  start := if "start_time" ∈ seen then some m.start else none
  finish := if "end_time" ∈ seen then some m.finish else none
  bytes := if "bytes_transferred" ∈ seen then some m.bytes else none
  files := if "file_count" ∈ seen then some m.files else none

theorem draftOf_cons_of_not_mem (hkey : key ∉ names) (seen : List String) :
    m.draftOf (key :: seen) = m.draftOf seen := by
  simp only [names, List.mem_cons, List.not_mem_nil, or_false, not_or] at hkey
  simp only [draftOf, List.mem_cons, Ne.symm hkey.1, Ne.symm hkey.2.1, Ne.symm hkey.2.2.1,
    Ne.symm hkey.2.2.2, false_or]

/-- A draft with all fields is that of the whole metrics. -/
theorem draftOf_of_subset {seen : List String} (hseen : names ⊆ seen) :
    m.draftOf seen = ⟨some m.start, some m.finish, some m.bytes, some m.files⟩ := by
  simp only [names, List.cons_subset, List.nil_subset, and_true] at hseen
  rw [draftOf, if_pos hseen.1, if_pos hseen.2.1, if_pos hseen.2.2.1, if_pos hseen.2.2.2]

/-- The field reads the value, and adds it to whatever draft there is. -/
def ReadsInto (m : BenchmarkMetrics) (field : Json.Field Draft) (value : Bytes) : Prop :=
  ∀ seen, Reads (field.read (m.draftOf seen)) value (m.draftOf (field.name :: seen))

/-- Each field reads its own value. -/
theorem readsInto_fields (hm : m.IsLegal) : List.Forall₂ m.ReadsInto shape.fields m.values := by
  refine .cons (fun seen => ?_) (.cons (fun seen => ?_) (.cons (fun seen => ?_)
    (.cons (fun seen => ?_) .nil)))
  · have hread := reads_bind_pure (reads_instant hm.start)
      fun t => { m.draftOf seen with start := some t }
    simpa [draftOf] using hread
  · have hread := reads_bind_pure (reads_instant hm.finish)
      fun t => { m.draftOf seen with finish := some t }
    simpa [draftOf] using hread
  · have hread := reads_bind_pure (reads_countValue hm.bytes)
      fun n => { m.draftOf seen with bytes := some n }
    simpa [draftOf] using hread
  · have hread := reads_bind_pure (reads_countValue hm.files)
      fun n => { m.draftOf seen with files := some n }
    simpa [draftOf] using hread

theorem isSet_draftOf (seen : List String) :
    ∀ field ∈ shape.fields, field.isSet (m.draftOf seen) = true ↔ field.name ∈ seen := by
  simp [shape, draftOf]

theorem beginsValue_values (m : BenchmarkMetrics) : ∀ value ∈ m.values, BeginsValue value := by
  simp [values, beginsValue_timeText, beginsValue_numeral]

/-! ## Members -/

theorem names_eq : names = shape.fields.map Field.name := rfl

theorem find?_name :
    ∀ field ∈ shape.fields, shape.fields.find? (fun f => f.name == field.name) = some field := by
  simp [shape]

theorem find?_eq_none_of_not_mem (hkey : key ∉ names) :
    shape.fields.find? (fun f => f.name == key) = none := by
  rw [List.find?_eq_none]
  intro field hfield hname
  rw [names_eq] at hkey
  exact hkey (List.mem_map.mpr ⟨field, hfield, eq_of_beq hname⟩)

/-- The value behind the name of a field is that field's. -/
theorem exists_field_of_mem_zip (hm : m.IsLegal) {value : Bytes}
    (h : (key, value) ∈ names.zip m.values) :
    ∃ field ∈ shape.fields, field.name = key ∧ m.ReadsInto field value := by
  rw [names_eq, List.zip_map_left, List.mem_map] at h
  obtain ⟨⟨field, value'⟩, hzip, heq⟩ := h
  obtain ⟨rfl, rfl⟩ := Prod.mk.inj heq
  exact ⟨field, (List.of_mem_zip hzip).1, rfl,
    (List.forall₂_iff_zip.mp (readsInto_fields hm)).2 hzip⟩

/-- A field that is read for the first time is added to the draft. -/
theorem readsMember_of_isValueOf (hm : m.IsLegal) {value : Bytes} (hvalue : m.IsValueOf key value)
    {seen : List String} (hfresh : key ∈ names → key ∉ seen) :
    shape.ReadsMember key value (m.draftOf seen) (m.draftOf (key :: seen)) := by
  unfold Shape.ReadsMember
  rcases hvalue with hzip | ⟨hkey, hjson⟩
  · obtain ⟨field, hfield, rfl, hreads⟩ := exists_field_of_mem_zip hm hzip
    have hname : field.name ∈ names := List.mem_map_of_mem hfield
    rw [find?_name field hfield]
    exact ⟨Bool.eq_false_iff.mpr ((isSet_draftOf seen field hfield).not.mpr (hfresh hname)),
      hreads seen⟩
  · rw [find?_eq_none_of_not_mem hkey]
    exact ⟨draftOf_cons_of_not_mem hkey seen, reads_skipValue hjson⟩

/-- Members whose keys hold no name twice, and none that was seen before, add their fields. -/
theorem members_of_forall₂ (hm : m.IsLegal) {texts : List Bytes} {keys seen : List String}
    (h : List.Forall₂ m.IsMemberOf texts keys)
    (hcount : ∀ name ∈ names, keys.count name + seen.count name ≤ 1) :
    shape.Members (m.draftOf seen) texts (m.draftOf (keys.reverse ++ seen)) := by
  induction h generalizing seen with
  | nil => exact .nil _
  | @cons text key texts keys hmember hrest ih =>
    obtain ⟨value, hmember, hvalue⟩ := hmember
    have hfresh : key ∈ names → key ∉ seen := by
      intro hkey hseen
      have hle := hcount key hkey
      have hpos := List.count_pos_iff.mpr hseen
      rw [List.count_cons_self] at hle
      omega
    have hmembers := @ih (key :: seen) fun name hname => by
      have hle := hcount name hname
      rw [List.count_cons] at hle ⊢
      omega
    rw [List.reverse_cons, List.append_assoc, List.singleton_append]
    exact .cons hmember (readsMember_of_isValueOf hm hvalue hfresh) hmembers

theorem isFilled_draftOf {seen : List String} (hseen : names ⊆ seen) :
    shape.IsFilled (m.draftOf seen) := fun field hfield =>
  (isSet_draftOf seen field hfield).mpr (hseen (List.mem_map_of_mem hfield))

/-! ## Whole texts -/

theorem decode_of_takes {seen : List String} (hseen : names ⊆ seen) {after : Bytes}
    (hafter : Blank after)
    (h : Takes (shape.read ⟨none, none, none, none⟩) contents (m.draftOf seen) after) :
    decode contents = .ok m := by
  rw [draftOf_of_subset hseen] at h
  have hreader : Takes reader contents m after := h.bind (takes_pure m after)
  exact result_eq_ok.mpr ⟨[], hreader.complete hafter _ rfl⟩

/-- Metrics are read from an object, whatever the order of its members and whatever else it
    holds. -/
theorem decode_of_isObjectOf (hm : m.IsLegal) (h : m.IsObjectOf contents) :
    decode contents = .ok m := by
  obtain ⟨before, texts, keys, after, hbefore, hafter, hmembers, hcount, rfl⟩ := h
  have hseen : names ⊆ keys.reverse ++ [] := fun name hname =>
    List.mem_append_left _ (List.mem_reverse.mpr
      (List.count_pos_iff.mp (by rw [hcount name hname]; exact Nat.one_pos)))
  have hmembers := @members_of_forall₂ m hm texts keys [] hmembers fun name hname =>
    (hcount name hname).le
  exact decode_of_takes hseen hafter
    (Shape.takes_read_object hmembers (isFilled_draftOf hseen) hbefore blank_nil after)

/-- Elements that are the values of fields add these fields. -/
theorem elements_of_forall₂ {fields : List (Json.Field Draft)} {texts values : List Bytes}
    (hfields : List.Forall₂ m.ReadsInto fields values)
    (hspaced : List.Forall₂ IsSpaced texts values)
    (hbegins : ∀ value ∈ values, BeginsValue value) (seen : List String) :
    Shape.Elements fields (m.draftOf seen) texts
      (m.draftOf ((fields.map Field.name).reverse ++ seen)) := by
  induction hfields generalizing texts seen with
  | nil =>
    cases hspaced
    exact .nil _
  | @cons field value fields values hfield hrest ih =>
    obtain _ | ⟨htext, htexts⟩ := hspaced
    rw [List.map_cons, List.reverse_cons, List.append_assoc, List.singleton_append]
    exact .cons htext (hbegins value List.mem_cons_self) (hfield seen)
      (ih htexts (fun v hv => hbegins v (List.mem_cons_of_mem _ hv)) _)

/-- Metrics are read from the list of their values. -/
theorem decode_of_isListOf (hm : m.IsLegal) (h : m.IsListOf contents) :
    decode contents = .ok m := by
  obtain ⟨before, texts, after, hbefore, hafter, hspaced, rfl⟩ := h
  have helements := elements_of_forall₂ (readsInto_fields hm) hspaced (beginsValue_values m) []
  refine decode_of_takes ?_ hafter
    (Shape.takes_read_list helements hbefore blank_nil after)
  rw [names_eq, List.append_nil]
  exact fun name hname => List.mem_reverse.mpr hname

/-! ## Written metrics -/

/-- A member without blanks. -/
def memberText (name : String) (value : Bytes) : Bytes :=
  0x22 :: (Utf8.encode name ++ 0x22 :: 0x3A :: value)

theorem take_name : ∀ name ∈ names,
    Reader.text.take (Utf8.encode name ++ [0x22]) = some (name, []) := by
  simp only [names, List.forall_mem_cons, List.not_mem_nil, false_implies, implies_true, and_true]
  exact ⟨by decide +kernel, by decide +kernel, by decide +kernel, by decide +kernel⟩

theorem isMember_memberText {name : String} (hname : name ∈ names) (value : Bytes) :
    IsMember (memberText name value) name value :=
  ⟨[], Utf8.encode name ++ [0x22], [], [], [], blank_nil, blank_nil, blank_nil, blank_nil,
    take_name name hname, by simp [memberText]⟩

theorem isMemberOf_memberText {name : String} {value : Bytes}
    (h : (name, value) ∈ names.zip m.values) : m.IsMemberOf (memberText name value) name :=
  ⟨value, isMember_memberText (List.of_mem_zip h).1 value, .inl h⟩

/-- Written metrics are their members between braces. -/
theorem encode_eq (m : BenchmarkMetrics) : Utf8.encode m.encode =
    0x7B :: ([0x2C].intercalate (List.zipWith memberText names m.values) ++ [0x7D]) := by
  have hstart : Utf8.encode "\x7b\"start_time\":" =
      0x7B :: 0x22 :: (Utf8.encode "start_time" ++ [0x22, 0x3A]) := by decide +kernel
  have hfinish : Utf8.encode ",\"end_time\":" =
      0x2C :: 0x22 :: (Utf8.encode "end_time" ++ [0x22, 0x3A]) := by decide +kernel
  have hbytes : Utf8.encode ",\"bytes_transferred\":" =
      0x2C :: 0x22 :: (Utf8.encode "bytes_transferred" ++ [0x22, 0x3A]) := by decide +kernel
  have hfiles : Utf8.encode ",\"file_count\":" =
      0x2C :: 0x22 :: (Utf8.encode "file_count" ++ [0x22, 0x3A]) := by decide +kernel
  have hend : Utf8.encode "\x7d" = [0x7D] := by decide +kernel
  unfold encode
  simp only [Utf8.encode_append]
  rw [hstart, hfinish, hbytes, hfiles, hend]
  simp only [names, values, memberText, timeText, numeral, List.zipWith_cons_cons,
    List.zipWith_nil_right, intercalate_cons, List.flatMap_cons, List.flatMap_nil,
    List.append_assoc, List.cons_append, List.nil_append]

theorem isObjectOf_encode (m : BenchmarkMetrics) : m.IsObjectOf (Utf8.encode m.encode) := by
  refine ⟨[], List.zipWith memberText names m.values, names, [], blank_nil, blank_nil, ?_,
    by decide, encode_eq m⟩
  exact .cons (isMemberOf_memberText (by simp [names, values]))
    (.cons (isMemberOf_memberText (by simp [names, values]))
    (.cons (isMemberOf_memberText (by simp [names, values]))
    (.cons (isMemberOf_memberText (by simp [names, values])) .nil)))

/-- Written metrics are read as they were. -/
theorem decode_encode (hm : m.IsLegal) : decode (Utf8.encode m.encode) = .ok m :=
  decode_of_isObjectOf hm (isObjectOf_encode m)

/-! ## Read metrics -/

theorem yields_instant : Yields instant (fun t => Calendar.isLegal t = true) := by
  have hlegal : ∀ t, Yields (legalInstant t) (fun t => Calendar.isLegal t = true) := by
    intro t
    unfold legalInstant
    split_ifs with h
    · exact yields_pure h
    · exact (fails_failShape _).yields _
  apply yields_numberValue
  intro n _
  cases n with
  | natural n => exact hlegal n
  | negative n => exact hlegal n
  | float x => exact (fails_failKind _ _).yields _

/-- The fields of a draft that were read can be written. -/
structure Draft.IsLegal (d : Draft) : Prop where
  start : ∀ t ∈ d.start, Calendar.isLegal t = true
  finish : ∀ t ∈ d.finish, Calendar.isLegal t = true
  bytes : ∀ n ∈ d.bytes, n < Number.limit
  files : ∀ n ∈ d.files, n < Number.limit

theorem yields_fields : ∀ field ∈ shape.fields, ∀ draft : Draft, draft.IsLegal →
    Yields (field.read draft) Draft.IsLegal := by
  simp only [shape, List.forall_mem_cons, List.not_mem_nil, false_implies, implies_true, and_true]
  refine ⟨fun d hd => ?_, fun d hd => ?_, fun d hd => ?_, fun d hd => ?_⟩
  · exact yields_instant.bind fun t ht => yields_pure { hd with start := by simpa using ht }
  · exact yields_instant.bind fun t ht => yields_pure { hd with finish := by simpa using ht }
  · exact yields_countValue.bind fun n hn =>
      yields_pure { hd with bytes := by simpa using hn }
  · exact yields_countValue.bind fun n hn =>
      yields_pure { hd with files := by simpa using hn }

/-- What holds of a value if there is one, and of what stands in for it. -/
theorem getD_of_forall_mem {α : Type} {P : α → Prop} {o : Option α} {a : α} (ho : ∀ a ∈ o, P a)
    (ha : P a) : P (o.getD a) := by
  cases o with
  | none => exact ha
  | some b => exact ho b rfl

theorem yields_reader : Yields reader IsLegal := by
  have hempty : Draft.IsLegal ⟨none, none, none, none⟩ := ⟨nofun, nofun, nofun, nofun⟩
  refine (Shape.yields_read hempty yields_fields).bind fun d hd => yields_pure ?_
  exact ⟨getD_of_forall_mem hd.start (by decide), getD_of_forall_mem hd.finish (by decide),
    getD_of_forall_mem hd.bytes (by decide), getD_of_forall_mem hd.files (by decide)⟩

/-- Whatever is read can be written. -/
theorem isLegal_of_decode (h : decode contents = .ok m) : m.IsLegal := by
  have hcomplete : Yields (complete reader) IsLegal := by
    refine yields_reader.bind fun m hm => .of_bind fun b => ?_
    split
    · exact (fails_failAhead _).yields _
    · exact yields_pure hm
  obtain ⟨r, htaken⟩ := result_eq_ok.mp h
  obtain ⟨c, hrun, -⟩ := taken_eq_some.mp htaken
  exact hcomplete _ m c hrun

/-- What is read of written metrics are these metrics, at all times of the calendar and for all
    counts of 64 bits. Everything that is read can be written, and it is read again as it was; so
    metrics that were read are the same if they are written in the same way. Any object or list of
    some metrics is read as these metrics. -/
theorem metrics_round_trip :
    (∀ m : BenchmarkMetrics, m.IsLegal → decode (Utf8.encode m.encode) = .ok m) ∧
    (∀ contents m, decode contents = .ok m →
      m.IsLegal ∧ decode (Utf8.encode m.encode) = .ok m) ∧
    (∀ contents m, m.IsLegal → m.IsObjectOf contents ∨ m.IsListOf contents →
      decode contents = .ok m) ∧
    ∀ contents contents' m m', decode contents = .ok m → decode contents' = .ok m' →
      (m.encode = m'.encode ↔ m = m') := by
  refine ⟨fun m hm => decode_encode hm, fun contents m h => ?_, fun contents m hm h => ?_,
    fun contents contents' m m' h h' => ?_⟩
  · exact ⟨isLegal_of_decode h, decode_encode (isLegal_of_decode h)⟩
  · rcases h with h | h
    · exact decode_of_isObjectOf hm h
    · exact decode_of_isListOf hm h
  · constructor
    · intro heq
      have hread := decode_encode (isLegal_of_decode h)
      rw [heq, decode_encode (isLegal_of_decode h')] at hread
      exact (Except.ok.inj hread).symm
    · rintro rfl
      rfl

/-- The whole calendar and all 64 bits; a list with blanks and an object with another member agree
    on a time before 1970, and are written in the same way. -/
theorem round_trip_extremes :
    decode (Utf8.encode (encode ⟨Calendar.earliest, Calendar.latest, 18446744073709551615, 0⟩)) =
      .ok ⟨Calendar.earliest, Calendar.latest, 18446744073709551615, 0⟩ ∧
    decode (Utf8.encode " [-1, 0 ,18446744073709551615,2]\n") =
      .ok ⟨-1, 0, 18446744073709551615, 2⟩ ∧
    ∃ m, decode (Utf8.encode ("\x7b\"file_count\":2, \"note\":[null,\x7b\x7d]," ++
        "\"end_time\" :0,\"start_time\":-1,\"bytes_transferred\":18446744073709551615\x7d")) =
        .ok m ∧
      decode (Utf8.encode m.encode) = .ok m ∧
      m.encode = encode ⟨-1, 0, 18446744073709551615, 2⟩ := by
  obtain ⟨hwritten, hread, hforms, hsame⟩ := metrics_round_trip
  have hlegal : IsLegal ⟨-1, 0, 18446744073709551615, 2⟩ :=
    ⟨by decide, by decide, by decide, by decide⟩
  have hlist : decode (Utf8.encode " [-1, 0 ,18446744073709551615,2]\n") =
      .ok ⟨-1, 0, 18446744073709551615, 2⟩ := by
    refine hforms _ _ hlegal (.inr ⟨[0x20], [timeText (-1), 0x20 :: (timeText 0 ++ [0x20]),
      numeral (18446744073709551615), numeral 2], [0x0A], by decide, by decide, ?_,
      by decide +kernel⟩)
    have hplain : ∀ value, IsSpaced value value := fun value =>
      ⟨[], [], blank_nil, blank_nil, (List.append_nil value).symm⟩
    exact .cons (hplain _) (.cons ⟨[0x20], [0x20], by decide, by decide, rfl⟩
      (.cons (hplain _) (.cons (hplain _) .nil)))
  have hobject : decode (Utf8.encode ("\x7b\"file_count\":2, \"note\":[null,\x7b\x7d]," ++
      "\"end_time\" :0,\"start_time\":-1,\"bytes_transferred\":18446744073709551615\x7d")) =
      .ok ⟨-1, 0, 18446744073709551615, 2⟩ := by
    refine hforms _ _ hlegal (.inl ⟨[], [memberText "file_count" (numeral 2),
      0x20 :: memberText "note" (Utf8.encode "[null,\x7b\x7d]"),
      Utf8.encode "\"end_time\" :" ++ timeText 0, memberText "start_time" (timeText (-1)),
      memberText "bytes_transferred" (numeral (18446744073709551615))],
      ["file_count", "note", "end_time", "start_time", "bytes_transferred"], [], by decide,
      by decide, ?_, by decide, by decide +kernel⟩)
    have hnote : IsMember (0x20 :: memberText "note" (Utf8.encode "[null,\x7b\x7d]")) "note"
        (Utf8.encode "[null,\x7b\x7d]") :=
      ⟨[0x20], Utf8.encode "note\"", [], [], [], by decide, by decide, by decide, by decide,
        by decide +kernel, by decide +kernel⟩
    have hend : IsMember (Utf8.encode "\"end_time\" :" ++ timeText 0) "end_time" (timeText 0) :=
      ⟨[], Utf8.encode "end_time\"", [0x20], [], [], by decide, by decide, by decide, by decide,
        by decide +kernel, by decide +kernel⟩
    have htext : Utf8.encode "[null,\x7b\x7d]" =
        [0x5B, 0x6E, 0x75, 0x6C, 0x6C, 0x2C, 0x7B, 0x7D, 0x5D] := by decide +kernel
    have hjson : IsJson (Utf8.encode "[null,\x7b\x7d]") := by
      rw [htext]
      exact .filled .list (.more .list blank_nil (.scalar .null) blank_nil
        (.last .list blank_nil (.empty .object blank_nil) blank_nil))
    exact .cons (isMemberOf_memberText (by simp [names, values]))
      (.cons ⟨_, hnote, .inr ⟨by decide, hjson⟩⟩ (.cons ⟨_, hend, .inl (by simp [names, values])⟩
      (.cons (isMemberOf_memberText (by simp [names, values]))
      (.cons (isMemberOf_memberText (by simp [names, values])) .nil))))
  exact ⟨hwritten _ ⟨by decide, by decide, by decide, by decide⟩, hlist, _, hobject,
    (hread _ _ hobject).2, (hsame _ _ _ _ hobject hlist).mpr rfl⟩

end DataStaging.BenchmarkMetrics
