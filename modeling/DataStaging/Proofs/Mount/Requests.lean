import DataStaging.Proofs.Staging.Confinement
import DataStaging.Proofs.Text.ByteOrder

/-!
# A mount table under requests

A mount table is asked to record texts, to set folders, and to show a row or all of them. Whatever
it was asked before, its rows are in order, and what they say of a base is told by the texts that
were recorded for it; a folder that is set cannot be seen in the rest of the table, and a text that
is recorded cannot be seen in the folders.

Results:
* `map_unserved_replay`: but for the folders, the rows are those that recording alone leaves.
* `find?_record`, `find?_setFolder_of_ne`: what a call leaves alone.
* `invariant_of_requests`: what holds of a table after any requests, and what each request answers
  and changes.
-/

namespace DataStaging

/-- The row before a folder was set. -/
def MountRow.unserved (row : MountRow) : MountRow := { row with folder := none }

namespace MountTable

variable {table : MountTable} {base text folder : String} {rows : List MountRow} {row : MountRow}
  {cs : List Call}

/-! ## Requests -/

/-- What a mount table may be asked. -/
inductive Request where
  /-- To record a text or to set a folder. -/
  | call (call : Call)
  /-- To show the row of a base. -/
  | lookup (base : String)
  /-- To show all rows. -/
  | snapshot

/-- What a mount table answers. -/
inductive Answer where
  /-- The base of the locator that was recorded, or why none was. -/
  | recorded (outcome : Except Fault String)
  /-- Whether the base of the folder was known. -/
  | set (known : Bool)
  | found (row : Option MountRow)
  | listed (rows : List MountRow)

/-- The answer to a request, and the table after it. -/
def respond (table : MountTable) : Request → Answer × MountTable
  | .call (.record text) =>
    match table.recordText text with
    | .ok (base, table') => (.recorded (.ok base), table')
    | .error fault => (.recorded (.error fault), table)
  | .call (.setFolder base folder) => (.set (table.contains base), table.setFolder base folder)
  | .lookup base => (.found (table.find? base), table)
  | .snapshot => (.listed table.rows, table)

/-- The table after some requests. -/
def serve (requests : List Request) : MountTable :=
  requests.foldl (fun table request => (table.respond request).2) .empty

def Request.call? : Request → Option Call
  | call c => some c
  | _ => none

/-- The calls among some requests. -/
def calls (requests : List Request) : List Call := requests.filterMap Request.call?

def Call.text? : Call → Option String
  | record text => some text
  | setFolder _ _ => none

/-- The texts to be recorded, in order. -/
def texts (cs : List Call) : List String := cs.filterMap Call.text?

theorem after_record (table : MountTable) (text : String) :
    table.after (.record text) = (table.respond (.call (.record text))).2 := by
  unfold after recordAll respond
  simp only [List.foldl_cons, List.foldl_nil]
  cases table.recordText text <;> rfl

theorem replay_concat (cs : List Call) (call : Call) :
    replay (cs ++ [call]) = (replay cs).after call := List.foldl_append

/-- Only calls change a table. -/
theorem serve_eq_replay (requests : List Request) : serve requests = replay (calls requests) := by
  induction requests using List.reverseRecOn with
  | nil => rfl
  | append_singleton requests request ih =>
    have hserve : serve (requests ++ [request]) = ((serve requests).respond request).2 :=
      List.foldl_append
    have hcalls : calls (requests ++ [request]) = calls requests ++ request.call?.toList := by
      rw [calls, List.filterMap_append]
      cases request <;> rfl
    rw [hserve, ih, hcalls]
    cases request with
    | lookup base => exact congrArg replay (List.append_nil _).symm
    | snapshot => exact congrArg replay (List.append_nil _).symm
    | call call =>
      rw [Request.call?, Option.toList_some, replay_concat]
      cases call with
      | setFolder base folder => rfl
      | record text => rw [after_record]

/-! ## Rows without their folders -/

theorem map_unserved_recordInto : (recordInto base text rows).map MountRow.unserved =
    recordInto base text (rows.map MountRow.unserved) := by
  induction rows with
  | nil => rfl
  | cons first rest ih =>
    have hbase : first.unserved.base = first.base := rfl
    rw [List.map_cons, recordInto, recordInto, hbase]
    split_ifs with h1 h2
    · rfl
    · rfl
    · rw [List.map_cons, ih]

theorem map_unserved_setFolder (table : MountTable) (base folder : String) :
    (table.setFolder base folder).rows.map MountRow.unserved =
      table.rows.map MountRow.unserved := by
  rw [setFolder, List.map_map]
  refine List.map_congr_left fun row _ => ?_
  rw [Function.comp_apply]
  split_ifs <;> rfl

/-- But for the folders, the rows are those that recording alone leaves. -/
theorem map_unserved_replay (cs : List Call) : (replay cs).rows.map MountRow.unserved =
    (recordAll (texts cs) .empty).rows := by
  induction cs using List.reverseRecOn with
  | nil => rfl
  | append_singleton cs call ih =>
    have htexts : texts (cs ++ [call]) = texts cs ++ call.text?.toList := by
      rw [texts, List.filterMap_append]
      cases call <;> rfl
    rw [replay_concat, htexts]
    cases call with
    | setFolder base folder =>
      rw [Call.text?, Option.toList_none, List.append_nil]
      exact (map_unserved_setFolder _ base folder).trans ih
    | record text =>
      rw [Call.text?, Option.toList_some]
      unfold recordAll at ih ⊢
      rw [List.foldl_append, after_record]
      unfold respond recordText
      simp only [List.foldl_cons, List.foldl_nil]
      cases Locator.parse text with
      | error fault => exact ih
      | ok l => exact map_unserved_recordInto.trans (congrArg (recordInto l.base l.text) ih)

/-- What is known of a base, but for its folder, is the fold of its texts. -/
theorem find?_replay (cs : List Call) (base : String) :
    ((replay cs).find? base).map MountRow.unserved = foldedRow base (ofBase base (texts cs)) := by
  rw [← (recordAll_spec (texts cs)).2 base, find?, find?, ← map_unserved_replay, List.find?_map]
  rfl

theorem ascending_replay (cs : List Call) : Ascending (replay cs).rows := by
  have hascending := (recordAll_spec (texts cs)).1
  rw [← map_unserved_replay, Ascending, List.pairwise_map] at hascending
  exact hascending

theorem find?_replay_eq_some_iff : (replay cs).find? base = some row ↔
    row ∈ (replay cs).rows ∧ row.base = base :=
  find?_eq_some_iff_of_ascending (ascending_replay cs) row base

theorem unserved_of_mem_replay (hrow : row ∈ (replay cs).rows) :
    foldedRow row.base (ofBase row.base (texts cs)) = some row.unserved := by
  rw [← find?_replay, find?_replay_eq_some_iff.mpr ⟨hrow, rfl⟩]
  rfl

theorem mem_bases_replay : base ∈ (replay cs).bases ↔ ofBase base (texts cs) ≠ [] := by
  rw [← contains_iff, contains, ← Option.isSome_map, find?_replay]
  cases ofBase base (texts cs) <;> simp [foldedRow]

/-! ## What a call leaves alone -/

theorem find?_record (h : Ascending table.rows) (locator : Locator) :
    (table.record locator).find? locator.base =
      some (rowAfter locator.base locator.text (table.find? locator.base)) :=
  find?_recordInto_of_base h

theorem find?_setFolder_of_ne {b : String} (hb : b ≠ base) :
    (table.setFolder base folder).find? b = table.find? b := by
  rw [find?_setFolder]
  cases hfind : table.find? b with
  | none => rfl
  | some row =>
    have hbase : row.base = b := by simpa using List.find?_some hfind
    rw [Option.map_some, if_neg (hbase ▸ hb)]

/-- A base that is not known gets no folder. -/
theorem setFolder_of_not_mem (hb : base ∉ table.bases) : table.setFolder base folder = table := by
  have hsame : ∀ row ∈ table.rows, (if row.base = base then { row with folder := some folder }
      else row) = row := fun row hrow =>
    if_neg fun h => hb (List.mem_map.mpr ⟨row, hrow, h⟩)
  rw [setFolder, List.map_congr_left hsame, List.map_id']

/-! ## The invariant -/

/-- What holds of a table that was asked to record the texts `us`. -/
structure Invariant (us : List String) (table : MountTable) : Prop where
  /-- The rows ascend by the bytes of their bases. -/
  ascending : (table.rows.map fun row => Utf8.encode row.base).Pairwise (· < ·)
  /-- The bases are those of the locators that were recorded. -/
  bases : ∀ b, b ∈ table.bases ↔ ∃ u ∈ us, ∃ l, Locator.parse u = .ok l ∧ l.base = b
  /-- The row that is found for a base is the one row with this base. -/
  key : ∀ b row, table.find? b = some row ↔ row ∈ table.rows ∧ row.base = b
  /-- What is shared begins every text of the base. -/
  shared_isPrefix : ∀ row ∈ table.rows, ∀ u ∈ ofBase row.base us,
    row.shared.toList <+: u.toList
  /-- From the second text on, what is shared ends with a separator. -/
  shared_ends : ∀ row ∈ table.rows, 2 ≤ (ofBase row.base us).length →
    row.shared.toList.getLast? = some '/'
  /-- The area begins with the base and a separator, and ends with a separator. -/
  area_text : ∀ row ∈ table.rows,
    (row.base ++ "/").toList <+: row.area.toList ∧ row.area.toList.getLast? = some '/'
  /-- The area names a locator of the base. -/
  area_base : ∀ row ∈ table.rows, ∃ l, Locator.parse row.area = .ok l ∧ l.base = row.base

/-- What a table answers to a request, and what the request leaves alone. -/
structure Framed (table : MountTable) : Prop where
  /-- A text that names no locator changes nothing. -/
  refused : ∀ text fault, Locator.parse text = .error fault →
    table.respond (.call (.record text)) = (.recorded (.error fault), table)
  /-- A locator changes what is shared in the row of its base, or starts the row. -/
  recorded : ∀ text l, Locator.parse text = .ok l → ∃ table',
    table.respond (.call (.record text)) = (.recorded (.ok l.base), table') ∧
      (∀ b, b ≠ l.base → table'.find? b = table.find? b) ∧
      (table.find? l.base = none → table'.find? l.base = some ⟨l.base, none, text⟩) ∧
      ∀ row, table.find? l.base = some row →
        ∃ shared, table'.find? l.base = some { row with shared := shared }
  /-- A folder of a base that is not known changes nothing. -/
  unknown : ∀ base folder, base ∉ table.bases →
    table.respond (.call (.setFolder base folder)) = (.set false, table)
  /-- A folder of a base that is known changes the folder in its row. -/
  known : ∀ base folder, base ∈ table.bases → ∃ table',
    table.respond (.call (.setFolder base folder)) = (.set true, table') ∧
      (∀ b, b ≠ base → table'.find? b = table.find? b) ∧
      ∀ row, table.find? base = some row →
        table'.find? base = some { row with folder := some folder }
  lookup : ∀ base, table.respond (.lookup base) = (.found (table.find? base), table)
  snapshot : table.respond .snapshot = (.listed table.rows, table)

theorem mem_ofBase_iff {us : List String} {u : String} :
    u ∈ ofBase base us ↔ u ∈ us ∧ ∃ l, Locator.parse u = .ok l ∧ l.base = base := by
  rw [ofBase, List.mem_filter, isOfBase]
  cases Locator.parse u <;> simp

theorem shared_of_mem_replay (hrow : row ∈ (replay cs).rows) : ∃ u us,
    ofBase row.base (texts cs) = u :: us ∧
      row.shared.toList = (us.map String.toList).foldl Shared.meet u.toList := by
  have hfolded := unserved_of_mem_replay hrow
  cases htexts : ofBase row.base (texts cs) with
  | nil =>
    rw [htexts] at hfolded
    cases hfolded
  | cons u us =>
    rw [htexts] at hfolded
    refine ⟨u, us, rfl, ?_⟩
    have hshared := congrArg MountRow.shared (Option.some.inj hfolded)
    rw [← String.toList_ofList (l := (us.map String.toList).foldl Shared.meet u.toList)]
    exact congrArg String.toList hshared.symm

theorem invariant_replay (cs : List Call) : Invariant (texts cs) (replay cs) where
  ascending := by
    rw [List.pairwise_map]
    exact (ascending_replay cs).imp Utf8.encode_lt_encode
  bases b := by
    rw [mem_bases_replay]
    constructor
    · intro hne
      obtain ⟨u, us, hus⟩ := List.exists_cons_of_ne_nil hne
      exact ⟨u, mem_ofBase_iff.mp (hus ▸ List.mem_cons_self)⟩
    · rintro ⟨u, hu⟩
      exact List.ne_nil_of_mem (mem_ofBase_iff.mpr hu)
  key _ _ := find?_replay_eq_some_iff
  shared_isPrefix row hrow v hv := by
    obtain ⟨u, us, hus, hshared⟩ := shared_of_mem_replay hrow
    rw [hshared]
    refine Shared.foldl_meet_isPrefix _ _ _ ?_
    rw [← List.map_cons, ← hus]
    exact List.mem_map_of_mem hv
  shared_ends row hrow htwo := by
    obtain ⟨u, us, hus, hshared⟩ := shared_of_mem_replay hrow
    obtain ⟨p, hlast, hfold⟩ := exists_prefix_fold hus
    have hne : us.map String.toList ≠ [] := by
      rintro hnil
      rw [hus, List.map_eq_nil_iff.mp hnil] at htwo
      exact absurd htwo (by simp)
    rw [hshared]
    refine (Shared.isFolder_foldl_meet hne).resolve_left fun hnil => ?_
    rw [hnil, List.prefix_nil] at hfold
    rw [hfold] at hlast
    cases hlast
  area_text row hrow := by
    obtain ⟨b, key, -, -, harea, hkey⟩ := MountRow.area_toList (described_replay cs row hrow)
    have htext : row.area.toList = row.base.toList ++ '/' :: key := harea
    have hwhole : (row.base ++ "/").toList = row.base.toList ++ ['/'] := by
      rw [String.toList_append]
      rfl
    rw [htext, hwhole]
    refine ⟨⟨key, by simp⟩, ?_⟩
    rcases hkey with rfl | hkey
    · simp
    · rw [List.getLast?_append, List.getLast?_cons, hkey]
      rfl
  area_base row hrow := by
    obtain ⟨l, hparse, -, -, hbase, -⟩ := MountRow.area_spec (described_replay cs row hrow)
    exact ⟨l, hparse, hbase⟩

theorem framed_of_ascending (h : Ascending table.rows) : table.Framed where
  refused text fault hparse := by
    rw [respond, recordText, hparse]
    rfl
  recorded text l hparse := by
    obtain rfl : l.text = text := (Locator.read_spec (Locator.parse_eq_ok_iff.mp hparse)).1
    have hfind := find?_record h l
    refine ⟨table.record l, ?_, fun b hb => find?_recordInto_of_ne hb.symm, ?_, ?_⟩
    · rw [respond, recordText, hparse]
      rfl
    · intro hnone
      rw [hfind, hnone]
      rfl
    · intro row hrow
      rw [hfind, hrow]
      exact ⟨_, rfl⟩
  unknown base folder hb := by
    have hunknown : table.contains base = false := by rwa [← Bool.not_eq_true, contains_iff]
    rw [respond, hunknown, setFolder_of_not_mem hb]
  known base folder hb := by
    refine ⟨table.setFolder base folder, ?_, fun b hb => find?_setFolder_of_ne hb, ?_⟩
    · rw [respond, contains_iff.mpr hb]
    · intro row hrow
      have hbase : row.base = base := by simpa using List.find?_some hrow
      rw [find?_setFolder, hrow, Option.map_some, if_pos hbase]
  lookup base := rfl
  snapshot := rfl

/-- Whatever a table was asked: its rows ascend, one for each base that a text was recorded for;
    what is shared begins every text of the base; the area is the base with a directory in it. A
    request that is refused changes nothing, one that records a text changes what is shared in the
    row of its base, and one that sets a folder changes the folder in the row of its base. -/
theorem invariant_of_requests (requests : List Request) :
    Invariant (texts (calls requests)) (serve requests) ∧ Framed (serve requests) := by
  rw [serve_eq_replay]
  exact ⟨invariant_replay _, framed_of_ascending (ascending_replay _)⟩

end MountTable

end DataStaging
