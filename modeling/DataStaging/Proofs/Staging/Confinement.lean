import DataStaging.Proofs.Files.Components
import DataStaging.Proofs.Mount.Folding
import DataStaging.Proofs.Staging.Sources

/-!
# Sources outside the mounted folder

The source of an entry is the folder of its base, joined with what the mounted area leaves of the
entry's key. A key may hold anything, so what is left may begin with a separator, and then the
folder is dropped; or it may lead upward. This module says exactly when a source is, by its text,
under the folder.

Results:
* `described_replay`: whatever was recorded and set, a row's area is that of its base.
* `source_liesUnder_iff`: the sources that lie under the folder.
-/

namespace DataStaging

/-! ## Keys -/

namespace Path

/-- A key whose components are names: none leads upward, and none but the last is empty. -/
structure IsPlain (key : List Char) : Prop where
  not_leadsUp : leadsUp key = false
  ne_nil : ∀ part ∈ (Parts.cutAt '/' key).dropLast, part ≠ []

variable {start rest : List Char}

/-- What follows a directory in a plain key is relative and does not lead upward. -/
theorem isPlain_rest (hstart : start = [] ∨ start.getLast? = some '/')
    (h : IsPlain (start ++ rest)) : isAbsolute rest = false ∧ leadsUp rest = false := by
  obtain ⟨more, hparts⟩ : ∃ more, Parts.cutAt '/' (start ++ rest) =
      more ++ Parts.cutAt '/' rest := by
    rcases hstart with rfl | hlast
    · exact ⟨[], rfl⟩
    · obtain ⟨before, rfl⟩ := List.getLast?_eq_some_iff.mp hlast
      exact ⟨_, by rw [List.append_assoc, List.singleton_append, Parts.cutAt_append]⟩
  constructor
  · unfold isAbsolute
    rw [decide_eq_false_iff_not]
    intro habs
    obtain ⟨tail, rfl⟩ := List.head?_eq_some_iff.mp habs
    -- the separator at the front makes an empty part, and it is not the last
    refine h.ne_nil [] ?_ rfl
    rw [hparts, Parts.cutAt, if_pos rfl, List.dropLast_append_of_ne_nil (List.cons_ne_nil _ _),
      List.dropLast_cons_of_ne_nil (Parts.cutAt_ne_nil _ _)]
    exact List.mem_append_right _ List.mem_cons_self
  · have hup := leadsUp_eq_false_iff.mp h.not_leadsUp
    rw [leadsUp_eq_false_iff]
    unfold names at hup ⊢
    rw [hparts, List.filter_append] at hup
    exact fun hmem => hup (List.mem_append_right _ hmem)

end Path

/-! ## Calls on a table -/

namespace MountTable

/-- What may be done to a mount table. -/
inductive Call where
  | record (text : String)
  | setFolder (base folder : String)

/-- The table after a call. A text that names no locator is refused. -/
def after (table : MountTable) : Call → MountTable
  | .record text => recordAll [text] table
  | .setFolder base folder => table.setFolder base folder

/-- The table after some calls. -/
def replay (calls : List Call) : MountTable := calls.foldl after .empty

variable {table : MountTable}

theorem described_after (h : ∀ row ∈ table.rows, { row with folder := none }.Described)
    (call : Call) : ∀ row ∈ (table.after call).rows, { row with folder := none }.Described := by
  cases call with
  | record text =>
    show ∀ row ∈ (recordAll [text] table).rows, _
    unfold recordAll recordText
    simp only [List.foldl_cons, List.foldl_nil]
    cases hparse : Locator.parse text with
    | error fault => exact h
    | ok l =>
      have hread := Locator.parse_eq_ok_iff.mp hparse
      have htext := (Locator.read_spec hread).1
      rw [← htext] at hread
      refine forall_recordInto h ⟨rfl, l, hread, rfl, List.prefix_rfl⟩ fun row hrow _ => ?_
      obtain ⟨-, l₀, hl₀, hbase, hshared⟩ := h row hrow
      refine ⟨rfl, l₀, hl₀, hbase, ?_⟩
      rw [String.toList_ofList]
      exact ((Shared.cut_isPrefix _).trans (Shared.common_isPrefix_left _ _)).trans hshared
  | setFolder base folder =>
    intro row hrow
    obtain ⟨row₀, hrow₀, rfl⟩ := List.mem_map.mp hrow
    split_ifs
    · exact h row₀ hrow₀
    · exact h row₀ hrow₀

/-- But for its folder, every row is one that recording leaves. -/
theorem described_replay (calls : List Call) :
    ∀ row ∈ (replay calls).rows, { row with folder := none }.Described := by
  induction calls using List.reverseRecOn with
  | nil => exact fun row hrow => absurd hrow List.not_mem_nil
  | append_singleton calls call ih =>
    unfold replay
    rw [List.foldl_append]
    exact described_after ih call

/-! ## Sources -/

/-- Whatever was recorded and set, and in whatever order: the source of a storage path is the folder
    of its base, joined with the rest that the area leaves of the path's key. It lies under the
    folder if and only if that rest does not lead upward, where it is relative; an absolute rest is
    the source itself. A plain key always has its source under the folder. -/
theorem source_liesUnder_iff (calls : List Call) {path source folder : String} {l : Locator}
    {row : MountRow} (hl : Locator.parse path = .ok l)
    (hrow : (replay calls).find? l.base = some row) (hfolder : row.folder = some folder)
    (h : row.source? path = some source) :
    (∃ area rest, Locator.parse row.area = .ok area ∧ area.base = l.base ∧
      area.key ++ rest = l.key ∧ source = Path.join folder rest ∧
      (Path.LiesUnder folder.toList source.toList ↔
        if Path.isAbsolute rest.toList then Path.LiesUnder folder.toList rest.toList
        else Path.leadsUp rest.toList = false)) ∧
    (Path.IsPlain l.key.toList → Path.LiesUnder folder.toList source.toList) := by
  have hbase : row.base = l.base := by simpa using List.find?_some hrow
  obtain ⟨area, hparse, -, -, hareabase, hdirectory, htext⟩ := MountRow.area_spec
    (described_replay calls row (List.mem_of_find?_eq_some hrow))
  have harea : row.area.toList = row.base.toList ++ '/' :: area.key.toList := htext
  obtain ⟨rest, hsource, hkey⟩ :=
    MountRow.key_of_source? harea (Locator.parse_eq_ok_iff.mp hl) hbase.symm hfolder h
  have hiff : Path.LiesUnder folder.toList source.toList ↔
      if Path.isAbsolute rest.toList then Path.LiesUnder folder.toList rest.toList
      else Path.leadsUp rest.toList = false := by
    rw [hsource, Path.join, String.toList_ofList]
    exact Path.liesUnder_join_iff
  refine ⟨⟨area, rest, hparse, hareabase.trans hbase, hkey, hsource, hiff⟩, fun hplain => ?_⟩
  rw [← hkey, String.toList_append] at hplain
  have hdir : area.key.toList = [] ∨ area.key.toList.getLast? = some '/' := by
    unfold Locator.directory at hdirectory
    split_ifs at hdirectory with hends
    · simpa using hends
    · have hlen := congrArg (fun s => s.toList.length) hdirectory
      simp at hlen
  obtain ⟨habs, hup⟩ := Path.isPlain_rest hdir hplain
  rw [hiff, if_neg (by simp [habs])]
  exact hup

/-- Two objects of a bucket, one of which has a key that begins with a separator. -/
def twoSlashes : List Call :=
  [.record "s3://b/x", .record "s3://b//etc/passwd", .setFolder "s3://b" "/mnt"]

def twoSlashesRow : MountRow := ⟨"s3://b", some "/mnt", "s3://b/"⟩

/-- The source of the first object is in the mounted folder, and that of the second one is not. -/
theorem source_of_twoSlashes : (replay twoSlashes).find? "s3://b" = some twoSlashesRow ∧
    (twoSlashesRow.source? "s3://b/x" = some "/mnt/x" ∧
      Path.LiesUnder "/mnt".toList "/mnt/x".toList) ∧
    twoSlashesRow.source? "s3://b//etc/passwd" = some "/etc/passwd" ∧
      ¬ Path.LiesUnder "/mnt".toList "/etc/passwd".toList := by
  have hrow : (replay twoSlashes).find? "s3://b" = some twoSlashesRow := by decide +kernel
  have hplain : twoSlashesRow.source? "s3://b/x" = some "/mnt/x" := by decide +kernel
  have habsolute : twoSlashesRow.source? "s3://b//etc/passwd" = some "/etc/passwd" := by
    decide +kernel
  refine ⟨hrow, ⟨hplain, ?_⟩, habsolute, ?_⟩
  · have hparse : Locator.parse "s3://b/x" = .ok ⟨"s3://b/x", .s3 "b", "x"⟩ := by decide +kernel
    exact (source_liesUnder_iff twoSlashes hparse hrow rfl hplain).2 ⟨by decide, by decide⟩
  · have hparts : Path.parts "/etc/passwd".toList =
        [.root, .name "etc".toList, .name "passwd".toList] := by decide +kernel
    have hfolder : Path.parts "/mnt".toList = [.root, .name "mnt".toList] := by decide +kernel
    rintro ⟨more, hmore, -⟩
    rw [hparts, hfolder] at hmore
    simp at hmore

end MountTable

end DataStaging
