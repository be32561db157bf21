import DataStaging.Mount.Table
import DataStaging.Proofs.Storage.Grammar

/-!
# The mount table as a map

What recording a locator and setting a folder do to the rows, whatever their order.

Results:
* `contains_record`, `contains_setFolder`: which bases a table knows.
* `described_record`: a row has the base of a locator, and a beginning of the locator's text.
-/

namespace DataStaging

open MountTable

/-! ## Rows -/

/-- A row as recording leaves it: it has no folder, and its shared text is the beginning of a
    locator with its base. -/
structure MountRow.Described (row : MountRow) : Prop where
  folder_eq : row.folder = none
  locator : ∃ l, Locator.read l.text = .ok l ∧ l.base = row.base ∧
    row.shared.toList <+: l.text.toList

namespace MountTable

variable {table : MountTable} {locator : Locator} {base : String}

/-- What holds of a new row and of every row whose shared text is cut back holds of every row. -/
theorem forall_recordInto {P : MountRow → Prop} {text : String} {rows : List MountRow}
    (hrows : ∀ row ∈ rows, P row) (hnew : P ⟨base, none, text⟩)
    (hmeet : ∀ row ∈ rows, row.base = base →
      P { row with shared := String.ofList (Shared.meet row.shared.toList text.toList) }) :
    ∀ row ∈ recordInto base text rows, P row := by
  induction rows with
  | nil =>
    intro row hrow
    rw [recordInto, List.mem_singleton] at hrow
    exact hrow ▸ hnew
  | cons first rest ih =>
    have hfirst := hrows first List.mem_cons_self
    have hrest := fun row h => hrows row (List.mem_cons_of_mem _ h)
    intro row hrow
    rw [recordInto] at hrow
    split_ifs at hrow with h1 h2
    · rcases List.mem_cons.mp hrow with rfl | hrow
      · exact hmeet first List.mem_cons_self h1
      · exact hrest row hrow
    · rcases List.mem_cons.mp hrow with rfl | hrow
      · exact hnew
      · exact hrows row hrow
    · rcases List.mem_cons.mp hrow with rfl | hrow
      · exact hfirst
      · exact ih hrest (fun row h => hmeet row (List.mem_cons_of_mem _ h)) row hrow

theorem mem_bases_recordInto {b text : String} {rows : List MountRow} :
    b ∈ (recordInto base text rows).map (·.base) ↔ b = base ∨ b ∈ rows.map (·.base) := by
  induction rows with
  | nil => simp [recordInto]
  | cons first rest ih =>
    rw [recordInto]
    split_ifs with h1 h2
    · subst h1
      simp
    · simp
    · rw [List.map_cons, List.mem_cons, ih, List.map_cons, List.mem_cons]
      exact or_left_comm

theorem contains_iff {b : String} : table.contains b = true ↔ b ∈ table.bases := by
  unfold contains find? bases
  rw [List.find?_isSome, List.mem_map]
  simp only [beq_iff_eq]

theorem contains_record {b : String} :
    (table.record locator).contains b = true ↔ b = locator.base ∨ table.contains b = true := by
  rw [contains_iff, contains_iff]
  exact mem_bases_recordInto

theorem described_record (h : ∀ row ∈ table.rows, row.Described)
    (hread : Locator.read locator.text = .ok locator) :
    ∀ row ∈ (table.record locator).rows, row.Described := by
  refine forall_recordInto h ⟨rfl, locator, hread, rfl, List.prefix_rfl⟩ ?_
  intro row hrow _
  obtain ⟨hfolder, l, hl, hbase, hshared⟩ := h row hrow
  refine ⟨hfolder, l, hl, hbase, ?_⟩
  rw [String.toList_ofList]
  exact ((Shared.cut_isPrefix _).trans (Shared.common_isPrefix_left _ _)).trans hshared

/-! ## Folders -/

theorem find?_setFolder (b folder : String) :
    (table.setFolder base folder).find? b =
      (table.find? b).map
        (fun row => if row.base = base then { row with folder := some folder } else row) := by
  unfold setFolder find?
  rw [List.find?_map]
  congr 1
  refine congrArg (fun p => List.find? p table.rows) (funext fun row => ?_)
  show ((if row.base = base then { row with folder := some folder } else row).base == b) = _
  split_ifs <;> rfl

theorem contains_setFolder (b folder : String) :
    (table.setFolder base folder).contains b = table.contains b := by
  unfold contains
  rw [find?_setFolder, Option.isSome_map]

/-- The table with several folders set, one after another. -/
def setFolders (table : MountTable) (folders : List (String × String)) : MountTable :=
  folders.foldl (fun t p => t.setFolder p.1 p.2) table

theorem setFolders_append (folders folders' : List (String × String)) :
    table.setFolders (folders ++ folders') = (table.setFolders folders).setFolders folders' :=
  List.foldl_append

/-- A row keeps what was recorded; its folder is the old one or one that was set. -/
theorem row_of_setFolders {folders : List (String × String)} {row : MountRow}
    (h : row ∈ (table.setFolders folders).rows) :
    ∃ row₀ ∈ table.rows, row.base = row₀.base ∧ row.shared = row₀.shared ∧
      (row.folder = row₀.folder ∨ ∃ p ∈ folders, p.1 = row.base ∧ row.folder = some p.2) := by
  induction folders generalizing table with
  | nil => exact ⟨row, h, rfl, rfl, Or.inl rfl⟩
  | cons p folders ih =>
    have hrest : row ∈ ((table.setFolder p.1 p.2).setFolders folders).rows := h
    obtain ⟨row₁, hrow₁, hbase, hshared, hfolder⟩ := ih hrest
    obtain ⟨row₀, hrow₀, rfl⟩ := List.mem_map.mp hrow₁
    refine ⟨row₀, hrow₀, ?_⟩
    by_cases hp : row₀.base = p.1
    · rw [if_pos hp] at hbase hshared hfolder
      refine ⟨hbase, hshared, Or.inr ?_⟩
      rcases hfolder with hset | ⟨q, hq, hlast⟩
      · exact ⟨p, List.mem_cons_self, by rw [hbase, hp], hset⟩
      · exact ⟨q, List.mem_cons_of_mem _ hq, hlast⟩
    · rw [if_neg hp] at hbase hshared hfolder
      refine ⟨hbase, hshared, hfolder.imp_right ?_⟩
      rintro ⟨q, hq, hlast⟩
      exact ⟨q, List.mem_cons_of_mem _ hq, hlast⟩

theorem contains_setFolders (folders : List (String × String)) (b : String) :
    (table.setFolders folders).contains b = table.contains b := by
  unfold setFolders
  induction folders generalizing table with
  | nil => rfl
  | cons p folders ih => rw [List.foldl_cons, ih, contains_setFolder]

end MountTable

end DataStaging
