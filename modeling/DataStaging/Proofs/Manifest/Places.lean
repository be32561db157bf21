import DataStaging.Proofs.Files.Descent
import DataStaging.Proofs.Files.Parents
import DataStaging.Proofs.Manifest.Containment
import Mathlib.Data.List.Pairwise

/-!
# The way to an entry's place

An entry that has a source gets its link at its place below the destination, and needs the
directories on the way. Where the places of a manifest do not get in each other's way and nothing
stands below the destination yet, this is told by the entry alone.

Results:
* `linkTask_cases`: an entry is counted at once, or a link is made for it.
* `endsAt_target`: the target of an entry leads down from the destination to the entry's place.
* `leadsDown_parent`: so does every folder that holds a path that does.
-/

namespace DataStaging

open FileTree (Grows LeadsDown EndsAt Downward IsName named steps start here up textNames walk)
open Shared (IsFolder)
open Utf8 (encode encodeChars)

namespace FileTree

variable {t : FileTree} {folder E : Location} {γ : List FileName} {name : FileName}

/-! ## Folders that hold a path -/

/-- What is accepted as a path is accepted without its end, if something is left. -/
theorem checkPath_of_isPrefix {p q : List Char} (h : checkPath (encodeChars p) = .ok ())
    (hq : q <+: p) (hne : q ≠ []) : checkPath (encodeChars q) = .ok () := by
  obtain ⟨rest, rfl⟩ := hq
  unfold checkPath at h ⊢
  rw [Utf8.encodeChars_append] at h
  split_ifs at h with hnul hempty hlong
  rw [List.any_append, Bool.or_eq_true, not_or] at hnul
  rw [List.length_append] at hlong
  rw [if_neg hnul.1, if_neg, if_neg (by omega)]
  rw [List.isEmpty_iff, Utf8.encodeChars_eq_nil]
  exact hne

/-- The folder that holds a path leads down to where the path's last name is. -/
theorem leadsDown_parent {p q : List Char}
    (h : LeadsDown t folder (encodeChars p) E (γ ++ [name])) (hq : Path.parent? p = some q)
    (hne : q ≠ []) : LeadsDown t folder (encodeChars q) E γ := by
  obtain ⟨hcheck, hE, a, b, hsteps, ha, hb, hγ⟩ := h
  obtain ⟨hfront, hnames, -⟩ := parent_spec hq
  have hshort := shortens_parent hq
  have hq' : named (steps (encodeChars q)) = named a ++ γ := by
    have : textNames p = named a ++ γ ++ [name] := by
      rw [textNames, hsteps, named_append, hγ, List.append_assoc]
    rw [this, List.dropLast_concat] at hnames
    exact hnames
  refine ⟨checkPath_of_isPrefix hcheck hfront hne, hE, ?_⟩
  rw [← start_of_shortens hshort] at ha
  have hsub := hshort.steps_prefix
  rw [hsteps] at hsub
  rcases List.prefix_or_prefix_of_prefix hsub (List.prefix_append a b) with ⟨c, hc⟩ | ⟨b', hb'⟩
  · -- only idle steps are missing on the way to `E`
    rw [← hc, named_append, List.append_assoc] at hq'
    obtain ⟨hidle, rfl⟩ := List.append_eq_nil_iff.mp
      (List.append_cancel_left ((List.append_nil _).trans hq')).symm
    rw [← hc] at ha
    exact ⟨_, [], (List.append_nil _).symm, walk_of_append_idle ha hidle,
      fun x hx => absurd hx List.not_mem_nil, rfl⟩
  · rw [← hb', named_append] at hq'
    rw [← hb'] at hsub
    have hsub' : b' <+: b := (List.prefix_append_right_inj a).mp hsub
    exact ⟨a, b', hb'.symm, ha, fun x hx => hb x (hsub'.subset hx), List.append_cancel_left hq'⟩

/-- A path without an idle end that leads down some names ends at the last of them. -/
theorem endsAt_of_bare {p : List Char} (h : LeadsDown t folder (encodeChars p) E (γ ++ [name]))
    (hbare : Bare p) : EndsAt t folder (encodeChars p) E γ name := by
  refine ⟨h, exists_name_of_bare hbare fun hnil => ?_⟩
  obtain ⟨-, -, a, b, hsteps, -, -, hγ⟩ := h
  rw [textNames, hsteps, named_append, hγ] at hnil
  simp at hnil

/-- Only a path that leads to `E` itself is held by the empty path. -/
theorem eq_nil_of_parent_nil {p : List Char}
    (h : LeadsDown t folder (encodeChars p) E (γ ++ [name])) (hq : Path.parent? p = some []) :
    γ = [] := by
  obtain ⟨-, -, a, b, hsteps, -, -, hγ⟩ := h
  have hnames := (parent_spec hq).2.1
  rw [textNames, textNames, hsteps, named_append, hγ, ← List.append_assoc,
    List.dropLast_concat] at hnames
  exact (List.append_eq_nil_iff.mp hnames.symm).2

/-- A path that leads down a name is held by some folder. -/
theorem parent_ne_none {p : List Char}
    (h : LeadsDown t folder (encodeChars p) E (γ ++ [name])) : Path.parent? p ≠ none := by
  intro hnone
  obtain ⟨-, -, a, b, hsteps, -, -, hγ⟩ := h
  have hnames := names_of_parent_eq_none hnone
  rw [textNames, hsteps, named_append, hγ] at hnames
  simp at hnames

theorem length_names_le {p : List Char} (h : LeadsDown t folder (encodeChars p) E γ) :
    γ.length ≤ p.length + 1 := by
  obtain ⟨-, -, a, b, hsteps, -, -, hγ⟩ := h
  have hle := length_textNames_le p
  rw [textNames, hsteps, named_append, hγ, List.length_append] at hle
  omega

/-! ## Texts that end in a name -/

/-- The text ends neither in a separator nor in a component that is a dot. -/
def EndsInName (text : List Char) : Prop :=
  ∃ before last, text = before ++ last ∧ IsFolder before ∧ '/' ∉ last ∧ last ≠ [] ∧ last ≠ ['.']

theorem EndsInName.steps_eq {text : List Char} (h : EndsInName text) :
    ∃ before last, steps (encodeChars text) = before ++ [last] ∧ last ≠ here := by
  obtain ⟨before, last, rfl, hfolder, hno, hne, hdot⟩ := h
  refine ⟨steps (encodeChars before), encodeChars last, ?_, fun hhere => ?_⟩
  · rw [steps_append_of_folder hfolder, steps_of_component hne hno]
  · exact hdot (eq_of_encodeChars_here hhere)

theorem EndsInName.endsInSlash_eq {text : List Char} (h : EndsInName text) :
    endsInSlash (encodeChars text) = false := by
  obtain ⟨before, last, rfl, -, hno, hne, -⟩ := h
  have hlast : encodeChars last ≠ [] := fun hnil => hne (Utf8.encodeChars_eq_nil.mp hnil)
  unfold endsInSlash
  rw [Utf8.encodeChars_append, List.getLast?_append_of_ne_nil _ hlast, beq_eq_false_iff_ne]
  exact fun hslash => slash_not_mem_encodeChars hno (List.mem_of_getLast? hslash)

/-- A text that ends in a name does so below a folder. -/
theorem EndsInName.join {left right : List Char} (h : EndsInName right)
    (hrel : right.head? ≠ some '/') : EndsInName (Path.joinChars left right) := by
  obtain ⟨before, last, rfl, hfolder, hrest⟩ := h
  unfold Path.joinChars
  rw [if_neg hrel]
  split_ifs with hleft
  · refine ⟨left ++ before, last, (List.append_assoc _ _ _).symm, ?_, hrest⟩
    rcases hfolder with rfl | hlast
    · rw [List.append_nil]
      simpa [IsFolder] using hleft
    · exact Or.inr (by rw [List.getLast?_append, hlast]; rfl)
  · refine ⟨left ++ '/' :: before, last, by simp, Or.inr ?_, hrest⟩
    rcases hfolder with rfl | hlast
    · simp
    · rw [List.getLast?_append, List.getLast?_cons, hlast]
      rfl

/-- So it does without the separators at its front. -/
theorem EndsInName.dropWhile {text : List Char} (h : EndsInName text) :
    EndsInName (text.dropWhile (· = '/')) := by
  obtain ⟨before, last, rfl, hfolder, hno, hrest⟩ := h
  have hlast : last.dropWhile (· = '/') = last := by
    cases last with
    | nil => rfl
    | cons c last =>
      have hc : c ≠ '/' := fun hc => hno (hc ▸ List.mem_cons_self)
      simp [hc]
  rw [List.dropWhile_append, hlast]
  split_ifs with hempty
  · exact ⟨[], last, rfl, Or.inl rfl, hno, hrest⟩
  · refine ⟨before.dropWhile (· = '/'), last, rfl, Or.inr ?_, hno, hrest⟩
    rw [List.isEmpty_iff] at hempty
    have hne : before ≠ [] := by
      rintro rfl
      exact hempty rfl
    obtain ⟨dropped, hdropped⟩ := List.dropWhile_suffix (l := before) (p := (· = '/'))
    have hsame := congrArg List.getLast? hdropped
    rw [List.getLast?_append_of_ne_nil _ hempty] at hsame
    exact hsame.trans (hfolder.resolve_left hne)

end FileTree

namespace Manifest

variable {table : MountTable} {destination : String} {folder E : Location} {t t₀ : FileTree}
  {missing : List FileName} {e : ManifestEntry} {entries order : List ManifestEntry}

/-! ## What becomes of an entry -/

/-- The row of an entry's base. -/
def rowOf? (table : MountTable) (entry : ManifestEntry) : Option MountRow :=
  match Locator.parse entry.storagePath with
  | .ok l => table.find? l.base
  | .error _ => none

/-- Where the link for an entry points. There is none if the base has no folder, if the storage path
    is outside the mounted area, or if the entry's place leads upward. -/
def linkSource? (table : MountTable) (entry : ManifestEntry) : Option String :=
  match rowOf? table entry with
  | some row => if Path.leadsUp (placeOf entry) then none else row.source? entry.storagePath
  | none => none

/-- An entry is skipped if its base has no folder, and linked if it has a source. -/
def outcomeOf (table : MountTable) (entry : ManifestEntry) : LinkOutcome :=
  if (rowOf? table entry).any (·.folder.isNone) then .skipped
  else if (linkSource? table entry).isSome then .linked
  else .failed

/-- The counts of some entries. -/
def tally (table : MountTable) (entries : List ManifestEntry) : LinkReport where
  linked := (entries.map (outcomeOf table)).count .linked
  skipped := (entries.map (outcomeOf table)).count .skipped
  failed := (entries.map (outcomeOf table)).count .failed

theorem tally_concat (order : List ManifestEntry) (e : ManifestEntry) :
    tally table (order ++ [e]) = (tally table order).count (outcomeOf table e) := by
  unfold tally LinkReport.count
  simp only [List.map_append, List.map_cons, List.map_nil, List.count_append]
  cases outcomeOf table e <;> rfl

theorem tally_perm (h : order.Perm entries) : tally table order = tally table entries := by
  unfold tally
  simp only [(h.map (outcomeOf table)).count_eq]

theorem exists_row (h : resolution table e = .ok ()) :
    ∃ l row, Locator.parse e.storagePath = .ok l ∧ table.find? l.base = some row := by
  unfold resolution MountTable.contains at h
  cases hparse : Locator.parse e.storagePath with
  | error fault =>
    rw [hparse] at h
    cases h
  | ok l =>
    simp only [hparse] at h
    split_ifs at h with hsome
    obtain ⟨row, hrow⟩ := Option.isSome_iff_exists.mp hsome
    exact ⟨l, row, rfl, hrow⟩

/-- An entry whose base is not known ends its handling at once. -/
theorem linkTask_of_error {fault : Fault} (h : resolution table e = .error fault)
    (destination : String) (folder : Location) :
    linkTask table destination folder e = .done (.error fault) := by
  unfold linkTask
  unfold resolution MountTable.contains at h
  cases hparse : Locator.parse e.storagePath with
  | error fault' =>
    rw [hparse] at h
    cases h
    rfl
  | ok l =>
    simp only [hparse] at h ⊢
    cases hfind : table.find? l.base with
    | none =>
      rw [hfind] at h
      cases h
      rfl
    | some row => simp [hfind] at h

/-- An entry whose base is known is counted at once, or it has a source and a link is made. -/
theorem linkTask_cases (h : resolution table e = .ok ()) (destination : String)
    (folder : Location) :
    (linkSource? table e = none ∧
      linkTask table destination folder e = countTask (outcomeOf table e)) ∨
    ∃ source, linkSource? table e = some source ∧ outcomeOf table e = .linked ∧
      Path.leadsUp (placeOf e) = false ∧
      linkTask table destination folder e =
        placeTask folder source (Path.joinChars destination.toList (placeOf e)) := by
  obtain ⟨l, row, hparse, hfind⟩ := exists_row h
  have hrow : rowOf? table e = some row := by
    rw [rowOf?, hparse]
    exact hfind
  simp only [linkTask, hparse, hfind, outcomeOf, linkSource?, hrow, Option.any_some]
  by_cases hnone : row.folder.isNone = true
  · -- a row without a folder has no source
    have hsource : row.source? e.storagePath = none := by
      unfold MountRow.source?
      rw [Option.isNone_iff_eq_none.mp hnone]
      rfl
    left
    rw [if_pos hnone, if_pos hnone, hsource]
    exact ⟨ite_self _, rfl⟩
  · rw [if_neg hnone, if_neg hnone]
    cases row.source? e.storagePath with
    | none =>
      left
      rw [ite_self]
      exact ⟨rfl, rfl⟩
    | some source =>
      cases Path.leadsUp (placeOf e) with
      | true => exact Or.inl ⟨rfl, rfl⟩
      | false => exact Or.inr ⟨source, rfl, rfl, rfl, rfl⟩

/-! ## Conflict-free manifests -/

/-- The destination leads to the directory `E`, and from there down names that are missing; nothing
    is on the way or below. So the destination is absent, or it is empty and no name is missing. -/
structure Site (t : FileTree) (folder : Location) (destination : String) (E : Location)
    (missing : List FileName) : Prop where
  directory : t.get? E = some .directory
  split : ∃ a b, steps (encode destination) = a ++ b ∧
    walk t FileTree.linkLimit (start folder (encode destination)) a = .ok (E, true) ∧
    Downward b ∧ named b = missing
  vacant : ∀ l, E <+: l → l ≠ E → l <+: E ++ missing ∨ E ++ missing <+: l → t.get? l = none

/-- The file system accepts what is to be a link: its target, the names on the way, and what it
    points at. -/
structure Fits (destination : String) (e : ManifestEntry) (source : String) : Prop where
  target : FileTree.checkPath
    (encodeChars (Path.joinChars destination.toList (placeOf e))) = .ok ()
  names : ∀ name ∈ placeNames e, ¬ FileTree.nameLimit < name.length
  source : FileTree.checkPath (encode source) = .ok ()

/-- Neither entry's place is the other's, or on the way to it. -/
def OffTheWay (e e' : ManifestEntry) : Prop :=
  ¬ placeNames e <+: placeNames e' ∧ ¬ placeNames e' <+: placeNames e

instance : Std.Symm OffTheWay := ⟨fun _ _ h => ⟨h.2, h.1⟩⟩

/-- Entries that do not get in each other's way: each place ends in a name, no two places are the
    same and none is on the way to another one; every base is known; and the file system accepts
    every link. -/
structure ConflictFree (table : MountTable) (t : FileTree) (folder : Location)
    (destination : String) (E : Location) (missing : List FileName)
    (entries : List ManifestEntry) : Prop where
  site : Site t folder destination E missing
  endsInName : ∀ e ∈ entries, FileTree.EndsInName e.relativePath.toList
  apart : entries.Pairwise OffTheWay
  known : ∀ e ∈ entries, resolution table e = .ok ()
  fits : ∀ e ∈ entries, ∀ source, linkSource? table e = some source → Fits destination e source

/-- The names from `E` to the place of an entry. -/
def way (missing : List FileName) (e : ManifestEntry) : List FileName := missing ++ placeNames e

/-- The nodes that an entry with a source needs: the directories from `E` on, and at its place the
    link to the source. -/
def Needs (table : MountTable) (E : Location) (missing : List FileName) (e : ManifestEntry)
    (l : Location) (node : Node) : Prop :=
  ∃ source, linkSource? table e = some source ∧
    ((node = .directory ∧ ∃ r, r <+: way missing e ∧ r ≠ way missing e ∧ l = E ++ r) ∨
      (node = .link (encode source) ∧ l = E ++ way missing e))

section ConflictFree

variable (h : ConflictFree table t₀ folder destination E missing entries)
include h

theorem ConflictFree.not_isPrefix {e e' : ManifestEntry} (he : e ∈ entries) (he' : e' ∈ entries)
    (hne : e ≠ e') : ¬ placeNames e <+: placeNames e' :=
  (h.apart.forall he he' hne).1

theorem ConflictFree.nodup : entries.Nodup := by
  refine h.apart.imp fun {a b} hab => ?_
  rintro rfl
  exact hab.1 List.prefix_rfl

/-- The last name on the way to the place of an entry with a source. -/
theorem ConflictFree.way_eq (he : e ∈ entries) : ∃ γ name, way missing e = γ ++ [name] := by
  obtain ⟨before, last, hsteps, hlast⟩ := (h.endsInName e he).dropWhile.steps_eq
  have hplace : placeNames e = named before ++ [last] := by
    rw [placeNames, placeSteps, placeOf, hsteps, FileTree.named_append,
      FileTree.named_singleton hlast]
  exact ⟨missing ++ named before, last, by rw [way, hplace, List.append_assoc]⟩

/-- The target of an entry with a source leads down from the destination to the entry's place. -/
theorem ConflictFree.endsAt_target (he : e ∈ entries) {source : String}
    (hsource : linkSource? table e = some source) (hup : Path.leadsUp (placeOf e) = false)
    {γ : List FileName} {name : FileName} (hway : way missing e = γ ++ [name]) :
    EndsAt t₀ folder (encodeChars (Path.joinChars destination.toList (placeOf e))) E γ name ∧
      FileTree.endsInSlash
        (encodeChars (Path.joinChars destination.toList (placeOf e))) = false := by
  have hends : FileTree.EndsInName (Path.joinChars destination.toList (placeOf e)) :=
    (h.endsInName e he).dropWhile.join (head?_placeOf e)
  obtain ⟨a, b, hsteps, ha, hb, hmissing⟩ := h.site.split
  have hfits := h.fits e he source hsource
  refine ⟨⟨⟨hfits.target, h.site.directory, a, b ++ placeSteps e, ?_, ?_, ?_, ?_⟩, hends.steps_eq⟩,
    hends.endsInSlash_eq⟩
  · rw [steps_target, hsteps, List.append_assoc]
  · rw [start_target]
    exact ha
  · intro step hstep
    rcases List.mem_append.mp hstep with hstep | hstep
    · exact hb step hstep
    · by_cases hhere : step = here
      · exact Or.inl hhere
      · refine Or.inr ⟨hhere, fun hstepUp => ?_, hfits.names step ?_⟩
        · exact FileTree.up_not_mem_steps hup (hstepUp ▸ hstep)
        · exact List.mem_filter.mpr ⟨hstep, by simpa using hhere⟩
  · rw [FileTree.named_append, hmissing, ← hway]
    rfl

end ConflictFree

end Manifest

end DataStaging
