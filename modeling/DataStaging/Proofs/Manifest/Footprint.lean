import DataStaging.Proofs.Files.Steps
import DataStaging.Proofs.Manifest.Passes

/-!
# What linking an entry changes

Every call that the handling of an entry makes on the file tree makes at most one node, and that
node is named by steps of the destination or of the entry's place below it: a directory by some of
them, the link by all of them. No such call ends the handling with a fault.

Results:
* `keeps_linkTask`: each change of the tree is one of these, and only an unknown base is a fault.
-/

namespace DataStaging.Manifest

open FileTree (Makes Leads Shortens named steps start)
open Utf8 (encode encodeChars)

/-! ## The target of an entry -/

/-- The steps of an entry's place below the destination. -/
def placeSteps (entry : ManifestEntry) : List Bytes := steps (encodeChars (placeOf entry))

theorem head?_placeOf (entry : ManifestEntry) : (placeOf entry).head? ≠ some '/' := by
  intro h
  have hp := List.head?_dropWhile_not (fun c => decide (c = '/')) entry.relativePath.toList
  rw [show entry.relativePath.toList.dropWhile (fun c => decide (c = '/')) = placeOf entry from rfl,
    h] at hp
  simp at hp

theorem head?_joinChars {left right : List Char} (h : right.head? ≠ some '/') :
    (Path.joinChars left right).head? = some '/' ↔ left.head? = some '/' := by
  unfold Path.joinChars
  rw [if_neg h]
  cases left with
  | nil => simp [h]
  | cons c left => split_ifs <;> rfl

/-- The target's steps are those of the destination and of the place, from where the destination's
    begin. -/
theorem steps_target (destination : String) (entry : ManifestEntry) :
    steps (encodeChars (Path.joinChars destination.toList (placeOf entry))) =
      steps (encode destination) ++ placeSteps entry :=
  FileTree.steps_join _ _ (head?_placeOf entry)

theorem start_target (folder : Location) (destination : String) (entry : ManifestEntry) :
    start folder (encodeChars (Path.joinChars destination.toList (placeOf entry))) =
      start folder (encode destination) := by
  unfold FileTree.start
  simp only [encode, FileTree.head?_encodeChars, head?_joinChars (head?_placeOf entry)]

theorem endsInSlash_encodeChars (cs : List Char) :
    FileTree.endsInSlash (encodeChars (cs ++ ['/'])) = true := by
  rw [Utf8.encodeChars_append]
  show ((encodeChars cs ++ [FileTree.slash]).getLast? == some FileTree.slash) = true
  rw [List.getLast?_concat]
  rfl

/-- A place without steps is empty, and then the target ends in a slash or is empty. -/
theorem target_of_placeSteps_nil (destination : String) {entry : ManifestEntry}
    (h : placeSteps entry = []) :
    encodeChars (Path.joinChars destination.toList (placeOf entry)) = [] ∨
      FileTree.endsInSlash (encodeChars (Path.joinChars destination.toList (placeOf entry))) =
        true := by
  have hplace : placeOf entry = [] := by
    cases hp : placeOf entry with
    | nil => rfl
    | cons c rest =>
      exfalso
      have hc : c ≠ '/' := fun he => head?_placeOf entry (by rw [hp, he]; rfl)
      obtain ⟨b, bs, hb⟩ := List.exists_cons_of_ne_nil (Utf8.encodePoint_ne_nil c.toNat)
      have hslash : b ≠ FileTree.slash := by
        rintro rfl
        exact hc (FileTree.eq_of_slash_mem (hb ▸ List.mem_cons_self))
      rw [placeSteps, hp, Utf8.encodeChars_cons, hb] at h
      exact FileTree.steps_ne_nil hslash _ h
  rw [hplace]
  unfold Path.joinChars
  rw [if_neg (by simp)]
  split_ifs with hd
  · rw [Bool.or_eq_true, List.isEmpty_iff, decide_eq_true_eq] at hd
    rcases hd with hd | hd
    · left
      rw [hd]
      rfl
    · right
      obtain ⟨before, hbefore⟩ := List.getLast?_eq_some_iff.mp hd
      rw [List.append_nil, hbefore]
      exact endsInSlash_encodeChars before
  · exact Or.inr (endsInSlash_encodeChars _)

/-! ## Calls -/

/-- The tree `t'` is `t`, or `t` with a directory or a link that an entry needs. -/
def Touches (folder : Location) (destination : String) (entry : ManifestEntry) (t t' : FileTree) :
    Prop :=
  t' = t ∨ FileTree.up ∉ placeSteps entry ∧
    ((∃ a before o name, a <+: steps (encode destination) ++ placeSteps entry ∧
        Makes t (start folder (encode destination)) a .directory t' before o name) ∨
      ∃ target before o name, placeSteps entry ≠ [] ∧
        Makes t (start folder (encode destination)) (steps (encode destination) ++ placeSteps entry)
          (.link target) t' before o name)

variable {folder : Location}

theorem touches_of_makeDirectory {destination : String} {entry : ManifestEntry}
    (hup : Path.leadsUp (placeOf entry) = false) {path : List Char}
    (hshort : Shortens path (Path.joinChars destination.toList (placeOf entry))) {t t' : FileTree}
    (h : t.makeDirectory folder (encodeChars path) = .ok t') :
    Touches folder destination entry t t' := by
  obtain ⟨before, o, name, hmakes⟩ := FileTree.makeDirectory_spec h
  rw [FileTree.start_of_shortens hshort, start_target] at hmakes
  have hprefix := hshort.steps_prefix
  rw [steps_target] at hprefix
  exact Or.inr ⟨FileTree.up_not_mem_steps hup, Or.inl ⟨_, before, o, name, hprefix, hmakes⟩⟩

theorem makeLink_nil (t : FileTree) (source : Bytes) (t' : FileTree) :
    t.makeLink folder source [] ≠ .ok t' := by
  intro h
  obtain ⟨-, before, o, name, hmakes⟩ := FileTree.makeLink_spec h
  have := hmakes.steps_eq
  simp [FileTree.steps] at this

theorem touches_of_makeLink {destination : String} {entry : ManifestEntry}
    (hup : Path.leadsUp (placeOf entry) = false) {source : Bytes} {t t' : FileTree}
    (h : t.makeLink folder source
      (encodeChars (Path.joinChars destination.toList (placeOf entry))) = .ok t') :
    Touches folder destination entry t t' := by
  obtain ⟨hslash, before, o, name, hmakes⟩ := FileTree.makeLink_spec h
  rw [steps_target, start_target] at hmakes
  refine Or.inr ⟨FileTree.up_not_mem_steps hup, Or.inr ⟨_, before, o, name, ?_, hmakes⟩⟩
  intro hnil
  rcases target_of_placeSteps_nil destination hnil with he | he
  · rw [he] at h
    exact makeLink_nil _ _ _ h
  · rw [he] at hslash
    cases hslash

/-! ## What the handling of an entry may do -/

/-- The changes of the tree that a task makes are among `C`, and its outcomes among `Q`. -/
def Keeps (C : FileTree → FileTree → Prop) (Q : Except Fault Unit → Prop) (task : LinkTask) :
    Prop :=
  task.Within (fun s s' => C s.tree s'.tree) Q

section Keeps

variable {C : FileTree → FileTree → Prop} {Q : Except Fault Unit → Prop}
  {next : Except IoFault Unit → LinkTask}

theorem keeps_countTask (hrefl : ∀ t, C t t) (hok : Q (.ok ())) (outcome : LinkOutcome) :
    Keeps C Q (countTask outcome) := fun s => ⟨hrefl s.tree, hok⟩

theorem keeps_callTask (hrefl : ∀ t, C t t) {call : FileTree → Except IoFault FileTree}
    (hcall : ∀ t t', call t = .ok t' → C t t') (hnext : ∀ r, Keeps C Q (next r)) :
    Keeps C Q (callTask call next) := by
  intro s
  refine ⟨?_, hnext _⟩
  show C s.tree (settled s.tree (call s.tree))
  cases hc : call s.tree with
  | ok t' => exact hcall _ _ hc
  | error fault => exact hrefl _

theorem keeps_excuseTask (hrefl : ∀ t, C t t) (hnext : ∀ r, Keeps C Q (next r)) (path : Bytes)
    (fault : IoFault) : Keeps C Q (excuseTask folder path fault next) :=
  fun s => ⟨hrefl s.tree, hnext _⟩

theorem keeps_placeTask (hrefl : ∀ t, C t t) (hok : Q (.ok ())) {source : String}
    {target : List Char}
    (hmake : ∀ path, Shortens path target → ∀ t t',
      t.makeDirectory folder (encodeChars path) = .ok t' → C t t')
    (hlink : ∀ t t', t.makeLink folder (encode source) (encodeChars target) = .ok t' → C t t') :
    Keeps C Q (placeTask folder source target) := by
  refine placeTask_of_parts (fun path next hpath => keeps_callTask hrefl (hmake path hpath))
    (fun path fault next hnext => keeps_excuseTask hrefl hnext path fault) ?_
    (keeps_countTask hrefl hok _)
  refine keeps_callTask hrefl hlink fun r => ?_
  cases r <;> exact keeps_countTask hrefl hok _

end Keeps

/-- Whether the second pass can tell which row an entry belongs to. -/
def resolution (table : MountTable) (entry : ManifestEntry) : Except Fault Unit :=
  match Locator.parse entry.storagePath with
  | .error fault => .error fault
  | .ok l =>
    if table.contains l.base then .ok () else .error (.unresolvedMount l.base entry.storagePath)

/-- Each change that the handling of an entry makes is one that the entry needs; and nothing but an
    unknown base ends it with a fault. -/
theorem keeps_linkTask (table : MountTable) (destination : String) (entry : ManifestEntry) :
    Keeps (Touches folder destination entry) (fun o => o = resolution table entry)
      (linkTask table destination folder entry) := by
  have hrefl : ∀ t, Touches folder destination entry t t := fun t => Or.inl rfl
  unfold linkTask resolution MountTable.contains
  cases Locator.parse entry.storagePath with
  | error fault => exact rfl
  | ok l =>
    simp only
    cases table.find? l.base with
    | none => exact rfl
    | some row =>
      simp only
      rw [if_pos Option.isSome_some]
      by_cases hnone : row.folder.isNone = true
      · rw [if_pos hnone]
        exact keeps_countTask hrefl rfl _
      · rw [if_neg hnone]
        cases row.source? entry.storagePath with
        | none => exact keeps_countTask hrefl rfl _
        | some source =>
          simp only
          by_cases hup : Path.leadsUp (placeOf entry) = true
          · rw [if_pos hup]
            exact keeps_countTask hrefl rfl _
          · rw [if_neg hup]
            exact keeps_placeTask (Q := fun o => o = .ok ()) hrefl rfl
              (fun path hshort t t' => touches_of_makeDirectory (by simpa using hup) hshort)
              (fun t t' => touches_of_makeLink (by simpa using hup))

theorem within_linkJob (table : MountTable) (destination : String) (folder : Location)
    (listing : Listing) (depth : Nat) :
    ∀ e ∈ (linkJob table destination folder listing depth).entries,
      ((linkJob table destination folder listing depth).handle e).Within
        (fun s s' => Touches folder destination e s.tree s'.tree)
        (fun o => o = resolution table e) :=
  fun e _ => keeps_linkTask table destination e

end DataStaging.Manifest
