import DataStaging.Proofs.Manifest.Places
import DataStaging.Proofs.Pool.Progress
import DataStaging.Proofs.Pool.Rely

/-!
# The tree that every order of steps comes to

Workers make the same directories next to each other, and each finds some of them made by others.
Where the places of the entries do not get in each other's way, none of this shows in the end: a
worker relies on nothing but that what is there stays there and that its entry's place stays free,
and every change it makes is a node that its entry needs.

Results:
* `does_linkTask`: the handling of an entry, whatever the others do meanwhile.
* `comes_linked`: every order of the entries and of the steps comes to the same tree and the same
  counts.
-/

namespace DataStaging.Manifest

open FileTree (Grows LeadsDown EndsAt Stands Clear)
open Utf8 (encode encodeChars)

variable {table : MountTable} {destination : String} {folder E : Location} {t₀ t t' : FileTree}
  {missing γ : List FileName} {name : FileName} {e e' : ManifestEntry}
  {entries order : List ManifestEntry} {s s' : Linking} {source : String}

/-! ## Trees between the first and the last -/

/-- What was there is there still, and all else is what the entries need. -/
structure Between (table : MountTable) (E : Location) (missing : List FileName)
    (entries : List ManifestEntry) (t₀ t : FileTree) : Prop where
  grows : Grows t₀ t
  needed : ∀ l node, t.get? l = some node →
    t₀.get? l = some node ∨ ∃ e ∈ entries, Needs table E missing e l node

/-- The place of an entry is free, in such a tree. -/
structure Ready (table : MountTable) (E : Location) (missing : List FileName)
    (entries : List ManifestEntry) (t₀ : FileTree) (e : ManifestEntry) (t : FileTree) : Prop where
  between : Between table E missing entries t₀ t
  free : t.get? (E ++ way missing e) = none

theorem Between.refl : Between table E missing entries t₀ t₀ := ⟨.refl t₀, fun _ _ hl => Or.inl hl⟩

theorem Between.put (h : Between table E missing entries t₀ t) (he : e ∈ entries) {l : Location}
    {node : Node} (hneed : Needs table E missing e l node) (hnone : t.get? l = none) :
    Between table E missing entries t₀ (t.put l node) := by
  refine ⟨h.grows.trans (FileTree.grows_put hnone node), fun l' node' hl' => ?_⟩
  by_cases hsame : l' = l
  · subst hsame
    rw [FileTree.get?_put_of_none hnone] at hl'
    obtain rfl := Option.some.inj hl'
    exact Or.inr ⟨e, he, hneed⟩
  · rw [FileTree.get?_put_of_ne t hsame] at hl'
    exact h.needed l' node' hl'

/-- A node that an entry needs is on the way to its place. -/
theorem Needs.exists_prefix {l : Location} {node : Node} (h : Needs table E missing e l node) :
    ∃ r, r <+: way missing e ∧ l = E ++ r := by
  obtain ⟨source, -, ⟨-, r, hr, -, hl⟩ | ⟨-, hl⟩⟩ := h
  · exact ⟨r, hr, hl⟩
  · exact ⟨_, List.prefix_rfl, hl⟩

section ConflictFree

variable (h : ConflictFree table t₀ folder destination E missing entries)
include h

theorem ConflictFree.not_way_isPrefix (he : e ∈ entries) (he' : e' ∈ entries) (hne : e ≠ e') :
    ¬ way missing e <+: way missing e' := fun hp =>
  h.not_isPrefix he he' hne ((List.prefix_append_right_inj missing).mp hp)

theorem ConflictFree.directory (hb : Between table E missing entries t₀ t) :
    t.get? E = some .directory := hb.grows _ _ h.site.directory

/-- Nothing but directories is on the way to an entry's place. -/
theorem ConflictFree.clear (hb : Between table E missing entries t₀ t) (he : e ∈ entries)
    (hγ : γ <+: way missing e) (hne : γ ≠ way missing e) : Clear t E γ := by
  intro r hr hr0
  cases hget : t.get? (E ++ r) with
  | none => exact Or.inl rfl
  | some node =>
    right
    have hway : r <+: missing ++ placeNames e := hr.trans hγ
    rcases hb.needed _ _ hget with hold | ⟨e', he', source', -, ⟨rfl, -⟩ | ⟨-, hl⟩⟩
    · -- nothing was there from the start
      exfalso
      have hvacant := h.site.vacant (E ++ r) (List.prefix_append _ _) (by simpa using hr0) (by
        refine Or.imp ?_ ?_ (List.prefix_or_prefix_of_prefix hway (List.prefix_append _ _))
        · exact (List.prefix_append_right_inj E).mpr
        · exact (List.prefix_append_right_inj E).mpr)
      rw [hvacant] at hold
      cases hold
    · rfl
    · -- a link is at the place of its own entry only, and that is not on the way
      exfalso
      obtain rfl := List.append_cancel_left hl
      by_cases hsame : e' = e
      · subst hsame
        exact hne (hγ.eq_of_length (Nat.le_antisymm hγ.length_le hr.length_le))
      · exact h.not_way_isPrefix he' he hsame hway

theorem ConflictFree.ready (he : e ∈ entries) : Ready table E missing entries t₀ e t₀ := by
  refine ⟨.refl, h.site.vacant _ (List.prefix_append _ _) ?_ (Or.inr ?_)⟩
  · obtain ⟨γ, name, hway⟩ := h.way_eq he
    rw [hway]
    simp
  · exact (List.prefix_append_right_inj E).mpr (List.prefix_append _ _)

end ConflictFree

/-! ## What a worker relies on -/

/-- What is there stays there, and as long as an entry's place is free it stays so. -/
def Relies (table : MountTable) (E : Location) (missing : List FileName)
    (entries : List ManifestEntry) (t₀ : FileTree) (e : ManifestEntry) (s s' : Linking) : Prop :=
  Grows s.tree s'.tree ∧
    (Ready table E missing entries t₀ e s.tree → Ready table E missing entries t₀ e s'.tree)

/-- Nothing is counted, and at most a node that the entry needs is made. -/
def Guarantees (table : MountTable) (E : Location) (missing : List FileName) (e : ManifestEntry)
    (s s' : Linking) : Prop :=
  s'.report = s.report ∧ (s'.tree = s.tree ∨ ∃ l node, Needs table E missing e l node ∧
    s.tree.get? l = none ∧ s'.tree = s.tree.put l node)

/-- The entry is counted, and all that it needs is there. -/
def Concludes (table : MountTable) (E : Location) (missing : List FileName) (e : ManifestEntry)
    (s s' : Linking) : Prop :=
  s'.tree = s.tree ∧ s'.report = s.report.count (outcomeOf table e) ∧
    ∀ l node, Needs table E missing e l node → s.tree.get? l = some node

/-- A task goes on as the entry promises. -/
abbrev Promised (table : MountTable) (E : Location) (missing : List FileName)
    (entries : List ManifestEntry) (t₀ : FileTree) (e : ManifestEntry) (task : LinkTask)
    (s : Linking) : Prop :=
  task.Does (Relies table E missing entries t₀ e) (Guarantees table E missing e)
    (Concludes table E missing e) s

/-- What the entries that were counted have made of the tree and the counts. -/
structure Converged (table : MountTable) (E : Location) (missing : List FileName)
    (entries : List ManifestEntry) (t₀ : FileTree) (order : List ManifestEntry) (s : Linking) :
    Prop where
  between : Between table E missing entries t₀ s.tree
  report : s.report = tally table order
  linked : ∀ e ∈ order, ∀ l node, Needs table E missing e l node → s.tree.get? l = some node

theorem guarantees_grows (h : Guarantees table E missing e s s') : Grows s.tree s'.tree := by
  obtain ⟨-, heq | ⟨l, node, -, hnone, heq⟩⟩ := h
  · rw [heq]
    exact .refl _
  · rw [heq]
    exact FileTree.grows_put hnone node

theorem between_of_guarantees (he : e ∈ entries) (hb : Between table E missing entries t₀ s.tree)
    (h : Guarantees table E missing e s s') : Between table E missing entries t₀ s'.tree := by
  obtain ⟨-, heq | ⟨l, node, hneed, hnone, heq⟩⟩ := h
  · rwa [heq]
  · rw [heq]
    exact hb.put he hneed hnone

/-- What one entry's worker does is what the workers of the other entries rely on. -/
theorem protocol_linkJob {listing : Listing} {depth : Nat}
    (h : ConflictFree table t₀ folder destination E missing listing.1) :
    Pool.Protocol (linkJob table destination folder listing depth)
      (Relies table E missing listing.1 t₀) (Guarantees table E missing)
      (Concludes table E missing) (Converged table E missing listing.1 t₀) where
  nodup := h.nodup
  refl e s := ⟨.refl _, id⟩
  trans e a b c hab hbc := ⟨hab.1.trans hbc.1, hbc.2 ∘ hab.2⟩
  guarantee := by
    rintro e e' he he' hne a b (hG | ⟨heq, -⟩)
    · refine ⟨guarantees_grows hG, fun hready => ⟨between_of_guarantees he hready.between hG, ?_⟩⟩
      obtain ⟨-, heq | ⟨l, node, hneed, -, heq⟩⟩ := hG
      · rw [heq]
        exact hready.free
      · -- the new node is on the way to another place
        obtain ⟨r, hr, rfl⟩ := hneed.exists_prefix
        rw [heq, FileTree.get?_put_of_ne _ fun hl => ?_]
        · exact hready.free
        · rw [← List.append_cancel_left hl] at hr
          exact h.not_way_isPrefix he' he hne hr
    · rw [Relies, heq]
      exact ⟨.refl _, id⟩
  keeps := by
    intro e he order a b hΦ hG
    refine ⟨between_of_guarantees he hΦ.between hG, hG.1.trans hΦ.report, ?_⟩
    exact fun e' he' l node hneed => guarantees_grows hG _ _ (hΦ.linked e' he' l node hneed)
  settles := by
    rintro e he order a b hΦ ⟨heq, hreport, hneeds⟩
    refine ⟨heq ▸ hΦ.between, ?_, fun e' he' l node hneed => ?_⟩
    · rw [hreport, hΦ.report, tally_concat]
    · rw [heq]
      rcases List.mem_append.mp he' with he' | he'
      · exact hΦ.linked e' he' l node hneed
      · rw [List.mem_singleton.mp he'] at hneed
        exact hneeds l node hneed

/-! ## Calls -/

/-- A call either changes the tree as the entry promises, or it is refused; and the task goes on. -/
theorem promised_callTask {call : FileTree → Except IoFault FileTree}
    {next : Except IoFault Unit → LinkTask}
    (h : ∀ s', Relies table E missing entries t₀ e s s' →
      (∃ t', call s'.tree = .ok t' ∧ Guarantees table E missing e s' ⟨t', s'.report⟩ ∧
        Promised table E missing entries t₀ e (next (.ok ())) ⟨t', s'.report⟩) ∨
      ∃ fault, call s'.tree = .error fault ∧
        Promised table E missing entries t₀ e (next (.error fault)) s') :
    Promised table E missing entries t₀ e (callTask call next) s := by
  refine Task.does_act fun s' hs' => ?_
  show Guarantees table E missing e s' { s' with tree := settled s'.tree (call s'.tree) } ∧ _
  rcases h s' hs' with ⟨t', hcall, hG, hnext⟩ | ⟨fault, hcall, hnext⟩
  · simp only [hcall, settled]
    exact ⟨hG, hnext⟩
  · simp only [hcall, settled]
    exact ⟨⟨rfl, Or.inl rfl⟩, hnext⟩

theorem promised_countTask {outcome : LinkOutcome} (houtcome : outcomeOf table e = outcome)
    (hneeds : ∀ l node, Needs table E missing e l node → s.tree.get? l = some node) :
    Promised table E missing entries t₀ e (countTask outcome) s :=
  fun _ hs' => Or.inl ⟨rfl, rfl, by rw [houtcome], fun l node hneed =>
    hs'.1 _ _ (hneeds l node hneed)⟩

/-! ## Directories -/

section Place

variable (h : ConflictFree table t₀ folder destination E missing entries) (he : e ∈ entries)
  (hsource : linkSource? table e = some source)
include h he hsource

/-- A directory on the way to an entry's place is there, or it can be made. -/
theorem makeDirectory_cases {path : Bytes} (hp : EndsAt t₀ folder path E γ name)
    (hγ : γ ++ [name] <+: way missing e) (hne : γ ++ [name] ≠ way missing e)
    (hr : Ready table E missing entries t₀ e s.tree) (hs : Stands s.tree E γ) :
    (∃ fault, s.tree.makeDirectory folder path = .error fault ∧ fault ≠ .notFound ∧
        Stands s.tree E (γ ++ [name])) ∨
      ∃ t', s.tree.makeDirectory folder path = .ok t' ∧
        Guarantees table E missing e s ⟨t', s.report⟩ ∧
        Ready table E missing entries t₀ e t' ∧ Stands t' E (γ ++ [name]) := by
  have hends : EndsAt s.tree folder path E γ name :=
    ⟨hp.leadsDown.of_grows hr.between.grows, hp.last⟩
  rcases h.clear hr.between he hγ hne _ List.prefix_rfl (by simp) with hnone | hdir
  · right
    have hneed : Needs table E missing e (E ++ (γ ++ [name])) .directory :=
      ⟨source, hsource, Or.inl ⟨rfl, _, hγ, hne, rfl⟩⟩
    have hgrows := FileTree.grows_put hnone .directory
    refine ⟨_, FileTree.makeDirectory_of_missing hends hs hnone,
      ⟨rfl, Or.inr ⟨_, _, hneed, hnone, rfl⟩⟩, ⟨hr.between.put he hneed hnone, ?_⟩, ?_⟩
    · rw [FileTree.get?_put_of_ne _ fun hl => hne (List.append_cancel_left hl).symm]
      exact hr.free
    · exact FileTree.stands_concat.mpr
        ⟨FileTree.stands_of_grows hs hgrows, FileTree.get?_put_of_none hnone _⟩
  · left
    have hstands := FileTree.stands_concat.mpr ⟨hs, hdir⟩
    obtain ⟨fault, hfault, hnot⟩ := FileTree.makeDirectory_of_stands hends.leadsDown hstands
    exact ⟨fault, hfault, hnot, hstands⟩

omit h he hsource in
/-- A refusal is of no account where the directory stands, and it goes on to stand. -/
theorem promised_excuseTask (fault : IoFault) {path : Bytes}
    {next : Except IoFault Unit → LinkTask} (hp : LeadsDown t₀ folder path E γ)
    (hr : Ready table E missing entries t₀ e s.tree) (hs : Stands s.tree E γ)
    (hnext : ∀ s', Ready table E missing entries t₀ e s'.tree → Stands s'.tree E γ →
      Promised table E missing entries t₀ e (next (.ok ())) s') :
    Promised table E missing entries t₀ e (excuseTask folder path fault next) s := by
  refine Task.does_act fun s' hs' => ⟨⟨rfl, Or.inl rfl⟩, ?_⟩
  have hr' := hs'.2 hr
  have hstands := FileTree.stands_of_grows hs hs'.1
  rw [FileTree.isDirectory_of_stands (hp.of_grows hr'.between.grows) hstands, if_pos rfl]
  exact hnext s' hr' hstands

theorem promised_ensureTask {path : Bytes} {next : Except IoFault Unit → LinkTask}
    (hp : EndsAt t₀ folder path E γ name) (hγ : γ ++ [name] <+: way missing e)
    (hne : γ ++ [name] ≠ way missing e) (hr : Ready table E missing entries t₀ e s.tree)
    (hs : Stands s.tree E γ)
    (hnext : ∀ s', Ready table E missing entries t₀ e s'.tree → Stands s'.tree E (γ ++ [name]) →
      Promised table E missing entries t₀ e (next (.ok ())) s') :
    Promised table E missing entries t₀ e (ensureTask folder path next) s := by
  refine promised_callTask fun s' hs' => ?_
  have hr' := hs'.2 hr
  rcases makeDirectory_cases h he hsource hp hγ hne hr' (FileTree.stands_of_grows hs hs'.1) with
    ⟨fault, hfault, -, hstands⟩ | ⟨t', hmade, hG, hr'', hstands⟩
  · exact Or.inr ⟨fault, hfault, promised_excuseTask fault hp.leadsDown hr' hstands hnext⟩
  · exact Or.inl ⟨t', hmade, hG, hnext _ hr'' hstands⟩

/-- The directories of a path on the way to an entry's place are made, whoever makes them. -/
theorem promised_directoriesTask {path : List Char} {fuel : Nat}
    {next : Except IoFault Unit → LinkTask}
    (hp : path = [] ∧ γ = [] ∨
      LeadsDown t₀ folder (encodeChars path) E γ ∧ FileTree.Bare path)
    (hγ : γ <+: way missing e) (hne : γ ≠ way missing e) (hfuel : γ.length < fuel)
    (hr : Ready table E missing entries t₀ e s.tree)
    (hnext : ∀ s', Ready table E missing entries t₀ e s'.tree → Stands s'.tree E γ →
      Promised table E missing entries t₀ e (next (.ok ())) s') :
    Promised table E missing entries t₀ e (directoriesTask folder path fuel next) s := by
  induction fuel generalizing path γ next s with
  | zero => exact absurd hfuel (Nat.not_lt_zero _)
  | succ fuel ih =>
    rw [directoriesTask]
    split_ifs with hpath
    · obtain rfl : γ = [] := by
        rcases hp with ⟨-, hγ⟩ | ⟨hdown, -⟩
        · exact hγ
        · rw [hpath] at hdown
          cases hdown.check
      exact hnext s hr (FileTree.stands_nil.mpr (h.directory hr.between))
    · obtain ⟨hdown, hbare⟩ := hp.resolve_left fun hnil => hpath hnil.1
      refine promised_callTask fun s' hs' => ?_
      have hr' := hs'.2 hr
      by_cases hs : Stands s'.tree E γ
      · -- the directory stands already: the refusal is not that one on the way is missing
        obtain ⟨fault, hfault, hnot⟩ :=
          FileTree.makeDirectory_of_stands (hdown.of_grows hr'.between.grows) hs
        refine Or.inr ⟨fault, hfault, ?_⟩
        have hexcuse := promised_excuseTask fault hdown hr' hs hnext
        cases fault <;> first | exact absurd rfl hnot | exact hexcuse
      · rcases List.eq_nil_or_concat' γ with rfl | ⟨γ, name, rfl⟩
        · exact absurd (FileTree.stands_nil.mpr (h.directory hr'.between)) hs
        have hends := FileTree.endsAt_of_bare hdown hbare
        have hγ' : γ <+: way missing e := (List.prefix_append γ [name]).trans hγ
        have hne' : γ ≠ way missing e := by
          rintro rfl
          have := hγ.length_le
          simp at this
        by_cases hholder : Stands s'.tree E γ
        · -- only the last directory is missing, and is made
          rcases makeDirectory_cases h he hsource hends hγ hne hr' hholder with
            ⟨fault, -, -, hstands⟩ | ⟨t', hmade, hG, hr'', hstands⟩
          · exact absurd hstands hs
          · exact Or.inl ⟨t', hmade, hG, hnext _ hr'' hstands⟩
        · -- one before the last is missing: it is made first
          refine Or.inr ⟨.notFound, FileTree.makeDirectory_of_fallen
            ⟨hends.leadsDown.of_grows hr'.between.grows, hends.last⟩
            (h.clear hr'.between he hγ' hne') hholder, ?_⟩
          cases hparent : Path.parent? path with
          | none => exact absurd hparent (FileTree.parent_ne_none hdown)
          | some parent =>
            refine ih ?_ hγ' hne' ?_ hr' fun s'' hr'' hstands =>
              promised_ensureTask h he hsource hends hγ hne hr'' hstands hnext
            · by_cases hnil : parent = []
              · subst hnil
                exact Or.inl ⟨rfl, FileTree.eq_nil_of_parent_nil hdown hparent⟩
              · exact Or.inr ⟨FileTree.leadsDown_parent hdown hparent hnil,
                  (FileTree.parent_spec hparent).2.2⟩
            · rw [List.length_append, List.length_singleton] at hfuel
              omega

/-! ## Links -/

/-- Where the directories stand, the link is made, and all that the entry needs is there. -/
theorem promised_symlinkTask {target : List Char} (hlinked : outcomeOf table e = .linked)
    (hway : way missing e = γ ++ [name])
    (hends : EndsAt t₀ folder (encodeChars target) E γ name)
    (hslash : FileTree.endsInSlash (encodeChars target) = false)
    (hr : Ready table E missing entries t₀ e s.tree) (hs : Stands s.tree E γ) :
    Promised table E missing entries t₀ e (symlinkTask folder source target) s := by
  refine promised_callTask fun s' hs' => Or.inl ?_
  have hr' := hs'.2 hr
  have hstands := FileTree.stands_of_grows hs hs'.1
  have hfree := hr'.free
  rw [hway] at hfree
  have hneed : Needs table E missing e (E ++ (γ ++ [name])) (.link (encode source)) :=
    ⟨source, hsource, Or.inr ⟨rfl, by rw [hway]⟩⟩
  have hgrows := FileTree.grows_put hfree (.link (encode source))
  refine ⟨_, FileTree.makeLink_of_stands (h.fits e he source hsource).source
    ⟨hends.leadsDown.of_grows hr'.between.grows, hends.last⟩ hslash hstands hfree,
    ⟨rfl, Or.inr ⟨_, _, hneed, hfree, rfl⟩⟩, promised_countTask hlinked ?_⟩
  rintro l node ⟨source', hsource', ⟨rfl, r, hrway, hrne, rfl⟩ | ⟨rfl, rfl⟩⟩
  · rw [hway] at hrway hrne
    refine hgrows _ _ (hstands r ((List.prefix_concat_iff.mp hrway).resolve_left hrne))
  · obtain rfl := Option.some.inj (hsource.symm.trans hsource')
    rw [hway]
    exact FileTree.get?_put_of_none hfree _

theorem promised_placeTask (hlinked : outcomeOf table e = .linked)
    (hup : Path.leadsUp (placeOf e) = false)
    (hr : Ready table E missing entries t₀ e s.tree) :
    Promised table E missing entries t₀ e
      (placeTask folder source (Path.joinChars destination.toList (placeOf e))) s := by
  obtain ⟨γ, name, hway⟩ := h.way_eq he
  obtain ⟨hends, hslash⟩ := h.endsAt_target he hsource hup hway
  have hγ : γ <+: way missing e := hway ▸ List.prefix_append _ _
  have hne : γ ≠ way missing e := by
    rw [hway]
    simp
  unfold placeTask
  cases hparent : Path.parent? (Path.joinChars destination.toList (placeOf e)) with
  | none => exact absurd hparent (FileTree.parent_ne_none hends.leadsDown)
  | some parent =>
    have hlink : ∀ s', Ready table E missing entries t₀ e s'.tree → Stands s'.tree E γ →
        Promised table E missing entries t₀ e (symlinkTask folder source
          (Path.joinChars destination.toList (placeOf e))) s' :=
      fun s' hr' hs' => promised_symlinkTask h he hsource hlinked hway hends hslash hr' hs'
    by_cases hnil : parent = []
    · subst hnil
      obtain rfl := FileTree.eq_nil_of_parent_nil hends.leadsDown hparent
      exact promised_directoriesTask h he hsource (Or.inl ⟨rfl, rfl⟩) hγ hne (Nat.succ_pos _) hr
        hlink
    · have hdown := FileTree.leadsDown_parent hends.leadsDown hparent hnil
      exact promised_directoriesTask h he hsource
        (Or.inr ⟨hdown, (FileTree.parent_spec hparent).2.2⟩) hγ hne
        (Nat.lt_succ_of_le (FileTree.length_names_le hdown)) hr hlink

end Place

/-- Whatever the others do meanwhile, an entry is handled as it promises. -/
theorem does_linkTask (h : ConflictFree table t₀ folder destination E missing entries)
    (he : e ∈ entries) (report : LinkReport) :
    Promised table E missing entries t₀ e (linkTask table destination folder e)
      ⟨t₀, report⟩ := by
  rcases linkTask_cases (h.known e he) destination folder with
    ⟨hnone, htask⟩ | ⟨source, hsource, hlinked, hup, htask⟩
  · rw [htask]
    refine promised_countTask rfl ?_
    rintro l node ⟨source, hsource, -⟩
    rw [hnone] at hsource
    cases hsource
  · rw [htask]
    exact promised_placeTask h he hsource hlinked hup (h.ready he)

/-! ## The result -/

/-- The entries of a conflict-free manifest may be reordered. -/
theorem ConflictFree.perm (h : ConflictFree table t₀ folder destination E missing entries)
    (hperm : order.Perm entries) :
    ConflictFree table t₀ folder destination E missing order where
  site := h.site
  endsInName e he := h.endsInName e (hperm.mem_iff.mp he)
  apart := hperm.symm.pairwise h.apart fun hab => symm hab
  known e he := h.known e (hperm.mem_iff.mp he)
  fits e he := h.fits e (hperm.mem_iff.mp he)

/-- For a conflict-free manifest, every order of the entries, every number of workers and every
    order of their steps comes to the same result, the same counts and the same tree: what was
    there, and for each entry that has a source the directories down to its place, the destination
    among them, and at that place the link. -/
theorem comes_linked (h : ConflictFree table t₀ folder destination E missing entries)
    {listing : Listing} (horder : listing.1.Perm entries) (n depth : Nat) :
    Pool.Comes (linkJob table destination folder listing depth)
      (fun r s => r = listing.2.map (fun _ => ()) ∧ s.shared.report = tally table entries ∧
        ∀ l node, s.shared.tree.get? l = some node ↔
          t₀.get? l = some node ∨ ∃ e ∈ entries, Needs table E missing e l node)
      (Pool.start (linkJob table destination folder listing depth) n ⟨t₀, .zero⟩) := by
  have hlisting := h.perm horder
  refine Pool.comes_of_runs (fun s r hruns hr => ?_) .refl
  obtain ⟨hresult, order, hperm, hconverged⟩ := Pool.ended_of_protocol (protocol_linkJob hlisting)
    ⟨.refl, rfl, fun e he => absurd he List.not_mem_nil⟩
    (fun e he => does_linkTask hlisting he .zero) hruns hr
  refine ⟨hresult, ?_, fun l node => ⟨fun hl => ?_, ?_⟩⟩
  · rw [hconverged.report]
    exact tally_perm (hperm.trans horder)
  · refine (hconverged.between.needed l node hl).imp_right ?_
    exact fun ⟨e, he, hneed⟩ => ⟨e, horder.mem_iff.mp he, hneed⟩
  · rintro (hold | ⟨e, he, hneed⟩)
    · exact hconverged.between.grows _ _ hold
    · exact hconverged.linked e ((hperm.trans horder).mem_iff.mpr he) l node hneed

/-! ## Two links in one directory -/

/-- Two objects that are linked next to each other, and one of a base that was not mounted. -/
def sharedFolder : List ManifestEntry :=
  [⟨"d/x", "s3://b/x"⟩, ⟨"d/y", "s3://b/y"⟩, ⟨"z", "s3://c/z"⟩]

def halfMounted : MountTable := ⟨[⟨"s3://b", some "/mnt", "s3://b/"⟩, ⟨"s3://c", none, "s3://c/z"⟩]⟩

theorem forall_sharedFolder {P : ManifestEntry → Prop} (hx : P ⟨"d/x", "s3://b/x"⟩)
    (hy : P ⟨"d/y", "s3://b/y"⟩) (hz : P ⟨"z", "s3://c/z"⟩) : ∀ e ∈ sharedFolder, P e := by
  simp [sharedFolder, hx, hy, hz]

theorem linkSource?_halfMounted :
    linkSource? halfMounted ⟨"d/y", "s3://b/y"⟩ = some "/mnt/y" := by decide +kernel

theorem fits_sharedFolder : ∀ e ∈ sharedFolder, ∀ source, linkSource? halfMounted e = some source →
    Fits "/task" e source := by
  have hx : linkSource? halfMounted ⟨"d/x", "s3://b/x"⟩ = some "/mnt/x" := by decide +kernel
  have hz : linkSource? halfMounted ⟨"z", "s3://c/z"⟩ = none := by decide +kernel
  refine forall_sharedFolder ?_ ?_ ?_
  · intro source hsource
    obtain rfl := Option.some.inj (hx.symm.trans hsource)
    exact ⟨by decide +kernel, by decide +kernel, by decide +kernel⟩
  · intro source hsource
    obtain rfl := Option.some.inj (linkSource?_halfMounted.symm.trans hsource)
    exact ⟨by decide +kernel, by decide +kernel, by decide +kernel⟩
  · intro source hsource
    cases hz.symm.trans hsource

theorem conflictFree_sharedFolder :
    ConflictFree halfMounted .empty [] "/task" [] [encode "task"] sharedFolder where
  site := by
    refine ⟨rfl, ⟨[], [encode "task"], by decide +kernel, by rw [FileTree.walk_nil]; rfl, ?_,
      by decide +kernel⟩, fun l _ hne _ => by simp [FileTree.get?, FileTree.empty, hne]⟩
    intro step hstep
    rw [List.mem_singleton.mp hstep]
    exact Or.inr ⟨by decide +kernel, by decide +kernel, by decide +kernel⟩
  endsInName := forall_sharedFolder
    ⟨['d', '/'], ['x'], rfl, Or.inr rfl, by decide, by decide, by decide⟩
    ⟨['d', '/'], ['y'], rfl, Or.inr rfl, by decide, by decide, by decide⟩
    ⟨[], ['z'], rfl, Or.inl rfl, by decide, by decide, by decide⟩
  apart := by
    unfold OffTheWay
    decide +kernel
  known := forall_sharedFolder (by decide +kernel) (by decide +kernel) (by decide +kernel)
  fits := fits_sharedFolder

theorem tally_sharedFolder : tally halfMounted sharedFolder = ⟨2, 1, 0⟩ := by decide +kernel

/-- Handled in another order, by two workers: the two links and the directories that hold them. -/
theorem comes_linked_sharedFolder :
    ConflictFree halfMounted .empty [] "/task" [] [encode "task"] sharedFolder ∧
    sharedFolder.reverse.Perm sharedFolder ∧
    Pool.Comes (linkJob halfMounted "/task" [] (sharedFolder.reverse, .ok 3) 1)
      (fun r s => r = .ok () ∧ s.shared.report = ⟨2, 1, 0⟩ ∧
        s.shared.tree.get? [encode "task", encode "d"] = some .directory ∧
        s.shared.tree.get? [encode "task", encode "d", encode "y"] =
          some (.link (encode "/mnt/y")))
      (Pool.start (linkJob halfMounted "/task" [] (sharedFolder.reverse, .ok 3) 1) 2
        ⟨.empty, .zero⟩) := by
  have hmem : (⟨"d/y", "s3://b/y"⟩ : ManifestEntry) ∈ sharedFolder := by simp [sharedFolder]
  have hway : way [encode "task"] ⟨"d/y", "s3://b/y"⟩ =
      [encode "task", encode "d", encode "y"] := by decide +kernel
  have hdirectory : Needs halfMounted [] [encode "task"] ⟨"d/y", "s3://b/y"⟩
      [encode "task", encode "d"] .directory := by
    refine ⟨_, linkSource?_halfMounted,
      Or.inl ⟨rfl, [encode "task", encode "d"], ?_, ?_, (List.nil_append _).symm⟩⟩
    · rw [hway]
      decide +kernel
    · rw [hway]
      decide +kernel
  have hlink : Needs halfMounted [] [encode "task"] ⟨"d/y", "s3://b/y"⟩
      [encode "task", encode "d", encode "y"] (.link (encode "/mnt/y")) := by
    refine ⟨_, linkSource?_halfMounted, Or.inr ⟨rfl, ?_⟩⟩
    rw [hway, List.nil_append]
  refine ⟨conflictFree_sharedFolder, List.reverse_perm _, ?_⟩
  refine (@comes_linked _ _ _ _ _ _ _ conflictFree_sharedFolder (sharedFolder.reverse, .ok 3)
    (List.reverse_perm _) 2 1).mono ?_
  rintro r s ⟨hresult, hreport, htree⟩
  exact ⟨hresult, hreport.trans tally_sharedFolder, (htree _ _).mpr (Or.inr ⟨_, hmem, hdirectory⟩),
    (htree _ _).mpr (Or.inr ⟨_, hmem, hlink⟩)⟩

end DataStaging.Manifest
