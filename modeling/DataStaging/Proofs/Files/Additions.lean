import DataStaging.Proofs.Files.Walk

/-!
# Nodes that are added

A tree goes on from another one by new nodes only, all of certain kinds. Making directories adds
directories, also where it fails halfway; and where it succeeds without a change, there was nothing
to make.

Results:
* `Adds.find`: a path that has led to a node leads to the same one.
* `adds_ensureDirectory`: what making a directory and those above it adds.
* `ensureDirectory_eq_self_iff`: when that is nothing.
-/

namespace DataStaging.FileTree

variable {K : Node → Prop} {t t' t'' : FileTree} {folder l : Location} {path : Bytes}

/-! ## Nodes that paths lead to -/

/-- A walk that ends before a missing name ends where nothing is. -/
theorem get?_of_walk {k : Nat} {l' : Location} {a : List Bytes}
    (h : walk t k l a = .ok (l', false)) : t.get? l' = none := by
  induction k, l, a using walk_induct t with
  | done k l =>
    rw [walk_nil] at h
    cases h
  | stay k l rest ih =>
    rw [walk_here] at h
    exact ih h
  | rise k l rest ih =>
    rw [walk_up] at h
    exact ih h
  | long k l step rest h1 h2 h3 =>
    rw [walk_long h1 h2 h3] at h
    cases h
  | enter k l step rest hs hd ih =>
    rw [walk_directory hs hd] at h
    exact ih h
  | file k l step rest c hs hf =>
    rw [walk_file hs hf] at h
    split_ifs at h
    cases h
  | tired l step rest target hs hl =>
    rw [walk_link_zero hs hl] at h
    cases h
  | follow k l step rest target hs hl ih =>
    rw [walk_link hs hl] at h
    exact ih h
  | missing k l step rest hs hnone =>
    rw [walk_missing hs hnone] at h
    split_ifs at h
    cases h
    exact hnone

/-- What a path leads to, it leads to along its steps; and what a slash ends is a directory. -/
theorem find_eq_ok_iff {node : Node} : t.find folder path = .ok (l, node) ↔
    checkPath path = .ok () ∧
      walk t linkLimit (start folder path) (steps path) = .ok (l, true) ∧
      t.get? l = some node ∧ (endsInSlash path = true → node = .directory) := by
  constructor
  · intro hfind
    unfold find resolve at hfind
    obtain ⟨⟨l', found⟩, hresolve, hnode⟩ := exists_of_bind_ok hfind
    obtain ⟨u, hcheck, hresolve⟩ := exists_of_bind_ok hresolve
    obtain ⟨⟨l'', found'⟩, hwalk, hresolve⟩ := exists_of_bind_ok hresolve
    simp only at hresolve
    split_ifs at hresolve with hslash
    cases hresolve
    cases hl : t.get? l' with
    | none =>
      simp only [hl] at hnode
      cases hnode
    | some node' =>
      simp only [hl] at hnode
      cases hnode
      cases found with
      | false =>
        rw [get?_of_walk hwalk] at hl
        cases hl
      | true =>
        refine ⟨hcheck, hwalk, hl, fun hends => ?_⟩
        simpa [hends, hl] using hslash
  · rintro ⟨hcheck, hwalk, hnode, hslash⟩
    unfold find resolve
    by_cases hends : endsInSlash path = true
    · obtain rfl := hslash hends
      simp [hcheck, hwalk, hnode, bind, Except.bind, pure, Except.pure]
    · simp [hcheck, hwalk, hnode, hends, bind, Except.bind, pure, Except.pure]

theorem isDirectory_iff : t.isDirectory folder path = true ↔
    ∃ l, t.find folder path = .ok (l, .directory) := by
  unfold isDirectory
  split
  · exact ⟨fun _ => ⟨_, ‹_›⟩, fun _ => rfl⟩
  · rename_i hother
    refine ⟨Bool.noConfusion, ?_⟩
    rintro ⟨l, hl⟩
    exact absurd hl (hother l)

/-- Where a path leads to a directory already, none is made. -/
theorem makeDirectory_of_isDirectory (h : t.isDirectory folder path = true) :
    ∃ fault, t.makeDirectory folder path = .error fault := by
  cases hmake : t.makeDirectory folder path with
  | error fault => exact ⟨fault, rfl⟩
  | ok t' =>
    -- the walk to that directory would end at a name that is missing
    exfalso
    obtain ⟨l, hfind⟩ := isDirectory_iff.mp h
    obtain ⟨-, hwalk, -⟩ := find_eq_ok_iff.mp hfind
    obtain ⟨before, o, name, hmakes⟩ := makeDirectory_spec hmake
    have hl : Leads t (start folder path) (before ++ [name]) l := ⟨_, hmakes.steps_eq ▸ hwalk⟩
    obtain ⟨o', ho', j, hj⟩ := leads_append hl
    obtain rfl := leads_unique ho' hmakes.leads
    rw [walk_missing hmakes.isName hmakes.missing, if_pos rfl] at hj
    cases congrArg Prod.snd (Except.ok.inj hj)

theorem ensureLast_of_isDirectory (h : t.isDirectory folder path = true) :
    t.ensureLast folder path = (.ok (), t) := by
  obtain ⟨fault, hmake⟩ := makeDirectory_of_isDirectory h
  unfold ensureLast
  rw [hmake]
  exact if_pos h

/-! ## Trees with more nodes -/

/-- Every node of the second tree is one of the first, or is of the kinds `K` and stands where
    nothing was. -/
structure Adds (K : Node → Prop) (t t' : FileTree) : Prop where
  grows : Grows t t'
  added : ∀ l node, t'.get? l = some node → t.get? l = some node ∨ t.get? l = none ∧ K node

namespace Adds

theorem refl (t : FileTree) : Adds K t t := ⟨.refl t, fun _ _ => Or.inl⟩

theorem trans (h : Adds K t t') (h' : Adds K t' t'') : Adds K t t'' := by
  refine ⟨h.grows.trans h'.grows, fun l node hl => ?_⟩
  rcases h'.added l node hl with hl' | ⟨hnone, hK⟩
  · exact h.added l node hl'
  · refine Or.inr ⟨?_, hK⟩
    cases ht : t.get? l with
    | none => rfl
    | some old =>
      rw [h.grows l old ht] at hnone
      cases hnone

/-- A path that has led to a node leads to the same one. -/
theorem find {node : Node} (h : Adds K t t') (hfind : t.find folder path = .ok (l, node)) :
    t'.find folder path = .ok (l, node) := by
  obtain ⟨hcheck, hwalk, hnode, hslash⟩ := find_eq_ok_iff.mp hfind
  exact find_eq_ok_iff.mpr
    ⟨hcheck, walk_of_grows hwalk h.grows (Nat.le_refl _), h.grows l node hnode, hslash⟩

end Adds

theorem adds_put (hl : t.get? l = none) {node : Node} (hK : K node) : Adds K t (t.put l node) := by
  refine ⟨grows_put hl node, fun l' node' hl' => ?_⟩
  by_cases he : l' = l
  · subst he
    rw [get?_put_of_none hl node] at hl'
    cases hl'
    exact Or.inr ⟨hl, hK⟩
  · rw [get?_put_of_ne t he] at hl'
    exact Or.inl hl'

theorem Makes.adds {a before : List Bytes} {node : Node} {o : Location} {name : FileName}
    (h : Makes t l a node t' before o name) (hK : K node) : Adds K t t' :=
  h.eq_put ▸ adds_put h.missing hK

/-- A node that is made is a new one. -/
theorem Makes.not_grows {a before : List Bytes} {node : Node} {o : Location} {name : FileName}
    (h : Makes t l a node t' before o name) : ¬ Grows t' t := by
  intro hg
  have := hg _ _ h.get?_self
  rw [h.missing] at this
  cases this

/-! ## Making directories -/

theorem adds_ensureLast (t : FileTree) (folder : Location) (path : Bytes) :
    Adds (· = .directory) t (t.ensureLast folder path).2 := by
  unfold ensureLast
  cases hmake : t.makeDirectory folder path with
  | ok t' =>
    obtain ⟨before, o, name, hmakes⟩ := makeDirectory_spec hmake
    exact hmakes.adds rfl
  | error fault =>
    simp only
    split_ifs
    · exact .refl t
    · exact .refl t

/-- Where a call succeeds and adds nothing, the directory was there. -/
theorem isDirectory_of_ensureLast (h : t.ensureLast folder path = (.ok (), t')) (hg : Grows t' t) :
    t.isDirectory folder path = true := by
  unfold ensureLast at h
  cases hmake : t.makeDirectory folder path with
  | ok t₁ =>
    rw [hmake] at h
    cases h
    obtain ⟨before, o, name, hmakes⟩ := makeDirectory_spec hmake
    exact absurd hg hmakes.not_grows
  | error fault =>
    rw [hmake] at h
    simp only at h
    split_ifs at h with hdir
    · exact hdir
    · cases h

/-- Making the directories of a path is making the last one, or first those above it. -/
theorem makeDirectories_succ (t : FileTree) (folder : Location) {path : List Char}
    (hpath : path ≠ []) (fuel : Nat) :
    t.makeDirectories folder path (fuel + 1) = t.ensureLast folder (Utf8.encodeChars path) ∨
      (∃ fault, t.makeDirectories folder path (fuel + 1) = (.error fault, t)) ∨
      ∃ parent r t₁, t.makeDirectories folder parent fuel = (r, t₁) ∧
        t.makeDirectories folder path (fuel + 1) =
          if r.isOk then t₁.ensureLast folder (Utf8.encodeChars path) else (r, t₁) := by
  rw [makeDirectories, if_neg hpath]
  split
  · rename_i t₁ hmissing
    obtain rfl : t₁ = t := by
      unfold ensureLast at hmissing
      split at hmissing
      · cases hmissing
      · split_ifs at hmissing
        · cases hmissing
        · cases hmissing
          rfl
    split
    · exact Or.inr (Or.inl ⟨_, rfl⟩)
    · rename_i parent hparent
      refine Or.inr (Or.inr ⟨parent, _, _, rfl, ?_⟩)
      rcases t₁.makeDirectories folder parent fuel with ⟨_ | _, t₂⟩ <;> rfl
  · exact Or.inl rfl

theorem adds_makeDirectories (t : FileTree) (folder : Location) (path : List Char) (fuel : Nat) :
    Adds (· = .directory) t (t.makeDirectories folder path fuel).2 := by
  induction fuel generalizing path with
  | zero => exact .refl t
  | succ fuel ih =>
    by_cases hpath : path = []
    · rw [makeDirectories, if_pos hpath]
      exact .refl t
    rcases makeDirectories_succ t folder hpath fuel with
      hlast | ⟨fault, hfault⟩ | ⟨parent, r, t₁, hparent, hrest⟩
    · rw [hlast]
      exact adds_ensureLast t folder _
    · rw [hfault]
      exact .refl t
    · have habove := ih parent
      rw [hparent] at habove
      rw [hrest]
      split_ifs
      · exact habove.trans (adds_ensureLast t₁ folder _)
      · exact habove

/-- Making a directory and those above it adds directories only, also where it fails. -/
theorem adds_ensureDirectory (t : FileTree) (folder : Location) (path : String) :
    Adds (· = .directory) t (t.ensureDirectory folder path).2 :=
  adds_makeDirectories t folder path.toList _

/-- Making a directory and those above it succeeds and changes nothing exactly where there is
    nothing to make. -/
theorem ensureDirectory_eq_self_iff {path : String} :
    t.ensureDirectory folder path = (.ok (), t) ↔
      path = "" ∨ t.isDirectory folder (Utf8.encode path) = true := by
  unfold ensureDirectory Utf8.encode
  by_cases hpath : path.toList = []
  · rw [makeDirectories, if_pos hpath]
    exact ⟨fun _ => Or.inl (String.toList_eq_nil_iff.mp hpath), fun _ => rfl⟩
  have hne : path ≠ "" := fun he => hpath (String.toList_eq_nil_iff.mpr he)
  constructor
  · intro hsame
    right
    rcases makeDirectories_succ t folder hpath (path.length + 1) with
      hlast | ⟨fault, hfault⟩ | ⟨parent, r, t₁, hparent, hrest⟩
    · exact isDirectory_of_ensureLast (hlast.symm.trans hsame) (.refl t)
    · rw [hfault] at hsame
      cases hsame
    · rw [hrest] at hsame
      have habove := adds_makeDirectories t folder parent (path.length + 1)
      rw [hparent] at habove
      split_ifs at hsame with hok
      · have hdir := isDirectory_of_ensureLast hsame habove.grows
        rw [ensureLast_of_isDirectory hdir] at hsame
        cases hsame
        exact hdir
      · cases hsame
        cases hok rfl
  · rintro (he | hdir)
    · exact absurd he hne
    · rw [makeDirectories, if_neg hpath, ensureLast_of_isDirectory hdir]

end DataStaging.FileTree
