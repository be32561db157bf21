import DataStaging.Proofs.Files.Walk
import Mathlib.Data.List.Forall2

/-!
# Trees that differ in the contents of files

Two trees have the same nodes, but for what some of their files contain. Walks read directories and
links only, so each path leads to the same location in both trees, and what is made in one of them
is made in the other.

Results:
* `walk_eq`, `resolveEntry_eq`, `list_eq`: where paths lead, and what is there.
* `ensureDirectory_sameBut`: making directories.
-/

namespace DataStaging

namespace FileTree

/-- The nodes at a location are the same, or both are files and may differ there. -/
def SameNode (but : Location → Prop) (e e' : Location × Node) : Prop :=
  e.1 = e'.1 ∧ (e.2 = e'.2 ∨ but e.1 ∧ ∃ c c', e.2 = .file c ∧ e'.2 = .file c')

/-- The trees have the same nodes, but for the contents of files at some locations. -/
def SameBut (but : Location → Prop) (t t' : FileTree) : Prop :=
  List.Forall₂ (SameNode but) t.nodes t'.nodes

variable {but : Location → Prop} {t t' : FileTree} {folder l : Location} {path : Bytes}

theorem sameBut_refl (t : FileTree) : SameBut but t t :=
  List.forall₂_same.mpr fun _ _ => ⟨rfl, Or.inl rfl⟩

/-- Where no location is left out, the trees are the same. -/
theorem eq_of_sameBut (h : SameBut (fun _ => False) t t') : t = t' := by
  have hnodes : List.Forall₂ Eq t.nodes t'.nodes := h.imp fun e e' he =>
    Prod.ext he.1 (he.2.resolve_right fun hf => hf.1)
  obtain ⟨nodes⟩ := t
  obtain ⟨nodes'⟩ := t'
  exact congrArg FileTree.mk (List.forall₂_eq_eq_eq ▸ hnodes)

/-! ## Where paths lead -/

/-- At each location there is the same node in both trees, or a file in each. -/
theorem get?_cases (h : SameBut but t t') (l : Location) :
    t'.get? l = t.get? l ∨ ∃ c c', t.get? l = some (.file c) ∧ t'.get? l = some (.file c') := by
  obtain ⟨nodes⟩ := t
  obtain ⟨nodes'⟩ := t'
  replace h : List.Forall₂ (SameNode but) nodes nodes' := h
  unfold get?
  split_ifs
  · exact Or.inl rfl
  · simp only
    induction h with
    | nil => exact Or.inl rfl
    | @cons e e' _ _ he _ ih =>
      rw [List.find?_cons, List.find?_cons, ← he.1]
      cases e.1 == l with
      | false => exact ih
      | true =>
        rcases he.2 with hsame | ⟨-, c, c', hc, hc'⟩
        · exact Or.inl (congrArg some hsame.symm)
        · exact Or.inr ⟨c, c', congrArg some hc, congrArg some hc'⟩

theorem names_eq (h : SameBut but t t') (l : Location) : t'.names l = t.names l := by
  obtain ⟨nodes⟩ := t
  obtain ⟨nodes'⟩ := t'
  replace h : List.Forall₂ (SameNode but) nodes nodes' := h
  unfold names
  simp only
  induction h with
  | nil => rfl
  | cons he _ ih => rw [List.filterMap_cons, List.filterMap_cons, he.1, ih]

theorem get?_of_not_file (h : SameBut but t t') {node? : Option Node} (hl : t.get? l = node?)
    (hfile : ∀ c, node? ≠ some (.file c)) : t'.get? l = node? := by
  rcases get?_cases h l with hsame | ⟨c, -, hc, -⟩
  · rw [hsame, hl]
  · exact absurd (hl.symm.trans hc) (hfile c)

theorem get?_of_file (h : SameBut but t t') {c : Bytes} (hl : t.get? l = some (.file c)) :
    ∃ c', t'.get? l = some (.file c') := by
  rcases get?_cases h l with hsame | ⟨-, c', -, hc'⟩
  · exact ⟨c, hsame.trans hl⟩
  · exact ⟨c', hc'⟩

theorem get?_eq_directory_iff (h : SameBut but t t') :
    t'.get? l = some .directory ↔ t.get? l = some .directory := by
  rcases get?_cases h l with hsame | ⟨c, c', hc, hc'⟩
  · rw [hsame]
  · simp [hc, hc']

theorem isSome_get?_eq (h : SameBut but t t') : (t'.get? l).isSome = (t.get? l).isSome := by
  rcases get?_cases h l with hsame | ⟨c, c', hc, hc'⟩
  · rw [hsame]
  · rw [hc, hc']
    rfl

/-- A walk reads no file. -/
theorem walk_eq (h : SameBut but t t') (links : Nat) (l : Location) (steps : List Bytes) :
    t'.walk links l steps = t.walk links l steps := by
  induction links, l, steps using walk_induct t with
  | done k l => rw [walk_nil, walk_nil]
  | stay k l rest ih => rw [walk_here, walk_here, ih]
  | rise k l rest ih => rw [walk_up, walk_up, ih]
  | long k l step rest h1 h2 h3 => rw [walk_long h1 h2 h3, walk_long h1 h2 h3]
  | enter k l step rest hs hd ih =>
    rw [walk_directory hs hd, walk_directory hs (get?_of_not_file h hd (by simp)), ih]
  | file k l step rest c hs hf =>
    obtain ⟨c', hf'⟩ := get?_of_file h hf
    rw [walk_file hs hf, walk_file hs hf']
  | tired l step rest target hs hl =>
    rw [walk_link_zero hs hl, walk_link_zero hs (get?_of_not_file h hl (by simp))]
  | follow k l step rest target hs hl ih =>
    rw [walk_link hs hl, walk_link hs (get?_of_not_file h hl (by simp)), ih]
  | missing k l step rest hs hm =>
    rw [walk_missing hs hm, walk_missing hs (get?_of_not_file h hm (by simp))]

theorem resolve_eq (h : SameBut but t t') : t'.resolve folder path = t.resolve folder path := by
  unfold resolve
  simp only [walk_eq h, ne_eq, get?_eq_directory_iff h]

theorem resolveEntry_eq (h : SameBut but t t') :
    t'.resolveEntry folder path = t.resolveEntry folder path := by
  unfold resolveEntry
  simp only [walk_eq h, ne_eq, get?_eq_directory_iff h]

/-- A path leads to the same node in both trees, or to a file in each. -/
theorem find_cases (h : SameBut but t t') (folder : Location) (path : Bytes) :
    t'.find folder path = t.find folder path ∨
      ∃ l c c', t.find folder path = .ok (l, .file c) ∧
        t'.find folder path = .ok (l, .file c') := by
  unfold find
  rw [resolve_eq h]
  rcases t.resolve folder path with fault | ⟨l, found⟩
  · exact Or.inl rfl
  · simp only [bind, Except.bind]
    rcases get?_cases h l with hsame | ⟨c, c', hc, hc'⟩
    · rw [hsame]
      exact Or.inl rfl
    · rw [hc, hc']
      exact Or.inr ⟨l, c, c', rfl, rfl⟩

theorem isDirectory_eq (h : SameBut but t t') :
    t'.isDirectory folder path = t.isDirectory folder path := by
  unfold isDirectory
  rcases find_cases h folder path with hsame | ⟨l, c, c', hc, hc'⟩
  · rw [hsame]
  · rw [hc, hc']

theorem list_eq (h : SameBut but t t') : t'.list folder path = t.list folder path := by
  unfold list
  rcases find_cases h folder path with hsame | ⟨l, c, c', hc, hc'⟩
  · rw [hsame]
    rcases t.find folder path with fault | ⟨l, node⟩
    · rfl
    · cases node with
      | directory => exact congrArg Except.ok (names_eq h l)
      | file c | link target => rfl
  · rw [hc, hc']
    rfl

/-! ## Making directories -/

theorem sameBut_put (h : SameBut but t t') (l : Location) (node : Node) :
    SameBut but (t.put l node) (t'.put l node) := by
  refine List.Forall₂.cons ⟨rfl, Or.inl rfl⟩ ?_
  obtain ⟨nodes⟩ := t
  obtain ⟨nodes'⟩ := t'
  replace h : List.Forall₂ (SameNode but) nodes nodes' := h
  simp only
  induction h with
  | nil => exact .nil
  | @cons e e' _ _ he _ ih =>
    rw [List.filter_cons, List.filter_cons, ← he.1]
    split_ifs
    · exact .cons he ih
    · exact ih

/-- Both operations fail alike, or come to trees that are alike. -/
def SameOutcome (but : Location → Prop) (r r' : Except IoFault Unit × FileTree) : Prop :=
  r'.1 = r.1 ∧ SameBut but r.2 r'.2

theorem makeDirectory_sameBut (h : SameBut but t t') (folder : Location) (path : Bytes) :
    (∃ fault, t.makeDirectory folder path = .error fault ∧
      t'.makeDirectory folder path = .error fault) ∨
    ∃ t₁ t₁', t.makeDirectory folder path = .ok t₁ ∧ t'.makeDirectory folder path = .ok t₁' ∧
      SameBut but t₁ t₁' := by
  unfold makeDirectory
  rw [resolveEntry_eq h]
  cases t.resolveEntry folder path with
  | error fault => exact Or.inl ⟨fault, rfl, rfl⟩
  | ok l =>
    simp only [bind, Except.bind, isSome_get?_eq h]
    split_ifs
    · exact Or.inl ⟨.exists, rfl, rfl⟩
    · exact Or.inr ⟨_, _, rfl, rfl, sameBut_put h l .directory⟩

theorem ensureLast_sameBut (h : SameBut but t t') (folder : Location) (path : Bytes) :
    SameOutcome but (t.ensureLast folder path) (t'.ensureLast folder path) := by
  unfold ensureLast
  rcases makeDirectory_sameBut h folder path with ⟨fault, hf, hf'⟩ | ⟨t₁, t₁', ht, ht', hsame⟩
  · rw [hf, hf']
    simp only [isDirectory_eq h]
    split_ifs <;> exact ⟨rfl, h⟩
  · rw [ht, ht']
    exact ⟨rfl, hsame⟩

theorem makeDirectories_sameBut (h : SameBut but t t') (path : List Char) (fuel : Nat) :
    SameOutcome but (t.makeDirectories folder path fuel) (t'.makeDirectories folder path fuel) := by
  induction fuel generalizing path t t' with
  | zero => exact ⟨rfl, h⟩
  | succ fuel ih =>
    rw [makeDirectories, makeDirectories]
    split_ifs with hnil
    · exact ⟨rfl, h⟩
    obtain ⟨hlast, htrees⟩ := ensureLast_sameBut h folder (Utf8.encodeChars path)
    rcases hmade : t.ensureLast folder (Utf8.encodeChars path) with ⟨r, t₁⟩
    rcases hmade' : t'.ensureLast folder (Utf8.encodeChars path) with ⟨r', t₁'⟩
    rw [hmade, hmade'] at hlast htrees
    obtain rfl : r' = r := hlast
    replace htrees : SameBut but t₁ t₁' := htrees
    by_cases hmissing : r' = .error .notFound
    · subst hmissing
      cases Path.parent? path with
      | none => exact ⟨rfl, htrees⟩
      | some parent =>
        obtain ⟨habove, htrees₂⟩ := ih htrees parent
        simp only
        rcases hup : t₁.makeDirectories folder parent fuel with ⟨r, t₂⟩
        rcases hup' : t₁'.makeDirectories folder parent fuel with ⟨r', t₂'⟩
        rw [hup, hup'] at habove htrees₂
        obtain rfl : r' = r := habove
        cases r' with
        | error fault => exact ⟨rfl, htrees₂⟩
        | ok u => exact ensureLast_sameBut htrees₂ folder (Utf8.encodeChars path)
    · -- nothing more is made
      rcases r' with fault | u
      · cases fault <;> first | exact ⟨rfl, htrees⟩ | exact absurd rfl hmissing
      · exact ⟨rfl, htrees⟩

theorem ensureDirectory_sameBut (h : SameBut but t t') (folder : Location) (path : String) :
    SameOutcome but (t.ensureDirectory folder path) (t'.ensureDirectory folder path) :=
  makeDirectories_sameBut h path.toList (path.length + 2)

end FileTree

end DataStaging
