import DataStaging.Host.FileTree
import DataStaging.Proofs.Outcome
import Mathlib.Tactic.Common

/-!
# Walks

A walk along some steps goes on from where it stands when steps are added, and a tree that has
grown has the walks of the tree before. So the location that some steps lead to is a matter of the
steps and the tree, not of the links that a walk may follow.

Results:
* `leads_append`: steps lead where their first part and then their second part lead.
* `leads_unique`: steps lead to one location at most.
* `leads_of_grows`: nodes that are added change no walk that has found its end.
* `leads_named`: a walk that leaves the folder it starts from has met a link, unless it was told to
  go upward.
* `makeDirectory_spec`, `makeLink_spec`: the one node that a call makes.
-/

namespace DataStaging.FileTree

variable {t t' t'' : FileTree} {k k' : Nat} {l l' : Location} {a b : List Bytes}

/-! ## Trees that have grown -/

/-- Every node of the first tree is in the second one. -/
def Grows (t t' : FileTree) : Prop := ∀ l node, t.get? l = some node → t'.get? l = some node

theorem Grows.refl (t : FileTree) : Grows t t := fun _ _ h => h

theorem Grows.trans (h : Grows t t') (h' : Grows t' t'') : Grows t t'' :=
  fun l node hl => h' l node (h l node hl)

theorem grows_put {l : Location} (hl : t.get? l = none) (node : Node) : Grows t (t.put l node) := by
  intro l' node' h
  have hne : l' ≠ l := by
    rintro rfl
    rw [hl] at h
    cases h
  rwa [get?_put_of_ne t hne]

theorem get?_put_of_none {l : Location} (hl : t.get? l = none) (node : Node) :
    (t.put l node).get? l = some node := by
  refine get?_put_self t ?_ node
  rintro rfl
  cases hl

/-! ## One step of a walk -/

/-- A step that names something in a directory. -/
structure IsName (step : Bytes) : Prop where
  ne_here : step ≠ here
  ne_up : step ≠ up
  length_le : ¬ nameLimit < step.length

theorem walk_nil (t : FileTree) (k : Nat) (l : Location) : walk t k l [] = .ok (l, true) := by
  cases k <;> rfl

theorem walk_here (t : FileTree) (k : Nat) (l : Location) (rest : List Bytes) :
    walk t k l (here :: rest) = walk t k l rest := by
  cases k <;> rw [walk, walkSteps, if_pos rfl]

theorem walk_up (t : FileTree) (k : Nat) (l : Location) (rest : List Bytes) :
    walk t k l (up :: rest) = walk t k l.dropLast rest := by
  cases k <;> rw [walk, walkSteps, if_neg (by decide), if_pos rfl]

variable {step : Bytes} {rest : List Bytes}

theorem walk_long (h1 : step ≠ here) (h2 : step ≠ up) (h3 : nameLimit < step.length) :
    walk t k l (step :: rest) = .error .nameTooLong := by
  cases k <;> rw [walk, walkSteps, if_neg h1, if_neg h2, if_pos h3]

theorem walk_directory (hs : IsName step) (h : t.get? (l ++ [step]) = some .directory) :
    walk t k l (step :: rest) = walk t k (l ++ [step]) rest := by
  cases k <;>
    rw [walk, walkSteps, if_neg hs.ne_here, if_neg hs.ne_up, if_neg hs.length_le, h]

theorem walk_file (hs : IsName step) {contents : Bytes}
    (h : t.get? (l ++ [step]) = some (.file contents)) :
    walk t k l (step :: rest) =
      if rest = [] then .ok (l ++ [step], true) else .error .notDirectory := by
  cases k <;>
    rw [walk, walkSteps, if_neg hs.ne_here, if_neg hs.ne_up, if_neg hs.length_le, h]

theorem walk_link_zero (hs : IsName step) {target : Bytes}
    (h : t.get? (l ++ [step]) = some (.link target)) :
    walk t 0 l (step :: rest) = .error .tooManyLinks := by
  rw [walk, walkSteps, if_neg hs.ne_here, if_neg hs.ne_up, if_neg hs.length_le, h]

theorem walk_link (hs : IsName step) {target : Bytes}
    (h : t.get? (l ++ [step]) = some (.link target)) :
    walk t (k + 1) l (step :: rest) =
      walk t k (targetStart l target) (targetSteps target ++ rest) := by
  rw [walk, walkSteps, if_neg hs.ne_here, if_neg hs.ne_up, if_neg hs.length_le, h]

theorem walk_missing (hs : IsName step) (h : t.get? (l ++ [step]) = none) :
    walk t k l (step :: rest) =
      if rest = [] then .ok (l ++ [step], false) else .error .notFound := by
  cases k <;>
    rw [walk, walkSteps, if_neg hs.ne_here, if_neg hs.ne_up, if_neg hs.length_le, h]

/-- Induction along a walk: on the links that are left, and between two of them on the steps. -/
theorem walk_induct (t : FileTree) {motive : Nat → Location → List Bytes → Prop}
    (done : ∀ k l, motive k l [])
    (stay : ∀ k l rest, motive k l rest → motive k l (here :: rest))
    (rise : ∀ k l rest, motive k l.dropLast rest → motive k l (up :: rest))
    (long : ∀ k l step rest, step ≠ here → step ≠ up → nameLimit < step.length →
      motive k l (step :: rest))
    (enter : ∀ k l step rest, IsName step → t.get? (l ++ [step]) = some .directory →
      motive k (l ++ [step]) rest → motive k l (step :: rest))
    (file : ∀ k l step rest contents, IsName step → t.get? (l ++ [step]) = some (.file contents) →
      motive k l (step :: rest))
    (tired : ∀ l step rest target, IsName step → t.get? (l ++ [step]) = some (.link target) →
      motive 0 l (step :: rest))
    (follow : ∀ k l step rest target, IsName step → t.get? (l ++ [step]) = some (.link target) →
      motive k (targetStart l target) (targetSteps target ++ rest) →
      motive (k + 1) l (step :: rest))
    (missing : ∀ k l step rest, IsName step → t.get? (l ++ [step]) = none →
      motive k l (step :: rest)) (k : Nat) (l : Location) (a : List Bytes) : motive k l a := by
  have between : ∀ k, (∀ l step rest target, IsName step →
      t.get? (l ++ [step]) = some (.link target) → motive k l (step :: rest)) →
      ∀ l a, motive k l a := by
    intro k hlink l a
    induction a generalizing l with
    | nil => exact done k l
    | cons step rest ih =>
      by_cases h1 : step = here
      · exact h1 ▸ stay k l rest (ih l)
      by_cases h2 : step = up
      · exact h2 ▸ rise k l rest (ih l.dropLast)
      by_cases h3 : nameLimit < step.length
      · exact long k l step rest h1 h2 h3
      have hs : IsName step := ⟨h1, h2, h3⟩
      cases hnode : t.get? (l ++ [step]) with
      | none => exact missing k l step rest hs hnode
      | some node =>
        cases node with
        | directory => exact enter k l step rest hs hnode (ih _)
        | file contents => exact file k l step rest contents hs hnode
        | link target => exact hlink l step rest target hs hnode
  induction k generalizing l a with
  | zero => exact between 0 tired l a
  | succ k ih =>
    exact between (k + 1)
      (fun l step rest target hs hl => follow k l step rest target hs hl (ih _ _)) l a

/-- The way of a walk that has found its end at `l'`. -/
inductive Arrives (t : FileTree) (l' : Location) : Nat → Location → List Bytes → Prop where
  | done (k : Nat) : Arrives t l' k l' []
  | stay {k : Nat} {l : Location} {rest : List Bytes} : Arrives t l' k l rest →
      Arrives t l' k l (here :: rest)
  | rise {k : Nat} {l : Location} {rest : List Bytes} : Arrives t l' k l.dropLast rest →
      Arrives t l' k l (up :: rest)
  | enter {k : Nat} {l : Location} {step : Bytes} {rest : List Bytes} : IsName step →
      t.get? (l ++ [step]) = some .directory → Arrives t l' k (l ++ [step]) rest →
      Arrives t l' k l (step :: rest)
  | file {k : Nat} {l : Location} {step contents : Bytes} : IsName step →
      t.get? (l ++ [step]) = some (.file contents) → l' = l ++ [step] → Arrives t l' k l [step]
  | follow {k : Nat} {l : Location} {step target : Bytes} {rest : List Bytes} : IsName step →
      t.get? (l ++ [step]) = some (.link target) →
      Arrives t l' k (targetStart l target) (targetSteps target ++ rest) →
      Arrives t l' (k + 1) l (step :: rest)

theorem arrives_of_walk (h : walk t k l a = .ok (l', true)) : Arrives t l' k l a := by
  induction k, l, a using walk_induct t with
  | done k l =>
    rw [walk_nil] at h
    cases h
    exact .done k
  | stay k l rest ih =>
    rw [walk_here] at h
    exact .stay (ih h)
  | rise k l rest ih =>
    rw [walk_up] at h
    exact .rise (ih h)
  | long k l step rest h1 h2 h3 =>
    rw [walk_long h1 h2 h3] at h
    cases h
  | enter k l step rest hs hd ih =>
    rw [walk_directory hs hd] at h
    exact .enter hs hd (ih h)
  | file k l step rest c hs hf =>
    rw [walk_file hs hf] at h
    split_ifs at h with hrest
    cases h
    exact hrest ▸ .file hs hf rfl
  | tired l step rest target hs hl =>
    rw [walk_link_zero hs hl] at h
    cases h
  | follow k l step rest target hs hl ih =>
    rw [walk_link hs hl] at h
    exact .follow hs hl (ih h)
  | missing k l step rest hs hnone =>
    rw [walk_missing hs hnone] at h
    split_ifs at h
    cases h

/-! ## Walks with more links, in a larger tree -/

/-- A walk that has found its end is the same walk in a tree that has grown, and with more links to
    follow. -/
theorem walk_of_grows (h : walk t k l a = .ok (l', true)) (hg : Grows t t') (hk : k ≤ k') :
    walk t' k' l a = .ok (l', true) := by
  replace h := arrives_of_walk h
  induction h generalizing k' with
  | done k => exact walk_nil t' k' l'
  | stay _ ih =>
    rw [walk_here]
    exact ih hk
  | rise _ ih =>
    rw [walk_up]
    exact ih hk
  | enter hs hd _ ih =>
    rw [walk_directory hs (hg _ _ hd)]
    exact ih hk
  | file hs hf hl' => rw [walk_file hs (hg _ _ hf), if_pos rfl, hl']
  | follow hs hl _ ih =>
    obtain ⟨j, rfl⟩ : ∃ j, k' = j + 1 := ⟨k' - 1, by omega⟩
    rw [walk_link hs (hg _ _ hl)]
    exact ih (by omega)

/-! ## Walks with more steps -/

/-- A walk that fails on the way fails. -/
theorem walk_append_error {fault : IoFault} (h : walk t k l a = .error fault) (b : List Bytes) :
    walk t k l (a ++ b) = .error fault := by
  induction k, l, a using walk_induct t with
  | done k l =>
    rw [walk_nil] at h
    cases h
  | stay k l rest ih =>
    rw [walk_here] at h
    rw [List.cons_append, walk_here]
    exact ih h
  | rise k l rest ih =>
    rw [walk_up] at h
    rw [List.cons_append, walk_up]
    exact ih h
  | long k l step rest h1 h2 h3 =>
    rw [walk_long h1 h2 h3] at h
    rw [List.cons_append, walk_long h1 h2 h3]
    exact h
  | enter k l step rest hs hd ih =>
    rw [walk_directory hs hd] at h
    rw [List.cons_append, walk_directory hs hd]
    exact ih h
  | file k l step rest c hs hf =>
    rw [walk_file hs hf] at h
    split_ifs at h with hrest
    rw [List.cons_append, walk_file hs hf, if_neg (by simp [hrest])]
    exact h
  | tired l step rest target hs hl =>
    rw [walk_link_zero hs hl] at h
    rw [List.cons_append, walk_link_zero hs hl]
    exact h
  | follow k l step rest target hs hl ih =>
    rw [walk_link hs hl] at h
    rw [List.cons_append, walk_link hs hl, ← List.append_assoc]
    exact ih h
  | missing k l step rest hs hnone =>
    rw [walk_missing hs hnone] at h
    split_ifs at h with hrest
    rw [List.cons_append, walk_missing hs hnone, if_neg (by simp [hrest])]
    exact h

/-- A walk goes no further than a name that is missing. -/
theorem walk_append_missing (h : walk t k l a = .ok (l', false)) (hb : b ≠ []) :
    walk t k l (a ++ b) = .error .notFound := by
  induction k, l, a using walk_induct t with
  | done k l =>
    rw [walk_nil] at h
    cases h
  | stay k l rest ih =>
    rw [walk_here] at h
    rw [List.cons_append, walk_here]
    exact ih h
  | rise k l rest ih =>
    rw [walk_up] at h
    rw [List.cons_append, walk_up]
    exact ih h
  | long k l step rest h1 h2 h3 =>
    rw [walk_long h1 h2 h3] at h
    cases h
  | enter k l step rest hs hd ih =>
    rw [walk_directory hs hd] at h
    rw [List.cons_append, walk_directory hs hd]
    exact ih h
  | file k l step rest c hs hf =>
    rw [walk_file hs hf] at h
    split_ifs at h
    cases h
  | tired l step rest target hs hl =>
    rw [walk_link_zero hs hl] at h
    cases h
  | follow k l step rest target hs hl ih =>
    rw [walk_link hs hl] at h
    rw [List.cons_append, walk_link hs hl, ← List.append_assoc]
    exact ih h
  | missing k l step rest hs hnone =>
    rw [walk_missing hs hnone] at h
    split_ifs at h with hrest
    rw [hrest, List.cons_append, walk_missing hs hnone, List.nil_append, if_neg hb]

/-- A walk goes on from where its first steps have led, with the links it has left, unless that is a
    file. -/
theorem walk_append_found (h : walk t k l a = .ok (l', true)) (hb : b ≠ []) :
    (∃ j, j ≤ k ∧ walk t k l (a ++ b) = walk t j l' b) ∨
      walk t k l (a ++ b) = .error .notDirectory := by
  replace h := arrives_of_walk h
  induction h with
  | done k => exact Or.inl ⟨k, Nat.le_refl k, rfl⟩
  | stay _ ih =>
    rw [List.cons_append, walk_here]
    exact ih
  | rise _ ih =>
    rw [List.cons_append, walk_up]
    exact ih
  | enter hs hd _ ih =>
    rw [List.cons_append, walk_directory hs hd]
    exact ih
  | file hs hf _ =>
    right
    rw [List.cons_append, walk_file hs hf, List.nil_append, if_neg hb]
  | follow hs hl _ ih =>
    rw [List.cons_append, walk_link hs hl, ← List.append_assoc]
    rcases ih with ⟨j, hj, hw⟩ | hw
    · exact Or.inl ⟨j, Nat.le_succ_of_le hj, hw⟩
    · exact Or.inr hw

/-! ## Where steps lead -/

/-- From a location, some steps lead to another one where there is something, links followed. -/
def Leads (t : FileTree) (l : Location) (a : List Bytes) (l' : Location) : Prop :=
  ∃ k, walk t k l a = .ok (l', true)

theorem leads_nil (t : FileTree) (l : Location) : Leads t l [] l := ⟨0, walk_nil t 0 l⟩

theorem leads_of_grows (h : Leads t l a l') (hg : Grows t t') : Leads t' l a l' := by
  obtain ⟨k, hk⟩ := h
  exact ⟨k, walk_of_grows hk hg (Nat.le_refl k)⟩

theorem leads_unique {l₁ l₂ : Location} (h₁ : Leads t l a l₁) (h₂ : Leads t l a l₂) : l₁ = l₂ := by
  obtain ⟨k₁, h₁⟩ := h₁
  obtain ⟨k₂, h₂⟩ := h₂
  have h₁ := walk_of_grows h₁ (.refl t) (Nat.le_max_left k₁ k₂)
  have h₂ := walk_of_grows h₂ (.refl t) (Nat.le_max_right k₁ k₂)
  rw [h₁] at h₂
  cases h₂
  rfl

/-- What steps lead to is where their second part leads to from where their first part leads to. -/
theorem leads_append (h : Leads t l (a ++ b) l') : ∃ o, Leads t l a o ∧ Leads t o b l' := by
  obtain ⟨k, hk⟩ := h
  by_cases hb : b = []
  · subst hb
    rw [List.append_nil] at hk
    exact ⟨l', ⟨k, hk⟩, leads_nil t l'⟩
  · cases ha : walk t k l a with
    | error fault =>
      rw [walk_append_error ha b] at hk
      cases hk
    | ok r =>
      obtain ⟨o, found⟩ := r
      cases found with
      | false =>
        rw [walk_append_missing ha hb] at hk
        cases hk
      | true =>
        rcases walk_append_found ha hb with ⟨j, -, hw⟩ | hw
        · rw [hw] at hk
          exact ⟨o, ⟨k, ha⟩, ⟨j, hk⟩⟩
        · rw [hw] at hk
          cases hk

/-- The links that two walks follow add up. -/
theorem walk_trans {o : Location} (h : walk t k l a = .ok (o, true))
    (ho : t.get? o = some .directory) (h' : walk t k' o b = .ok (l', true)) :
    walk t (k + k') l (a ++ b) = .ok (l', true) := by
  replace h := arrives_of_walk h
  induction h with
  | done k => exact walk_of_grows h' (.refl t) (Nat.le_add_left k' k)
  | stay _ ih =>
    rw [List.cons_append, walk_here]
    exact ih
  | rise _ ih =>
    rw [List.cons_append, walk_up]
    exact ih
  | enter hs hd _ ih =>
    rw [List.cons_append, walk_directory hs hd]
    exact ih
  | file hs hf hl =>
    rw [hl, hf] at ho
    cases ho
  | follow hs hl _ ih =>
    rw [Nat.succ_add, List.cons_append, walk_link hs hl, ← List.append_assoc]
    exact ih

theorem leads_trans {o : Location} (h : Leads t l a o) (ho : t.get? o = some .directory)
    (h' : Leads t o b l') : Leads t l (a ++ b) l' := by
  obtain ⟨k, h⟩ := h
  obtain ⟨k', h'⟩ := h'
  exact ⟨k + k', walk_trans h ho h'⟩

/-! ## Walks that meet no link -/

/-- The steps that name something. -/
def named (a : List Bytes) : List FileName := a.filter (fun step => step ≠ here)

theorem named_append (a b : List Bytes) : named (a ++ b) = named a ++ named b :=
  List.filter_append ..

theorem named_singleton {name : FileName} (h : name ≠ here) : named [name] = [name] := by
  simp [named, h]

/-- A link stands on the way along some steps, at the location that the steps up to it name. -/
def LinkOnWay (t : FileTree) (l : Location) (a : List Bytes) : Prop :=
  ∃ r name target, r ++ [name] <+: a ∧ name ≠ here ∧
    t.get? (l ++ named r ++ [name]) = some (.link target)

theorem linkOnWay_cons {step : Bytes} (h : LinkOnWay t (l ++ named [step]) a) :
    LinkOnWay t l (step :: a) := by
  obtain ⟨r, name, target, hr, hname, hl⟩ := h
  refine ⟨step :: r, name, target, List.cons_prefix_cons.mpr ⟨rfl, hr⟩, hname, ?_⟩
  rw [← List.singleton_append, named_append]
  simpa only [List.append_assoc] using hl

/-- A walk that is never told to go upward ends where its steps name, or has met a link. -/
theorem leads_named (h : Leads t l a l') (hup : up ∉ a) : l' = l ++ named a ∨ LinkOnWay t l a := by
  obtain ⟨k, h⟩ := h
  induction a generalizing l with
  | nil =>
    rw [walk_nil] at h
    cases h
    exact Or.inl (List.append_nil _).symm
  | cons step rest ih =>
    have hrest : up ∉ rest := fun hm => hup (List.mem_cons_of_mem _ hm)
    have hstep : step ≠ up := fun he => hup (he ▸ List.mem_cons_self)
    -- wherever the walk has gone one step down, it goes on from there
    have hdown : ∀ l₁, l₁ = l ++ named [step] → walk t k l₁ rest = .ok (l', true) →
        l' = l ++ named (step :: rest) ∨ LinkOnWay t l (step :: rest) := by
      rintro l₁ rfl hw
      rcases ih hrest hw with he | hlink
      · left
        rw [he, ← List.singleton_append (l := rest), named_append, List.append_assoc]
      · exact Or.inr (linkOnWay_cons hlink)
    by_cases h1 : step = here
    · rw [h1, walk_here] at h
      exact hdown l (by simp [named, h1]) h
    have hnamed : l ++ [step] = l ++ named [step] := by rw [named_singleton h1]
    by_cases h3 : nameLimit < step.length
    · rw [walk_long h1 hstep h3] at h
      cases h
    have hs : IsName step := ⟨h1, hstep, h3⟩
    cases hnode : t.get? (l ++ [step]) with
    | none =>
      rw [walk_missing hs hnode] at h
      split_ifs at h
      cases h
    | some node =>
      cases node with
      | directory =>
        rw [walk_directory hs hnode] at h
        exact hdown _ hnamed h
      | file contents =>
        rw [walk_file hs hnode] at h
        split_ifs at h with hr
        subst hr
        cases h
        exact Or.inl hnamed
      | link target =>
        right
        refine ⟨[], step, target, ?_, h1, by simpa [named] using hnode⟩
        exact List.cons_prefix_cons.mpr ⟨rfl, List.nil_prefix⟩

/-! ## Making a node -/

/-- The tree `t'` is `t` with a new node. Some steps lead there from `l`: those before the last one
    lead to the directory `o`, and the last one is the node's name. -/
structure Makes (t : FileTree) (l : Location) (a : List Bytes) (node : Node) (t' : FileTree)
    (before : List Bytes) (o : Location) (name : FileName) : Prop where
  steps_eq : a = before ++ [name]
  leads : Leads t l before o
  isDirectory : t.get? o = some .directory
  isName : IsName name
  missing : t.get? (o ++ [name]) = none
  eq_put : t' = t.put (o ++ [name]) node

namespace Makes

variable {t t' : FileTree} {l l' o : Location} {a before : List Bytes} {node : Node}
  {name : FileName}

theorem grows (h : Makes t l a node t' before o name) : Grows t t' :=
  h.eq_put ▸ grows_put h.missing node

theorem get?_self (h : Makes t l a node t' before o name) : t'.get? (o ++ [name]) = some node :=
  h.eq_put ▸ get?_put_of_none h.missing node

theorem get?_of_ne (h : Makes t l a node t' before o name) (hne : l' ≠ o ++ [name]) :
    t'.get? l' = t.get? l' :=
  h.eq_put ▸ get?_put_of_ne t hne node

/-- In the new tree the steps lead to the new directory. -/
theorem leads_self (h : Makes t l a .directory t' before o name) : Leads t' l a (o ++ [name]) := by
  rw [h.steps_eq]
  refine leads_trans (leads_of_grows h.leads h.grows) (h.grows _ _ h.isDirectory) ⟨0, ?_⟩
  rw [walk_directory h.isName h.get?_self, walk_nil]

end Makes

theorem resolveEntry_spec {folder : Location} {path : Bytes}
    (h : t.resolveEntry folder path = .ok l) :
    ∃ before o name, steps path = before ++ [name] ∧ Leads t (start folder path) before o ∧
      t.get? o = some .directory ∧ IsName name ∧ l = o ++ [name] := by
  unfold resolveEntry at h
  obtain ⟨u, -, h⟩ := exists_of_bind_ok h
  cases hlast : (steps path).getLast? with
  | none =>
    simp only [hlast] at h
    cases h
  | some name =>
    simp only [hlast] at h
    obtain ⟨⟨o, found⟩, hwalk, h⟩ := exists_of_bind_ok h
    obtain ⟨before, hbefore⟩ := List.getLast?_eq_some_iff.mp hlast
    rw [hbefore, List.dropLast_concat] at hwalk
    cases found with
    | false => cases h
    | true =>
      simp only [Bool.not_true, Bool.false_eq_true, if_false] at h
      split_ifs at h with hdir hidle hlong
      cases h
      simp only [Bool.or_eq_true, decide_eq_true_eq, not_or] at hidle
      exact ⟨before, o, name, hbefore, ⟨_, hwalk⟩, not_not.mp hdir, ⟨hidle.1, hidle.2, hlong⟩, rfl⟩

theorem makes_of_resolveEntry {folder : Location} {path : Bytes}
    (h : t.resolveEntry folder path = .ok l) (hmissing : ¬ (t.get? l).isSome) (node : Node) :
    ∃ before o name,
      Makes t (start folder path) (steps path) node (t.put l node) before o name := by
  obtain ⟨before, o, name, hsteps, hleads, hdir, hname, rfl⟩ := resolveEntry_spec h
  rw [Option.not_isSome_iff_eq_none] at hmissing
  exact ⟨before, o, name, hsteps, hleads, hdir, hname, hmissing, rfl⟩

theorem makeDirectory_spec {folder : Location} {path : Bytes}
    (h : t.makeDirectory folder path = .ok t') :
    ∃ before o name, Makes t (start folder path) (steps path) .directory t' before o name := by
  unfold makeDirectory at h
  obtain ⟨l, hl, h⟩ := exists_of_bind_ok h
  split_ifs at h with hsome
  cases h
  exact makes_of_resolveEntry hl hsome .directory

theorem makeLink_spec {folder : Location} {target path : Bytes}
    (h : t.makeLink folder target path = .ok t') :
    endsInSlash path = false ∧
      ∃ before o name,
      Makes t (start folder path) (steps path) (.link target) t' before o name := by
  unfold makeLink at h
  split_ifs at h with h1 h2 h3 hslash
  · -- a path that ends in a slash names no link
    obtain ⟨l, -, h⟩ := exists_of_bind_ok h
    split at h <;> cases h
  · obtain ⟨l, hl, h⟩ := exists_of_bind_ok h
    split_ifs at h with hsome
    cases h
    exact ⟨by simpa using hslash, makes_of_resolveEntry hl hsome (.link target)⟩

/-! ## Refusals -/

theorem resolve_error {folder : Location} {path : Bytes} {fault : IoFault}
    (h : walk t linkLimit (start folder path) (steps path) = .error fault) :
    t.isDirectory folder path = false := by
  unfold isDirectory find resolve
  cases checkPath path with
  | error fault => rfl
  | ok u =>
    rw [h]
    rfl

/-- Where no directory can be made because one on the way is missing, there is none. -/
theorem isDirectory_of_makeDirectory {folder : Location} {path : Bytes}
    (h : t.makeDirectory folder path = .error .notFound) : t.isDirectory folder path = false := by
  have hentry : t.resolveEntry folder path = .error .notFound := by
    rcases error_of_bind h with hr | ⟨l, -, h⟩
    · exact hr
    · split_ifs at h
      · cases h
      · cases h
  unfold resolveEntry at hentry
  rcases error_of_bind hentry with hcheck | ⟨u, -, hentry⟩
  · simp [isDirectory, find, resolve, hcheck, bind, Except.bind]
  · cases hlast : (steps path).getLast? with
    | none =>
      simp only [hlast] at hentry
      cases hentry
    | some name =>
      simp only [hlast] at hentry
      obtain ⟨before, hbefore⟩ := List.getLast?_eq_some_iff.mp hlast
      suffices hnone : walk t linkLimit (start folder path) (steps path) = .error .notFound from
        resolve_error hnone
      rw [hbefore]
      rw [hbefore, List.dropLast_concat] at hentry
      rcases error_of_bind hentry with hwalk | ⟨⟨o, found⟩, hwalk, hentry⟩
      · exact walk_append_error hwalk [name]
      · cases found with
        | false => exact walk_append_missing hwalk (List.cons_ne_nil _ _)
        | true =>
          -- the parent is there: what is refused then is refused for another reason
          simp only [Bool.not_true, Bool.false_eq_true, if_false] at hentry
          split_ifs at hentry <;> cases hentry

end DataStaging.FileTree
