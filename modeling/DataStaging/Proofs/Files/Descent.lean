import DataStaging.Proofs.Files.Additions
import Mathlib.Data.List.Basic

/-!
# Going down from a directory

Below a directory where nothing but directories stands on the way, a walk along names goes down step
by step, up to the first name that is missing. This decides what a call that is to make something
below that directory does: it finds it there, it makes it, or it says that something on the way is
missing.

Results:
* `walk_of_stands`, `walk_of_fallen`: a walk that goes down.
* `makeDirectory_of_stands`, `makeDirectory_of_missing`, `makeDirectory_of_fallen`: the three
  answers of a call that makes a directory.
* `makeLink_of_stands`: a link that can be made.
-/

namespace DataStaging.FileTree

variable {t t' : FileTree} {k : Nat} {l o E : Location} {a b : List Bytes} {γ : List FileName}

/-! ## Walks over a directory -/

theorem walk_append_directory (h : walk t k l a = .ok (o, true)) (ho : t.get? o = some .directory)
    (b : List Bytes) : ∃ j, walk t k l (a ++ b) = walk t j o b := by
  replace h := arrives_of_walk h
  induction h with
  | done k => exact ⟨k, rfl⟩
  | stay _ ih =>
    rw [List.cons_append, walk_here]
    exact ih
  | rise _ ih =>
    rw [List.cons_append, walk_up]
    exact ih
  | enter hs hd _ ih =>
    rw [List.cons_append, walk_directory hs hd]
    exact ih
  | file hs hf hl =>
    rw [hl, hf] at ho
    cases ho
  | follow hs hl _ ih =>
    rw [List.cons_append, walk_link hs hl, ← List.append_assoc]
    exact ih

theorem walk_idle (t : FileTree) (k : Nat) (l : Location) (hb : named b = []) :
    walk t k l b = .ok (l, true) := by
  induction b with
  | nil => exact walk_nil t k l
  | cons step rest ih =>
    have hall := List.filter_eq_nil_iff.mp hb
    obtain rfl : step = here := by simpa using hall step List.mem_cons_self
    rw [walk_here]
    exact ih (List.filter_eq_nil_iff.mpr fun x hx => hall x (List.mem_cons_of_mem _ hx))

/-- A walk that has found its end was there before its last steps, if these name nothing. -/
theorem walk_of_append_idle (h : walk t k l (a ++ b) = .ok (o, true)) (hb : named b = []) :
    walk t k l a = .ok (o, true) := by
  by_cases hnil : b = []
  · rwa [hnil, List.append_nil] at h
  · cases ha : walk t k l a with
    | error fault =>
      rw [walk_append_error ha b] at h
      cases h
    | ok r =>
      obtain ⟨o', found⟩ := r
      cases found with
      | false =>
        rw [walk_append_missing ha hnil] at h
        cases h
      | true =>
        rcases walk_append_found ha hnil with ⟨j, -, hw⟩ | hw
        · rw [hw, walk_idle t j o' hb] at h
          exact h
        · rw [hw] at h
          cases h

/-! ## Walks that go down -/

/-- Every location from `E` along the names is a directory. -/
def Stands (t : FileTree) (E : Location) (γ : List FileName) : Prop :=
  ∀ r, r <+: γ → t.get? (E ++ r) = some .directory

/-- At every location below `E` along the names is a directory, or nothing. -/
def Clear (t : FileTree) (E : Location) (γ : List FileName) : Prop :=
  ∀ r, r <+: γ → r ≠ [] → t.get? (E ++ r) = none ∨ t.get? (E ++ r) = some .directory

/-- Steps that name something in a directory, or nothing. -/
def Downward (b : List Bytes) : Prop := ∀ step ∈ b, step = here ∨ IsName step

theorem stands_nil : Stands t E [] ↔ t.get? E = some .directory := by
  simp [Stands]

theorem stands_cons {name : FileName} : Stands t E (name :: γ) ↔
    t.get? E = some .directory ∧ Stands t (E ++ [name]) γ := by
  constructor
  · intro h
    refine ⟨by simpa using h [] List.nil_prefix, fun r hr => ?_⟩
    rw [List.append_assoc]
    exact h (name :: r) (List.cons_prefix_cons.mpr ⟨rfl, hr⟩)
  · rintro ⟨hE, h⟩ r hr
    cases r with
    | nil => simpa using hE
    | cons x r =>
      obtain ⟨rfl, hr'⟩ := List.cons_prefix_cons.mp hr
      simpa using h r hr'

theorem stands_concat {name : FileName} : Stands t E (γ ++ [name]) ↔
    Stands t E γ ∧ t.get? (E ++ (γ ++ [name])) = some .directory := by
  constructor
  · intro h
    exact ⟨fun r hr => h r (hr.trans (List.prefix_append _ _)), h _ List.prefix_rfl⟩
  · rintro ⟨h, hlast⟩ r hr
    rcases List.prefix_concat_iff.mp hr with rfl | hr
    · exact hlast
    · exact h r hr

theorem stands_of_grows (h : Stands t E γ) (hg : Grows t t') : Stands t' E γ :=
  fun r hr => hg _ _ (h r hr)

theorem Stands.get?_self (h : Stands t E γ) : t.get? (E ++ γ) = some .directory :=
  h γ List.prefix_rfl

theorem clear_cons {name : FileName} (h : Clear t E (name :: γ)) : Clear t (E ++ [name]) γ := by
  intro r hr _
  rw [List.append_assoc]
  exact h (name :: r) (List.cons_prefix_cons.mpr ⟨rfl, hr⟩) (List.cons_ne_nil _ _)

theorem downward_cons {step : Bytes} (h : Downward (step :: b)) :
    (step = here ∨ IsName step) ∧ Downward b :=
  ⟨h step List.mem_cons_self, fun x hx => h x (List.mem_cons_of_mem _ hx)⟩

theorem named_here_cons (b : List Bytes) : named (here :: b) = named b := by
  simp [named]

theorem named_cons {name : FileName} (h : name ≠ here) (b : List Bytes) :
    named (name :: b) = name :: named b := by
  simp [named, h]

theorem walk_of_stands (hb : Downward b) (h : Stands t E (named b)) :
    walk t k E b = .ok (E ++ named b, true) := by
  induction b generalizing E with
  | nil =>
    rw [walk_nil]
    simp [named]
  | cons step rest ih =>
    obtain ⟨hstep, hrest⟩ := downward_cons hb
    rcases hstep with rfl | hname
    · rw [walk_here, named_here_cons]
      exact ih hrest (by rwa [named_here_cons] at h)
    · rw [named_cons hname.ne_here] at h ⊢
      obtain ⟨-, hdown⟩ := stands_cons.mp h
      rw [walk_directory hname (by simpa using hdown [] List.nil_prefix), ih hrest hdown]
      simp

/-- A walk down goes no further than the first name that is missing. -/
theorem walk_of_fallen (hE : t.get? E = some .directory) (hb : Downward b)
    (hclear : Clear t E (named b)) (h : ¬ Stands t E (named b)) :
    walk t k E b = .error .notFound ∨ walk t k E b = .ok (E ++ named b, false) := by
  induction b generalizing E with
  | nil => exact absurd (stands_nil.mpr hE) h
  | cons step rest ih =>
    obtain ⟨hstep, hrest⟩ := downward_cons hb
    rcases hstep with rfl | hname
    · rw [named_here_cons] at h hclear ⊢
      rw [walk_here]
      exact ih hE hrest hclear h
    · rw [named_cons hname.ne_here] at h hclear ⊢
      rcases hclear [step] (by simp) (by simp) with hnone | hdir
      · rw [walk_missing hname hnone]
        by_cases hnil : rest = []
        · subst hnil
          exact Or.inr (if_pos rfl)
        · exact Or.inl (if_neg hnil)
      · rw [walk_directory hname hdir]
        have := ih hdir hrest (clear_cons hclear) fun hdown => h (stands_cons.mpr ⟨hE, hdown⟩)
        simpa using this

/-! ## Paths that go down -/

/-- The path leads to the directory `E`, and from there down the names `γ`. -/
structure LeadsDown (t : FileTree) (folder : Location) (path : Bytes) (E : Location)
    (γ : List FileName) : Prop where
  check : checkPath path = .ok ()
  directory : t.get? E = some .directory
  split : ∃ a b, steps path = a ++ b ∧ walk t linkLimit (start folder path) a = .ok (E, true) ∧
    Downward b ∧ named b = γ

variable {folder : Location} {path : Bytes}

theorem LeadsDown.of_grows (h : LeadsDown t folder path E γ) (hg : Grows t t') :
    LeadsDown t' folder path E γ := by
  obtain ⟨hcheck, hE, a, b, hsteps, ha, hb, hγ⟩ := h
  exact ⟨hcheck, hg _ _ hE, a, b, hsteps, walk_of_grows ha hg (Nat.le_refl _), hb, hγ⟩

theorem LeadsDown.walk_eq (h : LeadsDown t folder path E γ) (hs : Stands t E γ) :
    walk t linkLimit (start folder path) (steps path) = .ok (E ++ γ, true) := by
  obtain ⟨-, hE, a, b, hsteps, ha, hb, rfl⟩ := h
  obtain ⟨j, hwalk⟩ := walk_append_directory ha hE b
  rw [hsteps, hwalk, walk_of_stands hb hs]

/-- A path whose directories stand leads to a directory. -/
theorem isDirectory_of_stands (h : LeadsDown t folder path E γ) (hs : Stands t E γ) :
    t.isDirectory folder path = true := by
  have hresolve : t.resolve folder path = .ok (E ++ γ, true) := by
    unfold resolve
    simp [h.check, h.walk_eq hs, hs.get?_self, bind, Except.bind, pure, Except.pure]
  have hfind : t.find folder path = .ok (E ++ γ, .directory) := by
    unfold find
    simp [hresolve, hs.get?_self, bind, Except.bind, pure, Except.pure]
  unfold isDirectory
  rw [hfind]

/-- Where a path leads to a directory already, none is made, and not because one on the way is
    missing. -/
theorem makeDirectory_of_stands (h : LeadsDown t folder path E γ) (hs : Stands t E γ) :
    ∃ fault, t.makeDirectory folder path = .error fault ∧ fault ≠ .notFound := by
  have hdir := isDirectory_of_stands h hs
  obtain ⟨fault, hmake⟩ := makeDirectory_of_isDirectory hdir
  refine ⟨fault, hmake, ?_⟩
  rintro rfl
  cases hdir.symm.trans (isDirectory_of_makeDirectory hmake)

/-! ## The last name of a path -/

variable {name : FileName}

/-- The path leads down to a name, which is its last step. -/
structure EndsAt (t : FileTree) (folder : Location) (path : Bytes) (E : Location)
    (γ : List FileName) (name : FileName) : Prop where
  leadsDown : LeadsDown t folder path E (γ ++ [name])
  last : ∃ before last, steps path = before ++ [last] ∧ last ≠ here

/-- The steps before the last name. -/
theorem EndsAt.split (h : EndsAt t folder path E γ name) :
    ∃ a b, steps path = a ++ b ++ [name] ∧
      walk t linkLimit (start folder path) a = .ok (E, true) ∧ Downward b ∧ named b = γ ∧
      IsName name := by
  obtain ⟨⟨-, -, a, b, hsteps, ha, hb, hγ⟩, before, last, hlast, hne⟩ := h
  rcases List.eq_nil_or_concat' b with rfl | ⟨b, step, rfl⟩
  · simp [named] at hγ
  · rw [hsteps, ← List.append_assoc] at hlast
    obtain ⟨-, hstep⟩ := List.append_inj' hlast rfl
    obtain rfl : step = last := by simpa using hstep
    rw [named_append, named_singleton hne] at hγ
    obtain ⟨hbefore, hname⟩ := List.append_inj' hγ rfl
    obtain rfl : step = name := by simpa using hname
    refine ⟨a, b, by rw [hsteps, List.append_assoc], ha, fun x hx => ?_, hbefore, ?_⟩
    · exact hb x (List.mem_append_left _ hx)
    · exact (hb step (List.mem_append_right _ List.mem_cons_self)).resolve_left hne

theorem resolveEntry_of_stands (h : EndsAt t folder path E γ name) (hs : Stands t E γ) :
    t.resolveEntry folder path = .ok (E ++ (γ ++ [name])) := by
  obtain ⟨a, b, hsteps, ha, hb, rfl, hname⟩ := h.split
  obtain ⟨j, hwalk⟩ := walk_append_directory ha h.leadsDown.directory b
  rw [walk_of_stands hb hs] at hwalk
  rw [← List.append_assoc]
  unfold resolveEntry
  simp only [h.leadsDown.check, hsteps, List.getLast?_concat, List.dropLast_concat, hwalk, bind,
    Except.bind, pure, Except.pure, Bool.not_true, Bool.false_eq_true, if_false, hs.get?_self,
    ne_eq, not_true_eq_false, decide_eq_false hname.ne_here, decide_eq_false hname.ne_up,
    Bool.or_self, if_neg hname.length_le]

theorem resolveEntry_of_fallen (h : EndsAt t folder path E γ name) (hclear : Clear t E γ)
    (hs : ¬ Stands t E γ) : t.resolveEntry folder path = .error .notFound := by
  obtain ⟨a, b, hsteps, ha, hb, rfl, -⟩ := h.split
  obtain ⟨j, hwalk⟩ := walk_append_directory ha h.leadsDown.directory b
  unfold resolveEntry
  simp only [h.leadsDown.check, hsteps, List.getLast?_concat, List.dropLast_concat, hwalk, bind,
    Except.bind]
  rcases walk_of_fallen (k := j) h.leadsDown.directory hb hclear hs with hw | hw <;> rw [hw]
  rfl

/-- A directory is made where the one that holds it stands and there is nothing yet. -/
theorem makeDirectory_of_missing (h : EndsAt t folder path E γ name) (hs : Stands t E γ)
    (hnone : t.get? (E ++ (γ ++ [name])) = none) :
    t.makeDirectory folder path = .ok (t.put (E ++ (γ ++ [name])) .directory) := by
  unfold makeDirectory
  simp [resolveEntry_of_stands h hs, hnone, bind, Except.bind, pure, Except.pure]

/-- No directory is made where one on the way is missing. -/
theorem makeDirectory_of_fallen (h : EndsAt t folder path E γ name) (hclear : Clear t E γ)
    (hs : ¬ Stands t E γ) : t.makeDirectory folder path = .error .notFound := by
  unfold makeDirectory
  simp [resolveEntry_of_fallen h hclear hs, bind, Except.bind]

/-- A link is made where the directory that holds it stands and there is nothing yet. -/
theorem makeLink_of_stands {target : Bytes} (htarget : checkPath target = .ok ())
    (h : EndsAt t folder path E γ name) (hslash : endsInSlash path = false) (hs : Stands t E γ)
    (hnone : t.get? (E ++ (γ ++ [name])) = none) :
    t.makeLink folder target path = .ok (t.put (E ++ (γ ++ [name])) (.link target)) := by
  unfold checkPath at htarget
  split_ifs at htarget with h1 h2 h3
  unfold makeLink
  rw [if_neg h1, if_neg h2, if_neg h3]
  simp [resolveEntry_of_stands h hs, hnone, hslash, bind, Except.bind, pure, Except.pure]

end DataStaging.FileTree
