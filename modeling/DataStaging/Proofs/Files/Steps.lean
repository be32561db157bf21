import DataStaging.Host.FileTree
import Mathlib.Data.List.Basic
import Mathlib.Tactic.Common

/-!
# The steps of a path's text

A path is encoded before it is walked. Only the separator is encoded by a slash and only a dot by a
dot, so the steps of the bytes are the parts of the text that are not empty.

Results:
* `steps_join`: joining paths appends their steps.
* `shortens_parent`: a path's parent has some of its first steps.
* `up_not_mem_steps`: a path of which no component leads upward has no step that does.
-/

namespace DataStaging

namespace Utf8

theorem toNat_lt (c : Char) : c.toNat < 0x110000 := by
  rcases c.valid with h | ⟨-, h⟩
  · exact Nat.lt_trans h (by decide)
  · exact h

/-- Every byte of a character that is not ASCII has its high bit set. -/
theorem le_of_mem_encodePoint {n : Nat} {b : UInt8} (h : b ∈ encodePoint n) (hn : 0x80 ≤ n)
    (hmax : n < 0x110000) : 0x80 ≤ b.toNat := by
  unfold encodePoint at h
  rw [if_neg (by omega)] at h
  split_ifs at h
  · rcases List.mem_cons.mp h with rfl | h
    · rw [UInt8.toNat_ofNat']
      omega
    · rw [List.mem_singleton.mp h, UInt8.toNat_ofNat']
      omega
  · simp only [List.mem_cons, List.not_mem_nil, or_false] at h
    rcases h with rfl | rfl | rfl <;> rw [UInt8.toNat_ofNat'] <;> omega
  · simp only [List.mem_cons, List.not_mem_nil, or_false] at h
    rcases h with rfl | rfl | rfl | rfl <;> rw [UInt8.toNat_ofNat'] <;> omega

/-- A character with an ASCII byte is that byte. -/
theorem encodePoint_ascii {c : Char} {b : UInt8} (h : b ∈ encodePoint c.toNat)
    (hb : b.toNat < 0x80) : c.toNat = b.toNat ∧ encodePoint c.toNat = [b] := by
  by_cases hc : c.toNat < 0x80
  · unfold encodePoint at h ⊢
    rw [if_pos hc, List.mem_singleton] at h
    rw [if_pos hc, h, UInt8.toNat_ofNat']
    exact ⟨by omega, rfl⟩
  · have := le_of_mem_encodePoint h (Nat.not_lt.mp hc) (toNat_lt c)
    omega

theorem encodePoint_ne_nil (n : Nat) : encodePoint n ≠ [] := by
  unfold encodePoint
  split_ifs <;> simp

theorem encodeChars_append (a b : List Char) :
    encodeChars (a ++ b) = encodeChars a ++ encodeChars b := List.flatMap_append

theorem encode_append (s s' : String) : encode (s ++ s') = encode s ++ encode s' := by
  show encodeChars (s ++ s').toList = _
  rw [String.toList_append, encodeChars_append]
  rfl

theorem encodeChars_cons (c : Char) (cs : List Char) :
    encodeChars (c :: cs) = encodePoint c.toNat ++ encodeChars cs := List.flatMap_cons

theorem encodeChars_eq_nil {cs : List Char} : encodeChars cs = [] ↔ cs = [] := by
  cases cs with
  | nil => simp [encodeChars]
  | cons c cs => simp [encodeChars_cons, encodePoint_ne_nil]

end Utf8

namespace FileTree

open Utf8

/-! ## Slashes -/

theorem eq_of_slash_mem {c : Char} (h : slash ∈ encodePoint c.toNat) : c = '/' := by
  have := (encodePoint_ascii h (by decide)).1
  exact Char.toNat_inj.mp this

theorem slash_not_mem_encodeChars {cs : List Char} (h : '/' ∉ cs) : slash ∉ encodeChars cs := by
  intro hmem
  obtain ⟨c, hc, hb⟩ := List.mem_flatMap.mp hmem
  exact h (eq_of_slash_mem hb ▸ hc)

theorem encodeChars_slash (cs : List Char) :
    encodeChars ('/' :: cs) = slash :: encodeChars cs := rfl

theorem head?_encodeChars (cs : List Char) :
    (encodeChars cs).head? = some slash ↔ cs.head? = some '/' := by
  cases cs with
  | nil => simp [encodeChars]
  | cons c cs =>
    rw [encodeChars_cons, List.head?_append]
    obtain ⟨b, bs, hb⟩ := List.exists_cons_of_ne_nil (encodePoint_ne_nil c.toNat)
    rw [hb]
    constructor
    · intro h
      obtain rfl : b = slash := by simpa using h
      rw [eq_of_slash_mem (c := c) (by rw [hb]; exact List.mem_cons_self)]
      rfl
    · intro h
      obtain rfl : c = '/' := by simpa using h
      obtain ⟨rfl, -⟩ : b = slash ∧ bs = [] := by
        have he : [slash] = b :: bs := hb
        cases he
        exact ⟨rfl, rfl⟩
      rfl

/-! ## Steps -/

theorem steps_slash (p : Bytes) : steps (slash :: p) = steps p := by
  rw [steps.eq_def]
  exact if_pos rfl

theorem steps_cons {b : UInt8} (hb : b ≠ slash) (p : Bytes) :
    steps (b :: p) = match p, steps p with
      | c :: _, step :: more => if c = slash then [b] :: step :: more else (b :: step) :: more
      | _, more => [b] :: more := by
  rw [steps.eq_def]
  exact if_neg hb

theorem steps_ne_nil {b : UInt8} (hb : b ≠ slash) (p : Bytes) : steps (b :: p) ≠ [] := by
  rw [steps_cons hb]
  split
  · split <;> exact List.cons_ne_nil _ _
  · exact List.cons_ne_nil _ _

/-- A slash ends the step before it. -/
theorem steps_append_slash (p q : Bytes) : steps (p ++ slash :: q) = steps p ++ steps q := by
  induction p with
  | nil => exact steps_slash q
  | cons b p ih =>
    by_cases hb : b = slash
    · subst hb
      rw [List.cons_append, steps_slash, steps_slash, ih]
    · rw [List.cons_append, steps_cons hb, steps_cons hb, ih]
      cases p with
      | nil => cases hq : steps q <;> simp [steps]
      | cons c p =>
        cases hp : steps (c :: p) with
        | nil =>
          obtain rfl : c = slash := by
            by_contra hc
            exact steps_ne_nil hc p hp
          cases hq : steps q <;> simp
        | cons step more => by_cases hc : c = slash <;> simp [hc]

theorem steps_of_not_mem {p : Bytes} (hne : p ≠ []) (h : slash ∉ p) : steps p = [p] := by
  induction p with
  | nil => exact absurd rfl hne
  | cons b p ih =>
    rw [List.mem_cons, not_or] at h
    rw [steps_cons (Ne.symm h.1)]
    cases p with
    | nil => rfl
    | cons c p =>
      have hc : c ≠ slash := fun he => h.2 (he ▸ List.mem_cons_self)
      rw [ih (List.cons_ne_nil c p) h.2]
      simp only [if_neg hc]

/-- The steps of parts with separators between them are the parts that are not empty. -/
theorem steps_parts (parts : List (List Char)) (h : ∀ part ∈ parts, '/' ∉ part) :
    steps (encodeChars (Parts.join '/' parts)) =
      (parts.filter (fun part => part ≠ [])).map encodeChars := by
  have hone : ∀ part ∈ parts, steps (encodeChars part) =
      ([part].filter (fun part => part ≠ [])).map encodeChars := by
    intro part hp
    by_cases he : part = []
    · subst he
      rfl
    · rw [steps_of_not_mem (fun h => he (encodeChars_eq_nil.mp h))
        (slash_not_mem_encodeChars (h part hp))]
      simp [he]
  induction parts with
  | nil => rfl
  | cons part more ih =>
    have hfirst := hone part List.mem_cons_self
    cases more with
    | nil => exact hfirst
    | cons next more =>
      have ih := ih (fun p hp => h p (List.mem_cons_of_mem _ hp))
        (fun p hp => hone p (List.mem_cons_of_mem _ hp))
      rw [← List.singleton_append (x := part), List.filter_append, List.map_append, ← hfirst, ← ih]
      rw [← steps_append_slash, ← encodeChars_slash, ← encodeChars_append]
      rfl

/-- The steps of a text are its parts that are not empty. -/
theorem steps_encodeChars (cs : List Char) :
    steps (encodeChars cs) =
      ((Parts.cutAt '/' cs).filter (fun part => part ≠ [])).map encodeChars := by
  rw [← steps_parts _ (fun part hp => Parts.not_mem_of_mem_cutAt hp), Parts.join_cutAt]

/-! ## Joined paths -/

/-- After the empty text or a separator, the steps are those of the rest. -/
theorem steps_append_of_folder {a : List Char} (ha : a = [] ∨ a.getLast? = some '/')
    (b : List Char) :
    steps (encodeChars (a ++ b)) = steps (encodeChars a) ++ steps (encodeChars b) := by
  rcases ha with rfl | hlast
  · rfl
  · obtain ⟨before, rfl⟩ := List.getLast?_eq_some_iff.mp hlast
    rw [List.append_assoc, List.singleton_append, encodeChars_append, encodeChars_append,
      encodeChars_slash, encodeChars_slash, steps_append_slash, steps_append_slash]
    simp [encodeChars, steps]

theorem steps_join (left right : List Char) (h : right.head? ≠ some '/') :
    steps (encodeChars (Path.joinChars left right)) =
      steps (encodeChars left) ++ steps (encodeChars right) := by
  unfold Path.joinChars
  rw [if_neg h]
  split_ifs with hl
  · rw [Bool.or_eq_true, List.isEmpty_iff, decide_eq_true_eq] at hl
    exact steps_append_of_folder hl right
  · rw [encodeChars_append, encodeChars_slash, steps_append_slash]

/-- A character that is encoded by a dot alone is one. -/
theorem eq_of_encodePoint_dot {c : Char} (h : 0x2E ∈ encodePoint c.toNat) : c = '.' := by
  have := (encodePoint_ascii h (by decide)).1
  exact Char.toNat_inj.mp this

/-- A text that is encoded by dots is as many dots. -/
theorem eq_of_encodeChars_dots {cs : List Char} {n : Nat}
    (h : encodeChars cs = List.replicate n 0x2E) : cs = List.replicate n '.' := by
  have hdots : ∀ c ∈ cs, c = '.' := by
    intro c hc
    obtain ⟨b, bs, hb⟩ := List.exists_cons_of_ne_nil (encodePoint_ne_nil c.toNat)
    have hmem : b ∈ List.replicate n 0x2E :=
      h ▸ List.mem_flatMap.mpr ⟨c, hc, hb ▸ List.mem_cons_self⟩
    obtain rfl := List.eq_of_mem_replicate hmem
    exact eq_of_encodePoint_dot (hb ▸ List.mem_cons_self)
  obtain ⟨m, rfl⟩ : ∃ m, cs = List.replicate m '.' := ⟨_, List.eq_replicate_of_mem hdots⟩
  have hlen : (encodeChars (List.replicate m '.')).length = m := by
    clear h hdots
    induction m with
    | zero => rfl
    | succ m ih =>
      rw [List.replicate_succ, encodeChars_cons, List.length_append, ih]
      exact Nat.add_comm 1 m
  rw [h, List.length_replicate] at hlen
  rw [hlen]

theorem eq_of_encodeChars_up {cs : List Char} (h : encodeChars cs = up) : cs = ['.', '.'] :=
  eq_of_encodeChars_dots (n := 2) h

theorem eq_of_encodeChars_here {cs : List Char} (h : encodeChars cs = here) : cs = ['.'] :=
  eq_of_encodeChars_dots (n := 1) h

/-- A path of which no component leads upward has no step that does. -/
theorem up_not_mem_steps {cs : List Char} (h : Path.leadsUp cs = false) :
    up ∉ steps (encodeChars cs) := by
  intro hmem
  rw [steps_encodeChars] at hmem
  obtain ⟨part, hpart, hup⟩ := List.mem_map.mp hmem
  obtain rfl := eq_of_encodeChars_up hup
  rw [Path.leadsUp, List.any_eq_false] at h
  refine h ['.', '.'] ?_ (by decide)
  rw [Path.names, List.mem_filter]
  exact ⟨(List.mem_filter.mp hpart).1, by decide⟩

/-! ## Parents -/

/-- The path `q` is `p` without some steps at its end. -/
structure Shortens (q p : List Char) : Prop where
  steps_prefix : steps (encodeChars q) <+: steps (encodeChars p)
  head?_eq : q.head? = some '/' ↔ p.head? = some '/'

theorem Shortens.refl (p : List Char) : Shortens p p := ⟨List.prefix_rfl, Iff.rfl⟩

theorem Shortens.trans {r q p : List Char} (h : Shortens r q) (h' : Shortens q p) : Shortens r p :=
  ⟨h.steps_prefix.trans h'.steps_prefix, h.head?_eq.trans h'.head?_eq⟩

/-- A path without an idle end: neither a separator nor a separator and a dot, unless it is the
    top. -/
structure Bare (path : List Char) : Prop where
  eq_top : path.getLast? = some '/' → path = ['/']
  not_idle : ¬ ['/', '.'] <:+ path

/-- At the end a separator is dropped, or a dot after a separator, or there is nothing to drop. -/
theorem dropIdleEnd_cases (p : List Char) (fuel : Nat) :
    (∃ before, before ≠ [] ∧ p = before ++ ['/'] ∧
      Path.dropIdleEnd p (fuel + 1) = Path.dropIdleEnd before fuel) ∨
    (∃ before, p = before ++ ['/'] ++ ['.'] ∧
      Path.dropIdleEnd p (fuel + 1) = Path.dropIdleEnd (before ++ ['/']) fuel) ∨
    (Bare p ∧ Path.dropIdleEnd p (fuel + 1) = p) := by
  rw [Path.dropIdleEnd]
  split
  · rename_i rest hrev
    have hp : p = rest.reverse ++ ['/'] := by
      rw [← List.reverse_reverse p, hrev, List.reverse_cons]
    split_ifs with hrest
    · subst hrest
      exact Or.inr (Or.inr ⟨⟨fun _ => hp, by rw [hp]; decide⟩, rfl⟩)
    · exact Or.inl ⟨rest.reverse, by simpa using hrest, hp, rfl⟩
  · rename_i rest hrev
    have hp : p = rest.reverse ++ ['/'] ++ ['.'] := by
      rw [← List.reverse_reverse p, hrev, List.reverse_cons, List.reverse_cons]
    exact Or.inr (Or.inl ⟨rest.reverse, hp, by rw [List.reverse_cons]⟩)
  · rename_i hslash hdot
    refine Or.inr (Or.inr ⟨⟨fun hlast => ?_, ?_⟩, rfl⟩)
    · rw [← List.head?_reverse] at hlast
      obtain ⟨rest, hrev⟩ := List.head?_eq_some_iff.mp hlast
      exact absurd hrev (hslash rest)
    · rintro ⟨before, rfl⟩
      exact hdot before.reverse (by simp)

theorem shortens_dropIdleEnd (p : List Char) (fuel : Nat) :
    Shortens (Path.dropIdleEnd p fuel) p := by
  induction fuel generalizing p with
  | zero => exact .refl p
  | succ fuel ih =>
    rcases dropIdleEnd_cases p fuel with ⟨before, hne, hp, hdrop⟩ | ⟨before, hp, hdrop⟩ | ⟨-, hdrop⟩
    · rw [hdrop]
      refine (ih before).trans ⟨?_, ?_⟩
      · rw [hp, encodeChars_append, encodeChars_slash, steps_append_slash]
        exact List.prefix_append _ _
      · rw [hp, List.head?_append_of_ne_nil _ hne]
    · rw [hdrop]
      refine (ih _).trans ⟨?_, ?_⟩
      · rw [hp, steps_append_of_folder (a := before ++ ['/']) (Or.inr (by simp))]
        exact List.prefix_append _ _
      · rw [hp, List.head?_append_of_ne_nil (before ++ ['/']) (by simp)]
    · rw [hdrop]
      exact .refl p

theorem uptoSeparator_spec (p : List Char) :
    (Path.uptoSeparator p = [] ∧ '/' ∉ p) ∨
      ∃ before rest, Path.uptoSeparator p = before ++ ['/'] ∧ p = before ++ '/' :: rest := by
  induction p with
  | nil => exact Or.inl ⟨rfl, List.not_mem_nil⟩
  | cons c p ih =>
    rw [Path.uptoSeparator]
    rcases ih with ⟨hnil, hmem⟩ | ⟨before, rest, hupto, hp⟩
    · rw [hnil]
      by_cases hc : c = '/'
      · subst hc
        exact Or.inr ⟨[], p, rfl, rfl⟩
      · left
        simp only [if_neg hc]
        exact ⟨trivial, fun h => (List.mem_cons.mp h).elim (fun he => hc he.symm) hmem⟩
    · right
      refine ⟨c :: before, rest, ?_, by rw [hp]; rfl⟩
      rw [hupto]
      cases before <;> rfl

theorem shortens_uptoSeparator (p : List Char) : Shortens (Path.uptoSeparator p) p := by
  rcases uptoSeparator_spec p with ⟨hnil, hmem⟩ | ⟨before, rest, hupto, hp⟩
  · rw [hnil]
    refine ⟨List.nil_prefix, ?_⟩
    constructor
    · intro h
      cases h
    · intro h
      exact absurd (List.mem_of_head? h) hmem
  · rw [hupto, hp]
    refine ⟨?_, ?_⟩
    · rw [encodeChars_append, encodeChars_append, encodeChars_slash, encodeChars_slash,
        steps_append_slash, steps_append_slash]
      exact (List.prefix_append_right_inj _).mpr List.nil_prefix
    · cases before <;> simp

/-- A path's parent has some of its first steps, and begins where it begins. -/
theorem shortens_parent {p q : List Char} (h : Path.parent? p = some q) : Shortens q p := by
  unfold Path.parent? at h
  simp only at h
  split_ifs at h
  cases h
  exact (shortens_dropIdleEnd _ _).trans
    ((shortens_uptoSeparator _).trans (shortens_dropIdleEnd _ _))

theorem start_of_shortens {p q : List Char} (h : Shortens q p) (folder : Location) :
    start folder (encodeChars q) = start folder (encodeChars p) := by
  unfold start
  simp only [head?_encodeChars, h.head?_eq]

end FileTree

end DataStaging
