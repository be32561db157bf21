import DataStaging.Proofs.Process.Attempts
import DataStaging.Proofs.Process.Started
import DataStaging.Proofs.Process.Writing

/-!
# The attempts of a run

The attempts of a run as they are made, one after the other: with the variant or without, from which
state to which, and with which result. Between them, a run looks at the connection, writes notices
and waits; what these leave alone is the same before an attempt as after the one before it.

Results:
* `Tries.single`, `Tries.cons`: the last attempt of a run, and one before others.
* `Tries.useVariant_eq`: the variant is used exactly after a silence.
* `starts_of_linked`: what is started is what the attempts start.
-/

namespace DataStaging.Retry

variable {σ α β : Type}

/-- An attempt that was made. -/
structure Tried (σ α : Type) where
  useVariant : Bool
  before : σ
  /-- Its outcome, or why it came to none. -/
  result : Except Halt (Attempt α)
  after : σ

/-- The attempt stayed silent for too long. -/
def Tried.isSilence (x : Tried σ α) : Bool := x.result.toOption.any Attempt.isSilence

/-- The outcomes of the attempts that came to one. -/
def outcomes (tries : List (Tried σ α)) : List (Attempt α) :=
  tries.filterMap fun x => x.result.toOption

theorem any_outcomes (tries : List (Tried σ α)) :
    (outcomes tries).any Attempt.isSilence = tries.any Tried.isSilence := by
  rw [outcomes, List.any_filterMap]
  rfl

theorem countP_outcomes (tries : List (Tried σ α)) :
    (outcomes tries).countP Attempt.isSilence = tries.countP Tried.isSilence := by
  rw [outcomes, List.countP_filterMap]
  refine List.countP_congr fun x _ => ?_
  rw [Tried.isSilence]
  cases x.result.toOption <;> rfl

/-- Attempts between two states: from one to the next, and at both ends, states are related. -/
def Linked (rel : σ → σ → Prop) : σ → List (Tried σ α) → σ → Prop
  | s, [], s' => rel s s'
  | s, x :: rest, s' => rel s x.before ∧ Linked rel x.after rest s'

theorem Linked.of_rel {rel : σ → σ → Prop} {s s₁ s' : σ} {tries : List (Tried σ α)}
    (htrans : ∀ {s₁ s₂ s₃}, rel s₁ s₂ → rel s₂ s₃ → rel s₁ s₃) (hrel : rel s s₁)
    (h : Linked rel s₁ tries s') : Linked rel s tries s' := by
  cases tries with
  | nil => exact htrans hrel h
  | cons x rest => exact ⟨htrans hrel h.1, h.2⟩

/-- Of one attempt alone, none comes before it and none after it. -/
theorem eq_of_single {x y : β} {earlier later : List β} (h : [x] = earlier ++ y :: later) :
    earlier = [] ∧ y = x ∧ later = [] := by
  obtain ⟨rfl, hrest⟩ | ⟨-, hrest⟩ := List.singleton_eq_append_iff.mp h
  · obtain ⟨rfl, rfl⟩ := List.cons.inj hrest
    exact ⟨rfl, rfl, rfl⟩
  · cases hrest

variable {attempt : Bool → Act σ (Attempt α)} {rel : σ → σ → Prop} {hasVariant : Bool}
  {os : List (Attempt α)} {s s' : σ} {p : Except Halt (α × RunReport) × σ}
  {tries : List (Tried σ α)}

variable (attempt rel hasVariant) in
/-- What a run that has met the outcomes `os` comes to from here, and its attempts from here on. -/
structure Tries (os : List (Attempt α)) (s : σ) (p : Except Halt (α × RunReport) × σ)
    (tries : List (Tried σ α)) : Prop where
  linked : Linked rel s tries p.2
  made : ∀ x ∈ tries, (attempt x.useVariant).run x.before = (x.result, x.after)
  variant : ∀ earlier x later, tries = earlier ++ x :: later →
    x.useVariant = (RunReport.ofOutcomes hasVariant (os ++ outcomes earlier)).usedVariant
  again : ∀ earlier x later, tries = earlier ++ x :: later → later ≠ [] →
    ∃ o, x.result = .ok o ∧ o.isSuccess = false
  ends : ∀ value report, p.1 = .ok (value, report) → ∃ earlier last,
    tries = earlier ++ [last] ∧ last.result = .ok (.succeeded value) ∧
      report = .ofOutcomes hasVariant (os ++ outcomes earlier)

namespace Tries

/-- A run that comes to its end without another attempt. -/
theorem nil {halt : Halt} (hrel : rel s p.2) (hp : p.1 = .error halt) :
    Tries attempt rel hasVariant os s p [] where
  linked := hrel
  made x hx := absurd hx List.not_mem_nil
  variant earlier x later h := absurd h (by simp)
  again earlier x later h := absurd h (by simp)
  ends value report h := by cases hp.symm.trans h

/-- A run that comes to its end with one attempt more. -/
theorem single {x : Tried σ α} (hbefore : rel s x.before) (hafter : rel x.after p.2)
    (hmade : (attempt x.useVariant).run x.before = (x.result, x.after))
    (hvariant : x.useVariant = (RunReport.ofOutcomes hasVariant os).usedVariant)
    (hends : ∀ value report, p.1 = .ok (value, report) →
      x.result = .ok (.succeeded value) ∧ report = .ofOutcomes hasVariant os) :
    Tries attempt rel hasVariant os s p [x] where
  linked := ⟨hbefore, hafter⟩
  made := List.forall_mem_singleton.mpr hmade
  variant earlier y later h := by
    obtain ⟨rfl, rfl, rfl⟩ := eq_of_single h
    rw [hvariant, outcomes, List.filterMap_nil, List.append_nil]
  again earlier y later h hlater := absurd (eq_of_single h).2.2 hlater
  ends value report h := by
    refine ⟨[], x, rfl, (hends value report h).1, ?_⟩
    rw [(hends value report h).2, outcomes, List.filterMap_nil, List.append_nil]

/-- An attempt that is no success, before others. -/
theorem cons {x : Tried σ α} {o : Attempt α} (hbefore : rel s x.before)
    (hmade : (attempt x.useVariant).run x.before = (x.result, x.after))
    (hvariant : x.useVariant = (RunReport.ofOutcomes hasVariant os).usedVariant)
    (hresult : x.result = .ok o) (ho : o.isSuccess = false)
    (h : Tries attempt rel hasVariant (os ++ [o]) x.after p tries) :
    Tries attempt rel hasVariant os s p (x :: tries) := by
  have houtcomes : ∀ earlier, os ++ outcomes (x :: earlier) = os ++ [o] ++ outcomes earlier := by
    intro earlier
    rw [outcomes, List.filterMap_cons_some (b := o) (by rw [hresult]; rfl), List.append_assoc]
    rfl
  refine ⟨⟨hbefore, h.linked⟩, List.forall_mem_cons.mpr ⟨hmade, h.made⟩, ?_, ?_, ?_⟩
  · intro earlier y later hsplit
    cases earlier with
    | nil =>
      obtain ⟨rfl, -⟩ := List.cons.inj hsplit
      rw [hvariant, outcomes, List.filterMap_nil, List.append_nil]
    | cons z earlier =>
      obtain ⟨rfl, hrest⟩ := List.cons.inj hsplit
      rw [houtcomes]
      exact h.variant earlier y later hrest
  · intro earlier y later hsplit hlater
    cases earlier with
    | nil =>
      obtain ⟨rfl, -⟩ := List.cons.inj hsplit
      exact ⟨o, hresult, ho⟩
    | cons z earlier => exact h.again earlier y later (List.cons.inj hsplit).2 hlater
  · intro value report hp
    obtain ⟨earlier, last, rfl, hlast, hreport⟩ := h.ends value report hp
    exact ⟨x :: earlier, last, rfl, hlast, (houtcomes earlier).symm ▸ hreport⟩

/-- The variant is used from the first silence on. -/
theorem useVariant_eq (h : Tries attempt rel true [] s p tries) {earlier later : List (Tried σ α)}
    {x : Tried σ α} (hsplit : tries = earlier ++ x :: later) :
    x.useVariant = earlier.any Tried.isSilence := by
  rw [h.variant earlier x later hsplit, List.nil_append, RunReport.ofOutcomes, Bool.true_and,
    any_outcomes]

/-- What the report of a run says that has succeeded. -/
theorem exists_last (h : Tries attempt rel true [] s p tries) {value : α} {report : RunReport}
    (hp : p.1 = .ok (value, report)) : ∃ earlier last, tries = earlier ++ [last] ∧
      last.result = .ok (.succeeded value) ∧ report.timeouts = tries.countP Tried.isSilence ∧
      report.usedVariant = last.useVariant ∧
      (report.usedVariant = true ↔ 0 < report.timeouts) := by
  obtain ⟨earlier, last, rfl, hlast, rfl⟩ := h.ends value report hp
  have hspoke : last.isSilence = false := by
    rw [Tried.isSilence, hlast]
    rfl
  refine ⟨earlier, last, rfl, hlast, ?_, ?_, ?_⟩
  · rw [List.nil_append, RunReport.ofOutcomes, countP_outcomes, List.countP_append,
      List.countP_singleton, hspoke]
    rfl
  · exact (h.variant earlier last [] rfl).symm
  · rw [RunReport.ofOutcomes, Bool.true_and, List.any_eq_true, List.countP_pos_iff]

end Tries

/-! ## What attempts start -/

/-- What was started from one host to the next. -/
def Tried.started (x : Tried Host α) : List Start := x.after.starts.drop x.before.starts.length

/-- An attempt starts its command once, or cannot. -/
theorem started_of_made {c : Command} {attempt : Act Host (Attempt α)} (hattempt : Begins c attempt)
    {x : Tried Host α} (hmade : attempt.run x.before = (x.result, x.after)) :
    x.after.env = x.before.env ∧ x.after.starts = x.before.starts ++ x.started ∧
      (x.started = [c.startWith x.before.env] ∨
        x.started = [] ∧ ∃ fault, x.result = .error (.fault fault)) := by
  unfold Tried.started
  rcases hattempt.run_cases x.before with ⟨fault, hrun⟩ | ⟨⟨b, own, hown⟩, -⟩
  · obtain ⟨hresult, hafter⟩ := Prod.ext_iff.mp (hrun.symm.trans hmade)
    rw [← show x.before = x.after from hafter, List.drop_length, List.append_nil]
    exact ⟨rfl, rfl, Or.inr ⟨rfl, .io fault, hresult.symm⟩⟩
  · rw [hmade] at hown
    obtain ⟨clock, notices, hafter⟩ := hown.waits
    have hstarts : x.after.starts = x.before.starts ++ [c.startWith x.before.env] :=
      congrArg Host.starts hafter
    rw [hstarts, List.drop_left]
    exact ⟨(congrArg Host.env hafter :), rfl, Or.inl rfl⟩

/-- What is started is what the attempts start, each of them its command once unless it cannot. -/
theorem starts_of_linked {h h' : Host} {tries : List (Tried Host α)} {command : Bool → Command}
    {attempt : Bool → Act Host (Attempt α)}
    (hattempt : ∀ useVariant, Begins (command useVariant) (attempt useVariant))
    (hlinked : Linked Host.Waits h tries h')
    (hmade : ∀ x ∈ tries, (attempt x.useVariant).run x.before = (x.result, x.after)) :
    h'.starts = h.starts ++ tries.flatMap Tried.started ∧
      ∀ x ∈ tries, x.started = [(command x.useVariant).startWith h.env] ∨
        x.started = [] ∧ ∃ fault, x.result = .error (.fault fault) := by
  induction tries generalizing h with
  | nil =>
    obtain ⟨clock, notices, rfl⟩ := hlinked
    exact ⟨(List.append_nil _).symm, fun x hx => absurd hx List.not_mem_nil⟩
  | cons x tries ih =>
    obtain ⟨⟨clock, notices, hbefore⟩, hlinked⟩ := hlinked
    obtain ⟨hx, hmade⟩ := List.forall_mem_cons.mp hmade
    obtain ⟨henv, hstarts, hstarted⟩ := started_of_made (hattempt x.useVariant) hx
    rw [show x.before.env = h.env from hbefore ▸ rfl] at henv hstarted
    rw [show x.before.starts = h.starts from hbefore ▸ rfl] at hstarts
    obtain ⟨hrest, hall⟩ := ih hlinked hmade
    rw [henv] at hall
    refine ⟨?_, List.forall_mem_cons.mpr ⟨hstarted, hall⟩⟩
    rw [hrest, hstarts, List.flatMap_cons, List.append_assoc]

end DataStaging.Retry
