import DataStaging.Process.Health
import Mathlib.Data.List.Induction

/-!
# Since when the connection is broken

What is kept of the marks are two things: whether the connection is good, and since when it is not.
They are never at odds, however often the marks change, and what is kept as the time is that of the
first bad mark since the last good one.

Results:
* `Health.connected_iff`: the two are never at odds.
* `Health.since_eq_some_iff`: which time is kept.
* `Health.since_after`: it is the time since which the marks say that the connection is broken.
-/

namespace DataStaging

/-- Whether the connection is good, and since when it is not. -/
structure Health where
  connected : Bool
  since : Option Nat
deriving DecidableEq, Repr

/-- After these marks the connection is broken since `time`: the mark of this time is the first bad
    one since the last good one, or since the start. -/
def Outage (marks : List Mark) (time : Nat) : Prop :=
  ∃ earlier later, marks = earlier ++ ⟨time, false⟩ :: later ∧
    (∀ m, earlier.getLast? = some m → m.good = true) ∧ ∀ m ∈ later, m.good = false

namespace Health

/-- Before the first mark the connection is good. -/
def start : Health := ⟨true, none⟩

/-- A good mark takes the time away. A bad one sets it, but only where the connection was good. -/
def mark (h : Health) (m : Mark) : Health :=
  if m.good then ⟨true, none⟩ else if h.connected then ⟨false, some m.time⟩ else h

/-- What is kept after some marks. -/
def after (marks : List Mark) : Health := marks.foldl mark start

variable {marks : List Mark}

theorem after_concat (marks : List Mark) (m : Mark) :
    after (marks ++ [m]) = (after marks).mark m := by
  rw [after, List.foldl_append]
  rfl

theorem mark_good (h : Health) {m : Mark} (hm : m.good = true) : h.mark m = start := by
  rw [mark, if_pos hm]
  rfl

theorem mark_bad (h : Health) {m : Mark} (hm : m.good = false) :
    h.mark m = if h.connected then ⟨false, some m.time⟩ else h := by
  rw [mark, hm, if_neg Bool.false_ne_true]

theorem connected_mark_iff {h : Health} (hh : h.connected = true ↔ h.since = none) (m : Mark) :
    (h.mark m).connected = true ↔ (h.mark m).since = none := by
  unfold mark
  split_ifs
  · simp
  · simp
  · exact hh

/-- The connection counts as good exactly where no time is kept. -/
theorem connected_iff : (after marks).connected = true ↔ (after marks).since = none := by
  induction marks using List.reverseRecOn with
  | nil => simp [after, start]
  | append_singleton marks m ih =>
    rw [after_concat]
    exact connected_mark_iff ih m

/-- The time kept is the one that the marks tell. -/
theorem since_after (marks : List Mark) : (after marks).since = Connection.brokenBy marks := by
  induction marks using List.reverseRecOn with
  | nil => rfl
  | append_singleton marks m ih =>
    rw [after_concat, Connection.brokenBy, List.foldl_append, List.foldl_cons, List.foldl_nil,
      ← Connection.brokenBy, ← ih, Connection.brokenAfter]
    cases hm : m.good with
    | true =>
      rw [mark_good _ hm]
      rfl
    | false =>
      rw [mark_bad _ hm]
      cases hsince : (after marks).since with
      | none => simp [connected_iff.mpr hsince]
      | some time =>
        have hbroken : ¬(after marks).connected = true := by
          rw [connected_iff, hsince]
          exact Option.some_ne_none time
        simp [hbroken, hsince]

/-! ## The time that is kept -/

/-- Where the connection counts as good, its last mark was good. -/
theorem good_of_getLast? (h : (after marks).connected = true) {m : Mark}
    (hm : marks.getLast? = some m) : m.good = true := by
  induction marks using List.reverseRecOn with
  | nil => cases hm
  | append_singleton marks last _ =>
    rw [List.getLast?_concat, Option.some.injEq] at hm
    subst hm
    by_contra hbad
    rw [Bool.not_eq_true] at hbad
    rw [after_concat, mark_bad _ hbad] at h
    split_ifs at h with hbefore
    exact hbefore h

/-- After a good mark, or at the start, the connection counts as good. -/
theorem connected_of_getLast? (h : ∀ m, marks.getLast? = some m → m.good = true) :
    (after marks).connected = true := by
  induction marks using List.reverseRecOn with
  | nil => rfl
  | append_singleton marks last _ =>
    rw [after_concat, mark_good _ (h last List.getLast?_concat)]
    rfl

/-- Bad marks change nothing while the connection is broken. -/
theorem foldl_bad {h : Health} (hh : h.connected = false) {later : List Mark}
    (hlater : ∀ m ∈ later, m.good = false) : later.foldl mark h = h := by
  induction later with
  | nil => rfl
  | cons m later ih =>
    have hm : h.mark m = h := by
      rw [mark_bad _ (hlater m List.mem_cons_self), hh, if_neg Bool.false_ne_true]
    rw [List.foldl_cons, hm]
    exact ih fun x hx => hlater x (List.mem_cons_of_mem m hx)

theorem after_outage {time : Nat} (h : Outage marks time) : after marks = ⟨false, some time⟩ := by
  obtain ⟨earlier, later, rfl, hearlier, hlater⟩ := h
  have hfirst : (after earlier).mark ⟨time, false⟩ = ⟨false, some time⟩ := by
    rw [mark_bad _ rfl, if_pos (connected_of_getLast? hearlier)]
  rw [after, List.foldl_append, ← after, List.foldl_cons, hfirst]
  exact foldl_bad rfl hlater

theorem outage_of_since {time : Nat} (h : (after marks).since = some time) :
    Outage marks time := by
  induction marks using List.reverseRecOn with
  | nil => cases h
  | append_singleton marks m ih =>
    rw [after_concat] at h
    cases hm : m.good with
    | true =>
      rw [mark_good _ hm] at h
      cases h
    | false =>
      rw [mark_bad _ hm] at h
      split_ifs at h with hgood
      · cases h
        exact ⟨marks, [], by rw [← hm], fun x hx => good_of_getLast? hgood hx,
          fun x hx => absurd hx List.not_mem_nil⟩
      · obtain ⟨earlier, later, rfl, hearlier, hlater⟩ := ih h
        refine ⟨earlier, later ++ [m], by simp, hearlier, fun x hx => ?_⟩
        rcases List.mem_append.mp hx with hx | hx
        · exact hlater x hx
        · rwa [List.mem_singleton.mp hx]

/-- The time kept is that of the first bad mark since the last good one, or since the start. -/
theorem since_eq_some_iff {time : Nat} :
    (after marks).since = some time ↔ Outage marks time := by
  refine ⟨outage_of_since, fun h => ?_⟩
  rw [after_outage h]

end Health

/-- Where the marks come in the order of their times, no good mark is later than the beginning of an
    outage. -/
theorem Outage.le_of_good {marks : List Mark} {time : Nat} (h : Outage marks time)
    (hsorted : marks.Pairwise fun m m' => m.time ≤ m'.time) {m : Mark} (hm : m ∈ marks)
    (hgood : m.good = true) : m.time ≤ time := by
  obtain ⟨earlier, later, rfl, -, hlater⟩ := h
  rcases List.mem_append.mp hm with hm | hm
  · exact (List.pairwise_append.mp hsorted).2.2 m hm _ List.mem_cons_self
  · rcases List.mem_cons.mp hm with rfl | hm
    · cases hgood
    · rw [hlater m hm] at hgood
      cases hgood

end DataStaging
