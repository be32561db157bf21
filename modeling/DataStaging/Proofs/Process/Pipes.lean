import Mathlib.Data.List.Basic
import Mathlib.Logic.Function.Basic
import Mathlib.Logic.Relation
import Mathlib.Tactic.Common

/-!
# The two pipes of a program

A program whose lines are passed on writes to two pipes. A reader for each of them puts its lines
into one queue of limited depth, and waits where the queue is full; the attempt takes the lines out
of the queue and writes them down. It ends when both readers have hung up and the queue is empty, or
when it has waited too long for a line.

The two readers and the attempt take their steps in any order. How long a wait is too long is left
open: the attempt may give up whenever it listens.

Results:
* `closed_iff`: what an attempt has written that was not given up.
* `silent_iff`: what one has written that was given up.
-/

namespace DataStaging

/-! ## Interleavings -/

/-- The third list is made up of all members of the other two, each in its own order. -/
inductive Interleaving {α : Type} : List α → List α → List α → Prop where
  | nil : Interleaving [] [] []
  | left {a : α} {l r m : List α} : Interleaving l r m → Interleaving (a :: l) r (a :: m)
  | right {a : α} {l r m : List α} : Interleaving l r m → Interleaving l (a :: r) (a :: m)

namespace Interleaving

variable {α : Type} {l r m l' r' m' : List α}

theorem append (h : Interleaving l r m) (h' : Interleaving l' r' m') :
    Interleaving (l ++ l') (r ++ r') (m ++ m') := by
  induction h with
  | nil => exact h'
  | left _ ih => exact .left ih
  | right _ ih => exact .right ih

theorem of_left (l : List α) : Interleaving l [] l := by
  induction l with
  | nil => exact .nil
  | cons a l ih => exact .left ih

theorem of_right (r : List α) : Interleaving [] r r := by
  induction r with
  | nil => exact .nil
  | cons a r ih => exact .right ih

/-- A beginning of an interleaving is one of two beginnings. -/
theorem of_append (h : Interleaving l r (m ++ m')) :
    ∃ l' r', l' <+: l ∧ r' <+: r ∧ Interleaving l' r' m := by
  induction m generalizing l r with
  | nil => exact ⟨[], [], List.nil_prefix, List.nil_prefix, .nil⟩
  | cons a m ih =>
    cases h with
    | left h =>
      obtain ⟨l', r', hl, hr, hm⟩ := ih h
      exact ⟨a :: l', r', List.cons_prefix_cons.mpr ⟨rfl, hl⟩, hr, .left hm⟩
    | right h =>
      obtain ⟨l', r', hl, hr, hm⟩ := ih h
      exact ⟨l', a :: r', hl, List.cons_prefix_cons.mpr ⟨rfl, hr⟩, .right hm⟩

end Interleaving

/-! ## The system -/

/-- Where the reader of a pipe stands. -/
inductive PipeReader
  /-- These lines have still to be put into the queue. -/
  | reading (ahead : List String)
  | gone
deriving DecidableEq, Repr

/-- How an attempt ends to listen. -/
inductive PipesEnd
  /-- Both pipes were closed. -/
  | closed
  /-- No line came for too long. -/
  | silent
deriving DecidableEq, Repr

/-- The readers of both pipes, where `true` is the pipe for errors, and the attempt. -/
structure Pipes where
  reader : Bool → PipeReader
  /-- The lines put into the queue and not yet taken, the oldest first. -/
  queue : List String
  /-- The lines written down, in order. -/
  written : List String
  ending : Option PipesEnd

namespace Pipes

/-- Before the first step. -/
def start (lines : Bool → List String) : Pipes := ⟨fun pipe => .reading (lines pipe), [], [], none⟩

/-- One step of a reader or of the attempt: `stream_once` with one `spawn_line_reader` for each pipe
    (`process/runner`, lines 286–355) and the channel of `capacity` lines between them. -/
inductive Step (capacity : Nat) (s : Pipes) : Pipes → Prop where
  /-- A reader puts a line into the queue, where there is room. -/
  | send {pipe : Bool} {line : String} {ahead : List String} :
      s.reader pipe = .reading (line :: ahead) → s.queue.length < capacity →
      Step capacity s { s with
        reader := Function.update s.reader pipe (.reading ahead)
        queue := s.queue ++ [line] }
  /-- A reader comes to the end of its pipe and hangs up. -/
  | hangUp (pipe : Bool) : s.reader pipe = .reading [] →
      Step capacity s { s with reader := Function.update s.reader pipe .gone }
  /-- The attempt takes the oldest line and writes it down. -/
  | write {line : String} {rest : List String} : s.ending = none → s.queue = line :: rest →
      Step capacity s { s with queue := rest, written := s.written ++ [line] }
  /-- No line is left, and none will come. -/
  | close : s.ending = none → s.queue = [] → (∀ pipe, s.reader pipe = .gone) →
      Step capacity s { s with ending := some .closed }
  /-- The attempt has waited too long. -/
  | giveUp : s.ending = none → Step capacity s { s with ending := some .silent }
  /-- The readers of an attempt that was given up are stopped. -/
  | abort (pipe : Bool) : s.ending = some .silent →
      Step capacity s { s with reader := Function.update s.reader pipe .gone }

/-- Any number of steps. -/
def Runs (capacity : Nat) : Pipes → Pipes → Prop := Relation.ReflTransGen (Step capacity)

variable {capacity : Nat} {lines : Bool → List String} {s s' : Pipes}

/-! ## What is kept -/

/-- The lines sent so far are what the readers have no longer ahead of them. A reader that is gone
    has sent all its lines, unless the attempt was given up. -/
structure Sent (lines sent : Bool → List String) (s : Pipes) : Prop where
  reading : ∀ pipe ahead, s.reader pipe = .reading ahead → lines pipe = sent pipe ++ ahead
  isPrefix : ∀ pipe, sent pipe <+: lines pipe
  gone : ∀ pipe, s.reader pipe = .gone → s.ending ≠ some .silent → sent pipe = lines pipe

/-- What was written down, and after it what waits in the queue, are the lines sent so far. -/
def Account (lines : Bool → List String) (s : Pipes) : Prop :=
  ∃ sent, Sent lines sent s ∧ Interleaving (sent false) (sent true) (s.written ++ s.queue)

theorem account_start (lines : Bool → List String) : Account lines (start lines) := by
  refine ⟨fun _ => [], ⟨?_, fun _ => List.nil_prefix, ?_⟩, .nil⟩
  · rintro pipe ahead ⟨⟩
    rfl
  · rintro pipe ⟨⟩

theorem interleaving_update {sent : Bool → List String} {m : List String} (pipe : Bool)
    (line : String) (h : Interleaving (sent false) (sent true) m) :
    Interleaving (Function.update sent pipe (sent pipe ++ [line]) false)
      (Function.update sent pipe (sent pipe ++ [line]) true) (m ++ [line]) := by
  cases pipe with
  | false => simpa using h.append (.of_left [line])
  | true => simpa using h.append (.of_right [line])

theorem account_send {pipe : Bool} {line : String} {ahead : List String}
    (hread : s.reader pipe = .reading (line :: ahead)) (h : Account lines s) :
    Account lines { s with
      reader := Function.update s.reader pipe (.reading ahead)
      queue := s.queue ++ [line] } := by
  obtain ⟨sent, hsent, hwritten⟩ := h
  have hlines := hsent.reading pipe _ hread
  refine ⟨Function.update sent pipe (sent pipe ++ [line]), ⟨?_, ?_, ?_⟩, ?_⟩
  · intro other rest hrest
    by_cases heq : other = pipe
    · subst heq
      simp only [Function.update_self, PipeReader.reading.injEq] at hrest ⊢
      simpa [hrest] using hlines
    · simp only [Function.update_of_ne heq] at hrest ⊢
      exact hsent.reading other rest hrest
  · intro other
    by_cases heq : other = pipe
    · subst heq
      rw [Function.update_self, hlines]
      exact ⟨ahead, by simp⟩
    · rw [Function.update_of_ne heq]
      exact hsent.isPrefix other
  · intro other hgone hopen
    by_cases heq : other = pipe
    · subst heq
      simp at hgone
    · simp only [Function.update_of_ne heq] at hgone ⊢
      exact hsent.gone other hgone hopen
  · rw [← List.append_assoc]
    exact interleaving_update pipe line hwritten

theorem account_gone {pipe : Bool} (hdone : s.reader pipe = .reading [] ∨ s.ending = some .silent)
    (h : Account lines s) :
    Account lines { s with reader := Function.update s.reader pipe .gone } := by
  obtain ⟨sent, hsent, hwritten⟩ := h
  refine ⟨sent, ⟨?_, hsent.isPrefix, ?_⟩, hwritten⟩
  · intro other rest hrest
    by_cases heq : other = pipe
    · subst heq
      simp at hrest
    · exact hsent.reading other rest (by simpa [Function.update_of_ne heq] using hrest)
  · intro other hgone hopen
    by_cases heq : other = pipe
    · subst heq
      rcases hdone with hread | hsilent
      · simpa using (hsent.reading other [] hread).symm
      · exact absurd hsilent hopen
    · exact hsent.gone other (by simpa [Function.update_of_ne heq] using hgone) hopen

theorem account_step (h : Step capacity s s') (hs : Account lines s) : Account lines s' := by
  cases h with
  | send hread _ => exact account_send hread hs
  | hangUp pipe hread => exact account_gone (Or.inl hread) hs
  | abort pipe hsilent => exact account_gone (Or.inr hsilent) hs
  | write _ hq =>
    obtain ⟨sent, hsent, hwritten⟩ := hs
    exact ⟨sent, ⟨hsent.reading, hsent.isPrefix, hsent.gone⟩, by simpa [hq] using hwritten⟩
  | close hopen _ _ | giveUp hopen =>
    obtain ⟨sent, hsent, hwritten⟩ := hs
    exact ⟨sent, ⟨hsent.reading, hsent.isPrefix,
      fun pipe hgone _ => hsent.gone pipe hgone (by simp [hopen])⟩, hwritten⟩

theorem account_of_runs (h : Runs capacity (start lines) s) : Account lines s := by
  induction h with
  | refl => exact account_start lines
  | tail _ hstep ih => exact account_step hstep ih

/-- Pipes are taken for closed only when nothing is left in the queue or ahead of a reader. -/
theorem drained_of_runs (h : Runs capacity (start lines) s) (hend : s.ending = some .closed) :
    s.queue = [] ∧ ∀ pipe, s.reader pipe = .gone := by
  induction h with
  | refl => cases hend
  | tail _ hstep ih =>
    cases hstep with
    | close _ hq hgone => exact ⟨hq, hgone⟩
    | write hopen _ =>
      rw [show _ = some PipesEnd.closed from hend] at hopen
      cases hopen
    | giveUp _ => cases hend
    | abort _ hsilent =>
      rw [show _ = some PipesEnd.closed from hend] at hsilent
      cases hsilent
    | send hread _ | hangUp _ hread =>
      rw [(ih hend).2] at hread
      cases hread

/-! ## What can be written -/

/-- Readers with these lines ahead of them, and an attempt that has written some lines. -/
def midway (ahead : Bool → List String) (written : List String) : Pipes :=
  ⟨fun pipe => .reading (ahead pipe), [], written, none⟩

/-- A line that is the next of its pipe can be the next one written. -/
theorem runs_line (hcapacity : 1 ≤ capacity) {before ahead : Bool → List String} (pipe : Bool)
    {line : String} (hpipe : before pipe = line :: ahead pipe)
    (hothers : ∀ other, other ≠ pipe → before other = ahead other) (written : List String) :
    Runs capacity (midway before written) (midway ahead (written ++ [line])) := by
  have hreader : Function.update (midway before written).reader pipe (.reading (ahead pipe)) =
      (midway ahead (written ++ [line])).reader := by
    funext other
    by_cases heq : other = pipe
    · subst heq
      exact Function.update_self ..
    · rw [Function.update_of_ne heq]
      exact congrArg PipeReader.reading (hothers other heq)
  have hsend : Step capacity (midway before written) _ :=
    .send (congrArg PipeReader.reading hpipe) hcapacity
  rw [hreader] at hsend
  exact .head hsend (.single (.write rfl rfl))

/-- Lines ahead of the readers can be written in any order that keeps the order of each pipe. -/
theorem runs_interleaving (hcapacity : 1 ≤ capacity) {l r m : List String}
    (h : Interleaving l r m) (ahead : Bool → List String) (written : List String) :
    Runs capacity (midway (fun pipe => (bif pipe then r else l) ++ ahead pipe) written)
      (midway ahead (written ++ m)) := by
  induction h generalizing written with
  | nil =>
    have hsame : (fun pipe => (bif pipe then [] else []) ++ ahead pipe) = ahead := by
      funext pipe
      cases pipe <;> rfl
    rw [hsame, List.append_nil]
    exact .refl
  | @left a l r m _ ih =>
    have hline : Runs capacity
        (midway (fun pipe => (bif pipe then r else a :: l) ++ ahead pipe) written)
        (midway (fun pipe => (bif pipe then r else l) ++ ahead pipe) (written ++ [a])) :=
      runs_line hcapacity false rfl (by simp) written
    have hrest := ih (written ++ [a])
    rw [List.append_assoc] at hrest
    exact hline.trans hrest
  | @right a l r m _ ih =>
    have hline : Runs capacity
        (midway (fun pipe => (bif pipe then a :: r else l) ++ ahead pipe) written)
        (midway (fun pipe => (bif pipe then r else l) ++ ahead pipe) (written ++ [a])) :=
      runs_line hcapacity true rfl (by simp) written
    have hrest := ih (written ++ [a])
    rw [List.append_assoc] at hrest
    exact hline.trans hrest

/-- The lines of both pipes as those of one and those of the other. -/
theorem eq_bif (lines : Bool → List String) :
    lines = fun pipe => bif pipe then lines true else lines false := by
  funext pipe
  cases pipe <;> rfl

/-- What an attempt has written that was not given up: all lines of both pipes, those of each pipe
    in their order; and everything of this kind can be written. -/
theorem closed_iff (hcapacity : 1 ≤ capacity) {written : List String} :
    (∃ s, Runs capacity (start lines) s ∧ s.ending = some .closed ∧ s.written = written) ↔
      Interleaving (lines false) (lines true) written := by
  constructor
  · rintro ⟨s, hruns, hend, rfl⟩
    obtain ⟨sent, hsent, hwritten⟩ := account_of_runs hruns
    obtain ⟨hqueue, hgone⟩ := drained_of_runs hruns hend
    have hall : ∀ pipe, sent pipe = lines pipe :=
      fun pipe => hsent.gone pipe (hgone pipe) (by simp [hend])
    rw [hqueue, List.append_nil, hall, hall] at hwritten
    exact hwritten
  · intro h
    have hwrite := runs_interleaving hcapacity h (fun _ => []) []
    simp only [List.append_nil, List.nil_append, ← eq_bif lines] at hwrite
    refine ⟨_, hwrite.trans (.head (.hangUp false rfl) (.head (.hangUp true rfl)
      (.single (.close rfl rfl ?_)))), rfl, rfl⟩
    intro pipe
    cases pipe <;> simp

/-- What an attempt has written that was given up: a beginning of the lines of each pipe, in their
    order; and everything of this kind can be written. -/
theorem silent_iff (hcapacity : 1 ≤ capacity) {written : List String} :
    (∃ s, Runs capacity (start lines) s ∧ s.ending = some .silent ∧ s.written = written) ↔
      ∃ out errors, out <+: lines false ∧ errors <+: lines true ∧
        Interleaving out errors written := by
  constructor
  · rintro ⟨s, hruns, -, rfl⟩
    obtain ⟨sent, hsent, hwritten⟩ := account_of_runs hruns
    obtain ⟨out, errors, hout, herrors, h⟩ := hwritten.of_append
    exact ⟨out, errors, hout.trans (hsent.isPrefix false),
      herrors.trans (hsent.isPrefix true), h⟩
  · rintro ⟨out, errors, ⟨restOut, hout⟩, ⟨restErrors, herrors⟩, h⟩
    have hwrite := runs_interleaving hcapacity h
      (fun pipe => bif pipe then restErrors else restOut) []
    have hstart : (fun pipe => (bif pipe then errors else out) ++
        (bif pipe then restErrors else restOut)) = lines := by
      funext pipe
      cases pipe
      · exact hout
      · exact herrors
    rw [hstart] at hwrite
    exact ⟨_, hwrite.tail (.giveUp rfl), rfl, rfl⟩

end Pipes

end DataStaging
