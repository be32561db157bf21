import DataStaging.Proofs.Process.Accounting
import DataStaging.Proofs.Process.Passing
import Mathlib.Order.Nat

/-!
# Silence

An attempt gives its program up when no line of it has come for too long. It listens until the
program's streams are closed, and from then on it waits for the end, however long that takes: a
program that closes its streams and runs on in silence is not given up.

Results:
* `ofOpenStream_eq_nil_iff`: bytes complete a line if there is a line feed among them.
* `hears_listen`: where listening is given up, and where it is not.
* `run_streamingAttempt_cases`: what an attempt comes to.
* `timedOut_iff_silent`: which programs are given up, and which silences are missed.
-/

namespace DataStaging

open Lines Listening

/-! ## Line feeds -/

namespace Lines

variable {bytes line : Bytes}

theorem feed_mem_iff_isEnded (h : line ∈ chunks bytes) : 0x0A ∈ line ↔ isEnded line = true := by
  induction bytes generalizing line with
  | nil => cases h
  | cons b rest ih =>
    unfold chunks at h
    split_ifs at h with hb
    · rcases List.mem_cons.mp h with rfl | h
      · simp [hb, isEnded]
      · exact ih h
    · split at h
      · obtain rfl := List.mem_singleton.mp h
        simp [isEnded, hb, Ne.symm hb]
      · rename_i first more heq
        have hfirst : first ∈ chunks rest := heq ▸ List.mem_cons_self
        rcases List.mem_cons.mp h with rfl | h
        · rw [isEnded_cons (ne_nil_of_mem_chunks hfirst), ← ih hfirst, List.mem_cons,
            or_iff_right (Ne.symm hb)]
        · exact ih (heq ▸ List.mem_cons_of_mem _ h)

/-- Bytes complete a line if there is a line feed among them. -/
theorem ofOpenStream_eq_nil_iff : ofOpenStream bytes = [] ↔ 0x0A ∉ bytes := by
  have hfeed : 0x0A ∈ bytes ↔ ∃ line ∈ chunks bytes, 0x0A ∈ line := by
    rw [← List.mem_flatten, flatten_chunks]
  rw [ofOpenStream, List.map_eq_nil_iff, List.filter_eq_nil_iff, hfeed, not_exists]
  refine forall_congr' fun line => ?_
  rw [not_and]
  exact forall_congr' fun hline => not_congr (feed_mem_iff_isEnded hline).symm

end Lines

theorem Listening.feed_notMem_unfinished (bytes : Bytes) : 0x0A ∉ unfinished bytes := by
  unfold unfinished
  cases hlast : (chunks bytes).getLast? with
  | none => exact List.not_mem_nil
  | some line =>
    cases hended : isEnded line with
    | true => simp [Option.filter_some, hended]
    | false =>
      rw [Option.filter_some, hended]
      intro hfeed
      rw [(feed_mem_iff_isEnded (List.mem_of_getLast? hlast)).mp hfeed] at hended
      cases hended

/-! ## Times -/

/-- The times of the line feeds among emissions that begin at a time. -/
def feedTimes : Nat → List Emission → List Nat
  | _, [] => []
  | now, e :: rest =>
    (if 0x0A ∈ e.bytes then [now + e.after] else []) ++ feedTimes (now + e.after) rest

/-- The time after emissions that begin at a time. -/
def timeAfter (now : Nat) (es : List Emission) : Nat := es.foldl (fun time e => time + e.after) now

/-- From a time on, no line comes for too long, and neither does the end. -/
structure SilentFrom (idle : Duration) (lines : List Nat) (finish : Option Nat) (t : Nat) :
    Prop where
  lines : ∀ u ∈ lines, t < u → isTooLong idle (u - t) = true
  finish : ∀ u ∈ finish, isTooLong idle (u - t) = true

variable {idle : Duration} {closing : Option Nat} {es : List Emission} {l : Listening} {now : Nat}

theorem isTooLong_mono {a b : Nat} (hab : a ≤ b) (ha : isTooLong idle a = true) :
    isTooLong idle b = true :=
  decide_eq_true ((of_decide_eq_true ha).trans (Nat.mul_le_mul_right 1000 hab))

theorem le_timeAfter (now : Nat) (es : List Emission) : now ≤ timeAfter now es := by
  induction es generalizing now with
  | nil => exact Nat.le_refl _
  | cons e rest ih => exact (Nat.le_add_right _ _).trans (ih (now + e.after))

theorem mem_feedTimes {u : Nat} (hu : u ∈ feedTimes now es) : now ≤ u ∧ u ≤ timeAfter now es := by
  induction es generalizing now with
  | nil => cases hu
  | cons e rest ih =>
    have hlast : now + e.after ≤ timeAfter now (e :: rest) := le_timeAfter _ rest
    rcases List.mem_append.mp hu with hu | hu
    · split_ifs at hu
      · obtain rfl := List.mem_singleton.mp hu
        exact ⟨Nat.le_add_right _ _, hlast⟩
      · cases hu
    · obtain ⟨hnow, hu⟩ := ih hu
      exact ⟨(Nat.le_add_right _ _).trans hnow, hu⟩

namespace SilentFrom

variable {lines : List Nat} {finish : Option Nat} {t since : Nat}

/-- All that may still come comes too late. -/
theorem of_late {next : Nat} (hlate : isTooLong idle (next - since) = true)
    (hlines : ∀ u ∈ lines, next ≤ u) (hfinish : ∀ u ∈ finish, next ≤ u) :
    SilentFrom idle lines finish since where
  lines u hu _ := isTooLong_mono (Nat.sub_le_sub_right (hlines u hu) since) hlate
  finish u hu := isTooLong_mono (Nat.sub_le_sub_right (hfinish u hu) since) hlate

/-- After a line that comes in time, silence begins with it or later. -/
theorem cons_iff {next : Nat} (hsince : since ≤ next)
    (hearly : isTooLong idle (next - since) = false) :
    (since ≤ t ∧ SilentFrom idle (next :: lines) finish t) ↔
      next ≤ t ∧ SilentFrom idle lines finish t := by
  constructor
  · rintro ⟨ht, hlines, hfinish⟩
    refine ⟨?_, fun u hu => hlines u (List.mem_cons_of_mem _ hu), hfinish⟩
    by_contra hnext
    have hlate := hlines next List.mem_cons_self (Nat.not_le.mp hnext)
    rw [isTooLong_mono (Nat.sub_le_sub_left ht next) hlate] at hearly
    cases hearly
  · rintro ⟨ht, hlines, hfinish⟩
    refine ⟨hsince.trans ht, ?_, hfinish⟩
    exact List.forall_mem_cons.mpr ⟨fun hnext => absurd hnext (Nat.not_lt.mpr ht), hlines⟩

/-- A line that comes with the end makes no difference. -/
theorem append_iff : SilentFrom idle (lines ++ finish.toList) finish t ↔
    SilentFrom idle lines finish t := by
  constructor
  · rintro ⟨hlines, hfinish⟩
    exact ⟨fun u hu => hlines u (List.mem_append_left _ hu), hfinish⟩
  · rintro ⟨hlines, hfinish⟩
    refine ⟨List.forall_mem_append.mpr ⟨hlines, fun u hu _ => ?_⟩, hfinish⟩
    exact hfinish u (Option.mem_toList.mp hu)

end SilentFrom

/-! ## Listening -/

/-- Nothing unfinished holds a line feed, and the silence so far can be borne. -/
structure Listening.Attentive (idle : Duration) (l : Listening) : Prop where
  out : 0x0A ∉ l.out
  errors : 0x0A ∉ l.errors
  silence_le : l.silence ≤ l.elapsed
  bearable : isTooLong idle l.silence = false

/-- The time of the last line, or of the beginning. -/
def Listening.since (l : Listening) : Nat := l.elapsed - l.silence

/-- Listening is given up after the first time that begins a silence, and there is none if it comes
    to its end. -/
def Hears (idle : Duration) (begins : Nat → Prop) (finish : Option Nat) : Heard → Prop
  | .silent _ elapsed => ∃ t, elapsed = t + idle.micros ∧ begins t ∧ ∀ t', begins t' → t ≤ t'
  | .closed _ elapsed => finish = some elapsed ∧ ∀ t, ¬begins t

theorem silence_hear (h : l.Attentive idle) (e : Emission) :
    (l.hear e).silence = if 0x0A ∈ e.bytes then 0 else l.silence + e.after := by
  have hfeed : (ofOpenStream ((if e.toErrors then l.errors else l.out) ++ e.bytes)).isEmpty = true ↔
      0x0A ∉ e.bytes := by
    rw [List.isEmpty_iff, ofOpenStream_eq_nil_iff, List.mem_append, or_iff_right]
    split_ifs
    · exact h.errors
    · exact h.out
  unfold hear
  simp only [hfeed]
  split_ifs <;> simp_all

theorem Listening.Attentive.hear (h : l.Attentive idle) (e : Emission)
    (hbearable : isTooLong idle (l.silence + e.after) = false) : (l.hear e).Attentive idle where
  out := by
    unfold Listening.hear
    split_ifs
    · exact h.out
    · exact feed_notMem_unfinished _
  errors := by
    unfold Listening.hear
    split_ifs
    · exact feed_notMem_unfinished _
    · exact h.errors
  silence_le := by
    rw [silence_hear h]
    split_ifs
    · exact Nat.zero_le _
    · exact Nat.add_le_add_right h.silence_le e.after
  bearable := by
    rw [silence_hear h]
    split_ifs
    · by_contra hlate
      rw [Bool.not_eq_false] at hlate
      rw [isTooLong_mono (Nat.zero_le _) hlate] at hbearable
      cases hbearable
    · exact hbearable

theorem hears_giveUp (h : l.Attentive idle) {begins : Nat → Prop} {finish : Option Nat}
    (hsince : begins l.since) (hleast : ∀ t, begins t → l.since ≤ t) :
    Hears idle begins finish (l.giveUp idle) := by
  refine ⟨l.since, ?_, hsince, hleast⟩
  have hsilence : l.silence ≤ idle.micros := by
    have hbearable := h.bearable
    rw [isTooLong, decide_eq_false_iff_not] at hbearable
    unfold Duration.micros
    omega
  have hle := h.silence_le
  unfold since
  omega

/-- From this time on, none of the emissions that are left brings a line in time. -/
def Listening.SilentAt (l : Listening) (idle : Duration) (closing : Option Nat)
    (es : List Emission) (t : Nat) : Prop :=
  l.since ≤ t ∧
    SilentFrom idle (feedTimes l.elapsed es) (closing.map (timeAfter l.elapsed es + ·)) t

theorem Listening.Attentive.add_sub_since (h : l.Attentive idle) (gap : Nat) :
    l.elapsed + gap - l.since = l.silence + gap := by
  have hle := h.silence_le
  unfold since
  omega

/-- If the next emission comes too late, silence has begun. -/
theorem silentAt_since (h : l.Attentive idle) {e : Emission}
    (hlate : isTooLong idle (l.silence + e.after) = true) (closing : Option Nat)
    (rest : List Emission) : l.SilentAt idle closing (e :: rest) l.since := by
  refine ⟨Nat.le_refl _, .of_late (h.add_sub_since e.after ▸ hlate) ?_ ?_⟩
  · intro u hu
    rcases List.mem_append.mp hu with hu | hu
    · split_ifs at hu
      · exact (List.mem_singleton.mp hu).ge
      · cases hu
    · exact (mem_feedTimes hu).1
  · intro u hu
    obtain ⟨gap, -, rfl⟩ := Option.map_eq_some_iff.mp hu
    exact (le_timeAfter _ rest).trans (Nat.le_add_right _ _)

/-- If it comes in time, silence begins where it does after it was heard. -/
theorem silentAt_hear_iff (h : l.Attentive idle) {e : Emission}
    (hearly : isTooLong idle (l.silence + e.after) = false) {rest : List Emission} {t : Nat} :
    l.SilentAt idle closing (e :: rest) t ↔ (l.hear e).SilentAt idle closing rest t := by
  have hle := h.silence_le
  unfold SilentAt
  by_cases hfeed : 0x0A ∈ e.bytes
  · have hsince : (l.hear e).since = l.elapsed + e.after := by
      rw [since, silence_hear h, if_pos hfeed]
      rfl
    rw [hsince, feedTimes, if_pos hfeed]
    exact SilentFrom.cons_iff (by unfold since; omega) (h.add_sub_since e.after ▸ hearly)
  · have hsince : (l.hear e).since = l.since := by
      rw [since, since, silence_hear h, if_neg hfeed]
      exact Nat.add_sub_add_right _ _ _
    rw [hsince, feedTimes, if_neg hfeed]
    rfl

/-- Listening is given up at the first silence that lasts too long before the end, if there is
    one. -/
theorem hears_listen (h : l.Attentive idle) :
    Hears idle (l.SilentAt idle closing es) (closing.map (timeAfter l.elapsed es + ·))
      (Listening.listen idle closing es l) := by
  induction es generalizing l with
  | nil =>
    have hnone : ∀ u ∈ feedTimes l.elapsed [], l.since < u → isTooLong idle (u - l.since) = true :=
      fun u hu => absurd hu List.not_mem_nil
    unfold Listening.listen
    cases closing with
    | none =>
      refine hears_giveUp h ⟨Nat.le_refl _, hnone, ?_⟩ fun t ht => ht.1
      rintro u ⟨⟩
    | some gap =>
      have hgap := h.add_sub_since gap
      simp only
      split_ifs with hlate
      · refine hears_giveUp h ⟨Nat.le_refl _, hnone, ?_⟩ fun t ht => ht.1
        rintro u ⟨⟩
        exact hgap ▸ hlate
      · refine ⟨rfl, ?_⟩
        rintro t ⟨ht, hsilent⟩
        have hend := hsilent.finish _ rfl
        exact hlate (isTooLong_mono (hgap ▸ Nat.sub_le_sub_left ht _) hend)
  | cons e rest ih =>
    unfold Listening.listen
    split_ifs with hlate
    · exact hears_giveUp h (silentAt_since h hlate closing rest) fun t ht => ht.1
    · rw [Bool.not_eq_true] at hlate
      have hsame : l.SilentAt idle closing (e :: rest) = (l.hear e).SilentAt idle closing rest :=
        funext fun t => propext (silentAt_hear_iff h hlate)
      rw [hsame]
      exact ih (h.hear e hlate)

theorem Listening.attentive_start (hidle : 0 < idle.nanos) : Listening.start.Attentive idle :=
  ⟨List.not_mem_nil, List.not_mem_nil, Nat.le_refl _,
    decide_eq_false (Nat.not_le.mpr (by simpa [start] using hidle))⟩

/-! ## The life of a program -/

namespace Behaviour

variable (b : Behaviour)

/-- When both streams are closed: by the program, or with its end. -/
def closed? : Option Nat := (b.closing.or b.lasting).map (b.emitting + ·)

/-- The text of one of the streams does not end with a line feed. -/
def endsOpen : Bool := !(unfinished (b.stream false) ++ unfinished (b.stream true)).isEmpty

/-- The times at which lines come. A last one that lacks its line feed comes when the streams are
    closed. -/
def lineTimes : List Nat :=
  feedTimes 0 b.emissions ++ if b.endsOpen then b.closed?.toList else []

variable {b} {u v t last : Nat}

theorem total?_eq_closed? (hclosing : b.closing = none) : b.total? = b.closed? := by
  rw [total?, closed?, hclosing]
  rfl

theorem total?_of_closed? (hclosed : b.closed? = some u) (hlasting : b.lasting = some last) :
    b.total? = some (u + if b.closing.isSome then last else 0) := by
  rw [closed?, hlasting] at hclosed
  rw [total?, hlasting]
  cases hclosing : b.closing with
  | none =>
    rw [hclosing] at hclosed
    exact hclosed
  | some gap =>
    rw [hclosing] at hclosed
    obtain rfl := Option.some.inj hclosed
    rfl

/-- A program closes its streams before it ends, or with its end. -/
theorem closed_le_total (hclosed : b.closed? = some u) (htotal : b.total? = some v) : u ≤ v := by
  obtain ⟨last, hlasting, -⟩ := Option.map_eq_some_iff.mp htotal
  obtain rfl := Option.some.inj ((total?_of_closed? hclosed hlasting).symm.trans htotal)
  exact Nat.le_add_right _ _

/-- A program that never closes its streams never ends. -/
theorem total?_of_closed?_eq_none (hclosed : b.closed? = none) : b.total? = none := by
  rw [closed?, Option.map_eq_none_iff, Option.or_eq_none_iff] at hclosed
  rw [total?, hclosed.2]
  rfl

/-- Lines come before the streams are closed, or with that. -/
theorem le_closed_of_mem_lineTimes (hu : u ∈ b.lineTimes) (hclosed : b.closed? = some v) :
    u ≤ v := by
  rcases List.mem_append.mp hu with hu | hu
  · obtain ⟨gap, -, rfl⟩ := Option.map_eq_some_iff.mp hclosed
    exact (mem_feedTimes hu).2.trans (Nat.le_add_right _ _)
  · split_ifs at hu
    · rw [Option.mem_toList, hclosed] at hu
      exact (Option.some.inj hu).ge
    · cases hu

theorem hears_emissions (hidle : 0 < idle.nanos) (b : Behaviour) :
    Hears idle (SilentFrom idle b.lineTimes b.closed?) b.closed?
      (Listening.listen idle (b.closing.or b.lasting) b.emissions .start) := by
  have hsame : SilentFrom idle b.lineTimes b.closed? =
      Listening.start.SilentAt idle (b.closing.or b.lasting) b.emissions := by
    funext t
    have hend : SilentFrom idle b.lineTimes b.closed? t ↔
        SilentFrom idle (feedTimes 0 b.emissions) b.closed? t := by
      rw [lineTimes]
      split_ifs
      · exact SilentFrom.append_iff
      · rw [List.append_nil]
    exact propext (hend.trans (and_iff_right (Nat.zero_le t)).symm)
  rw [hsame]
  exact hears_listen (attentive_start hidle)

/-- A silence before the streams are closed is one before the program ends. -/
theorem silentFrom_total (h : SilentFrom idle b.lineTimes b.closed? t) :
    SilentFrom idle b.lineTimes b.total? t := by
  refine ⟨h.lines, fun v hv => ?_⟩
  cases hclosed : b.closed? with
  | none =>
    rw [total?_of_closed?_eq_none hclosed] at hv
    cases hv
  | some u =>
    have hle : u ≤ v := closed_le_total hclosed hv
    exact isTooLong_mono (Nat.sub_le_sub_right hle t) (h.finish u hclosed)

/-- A silence before the program ends that is none before its streams are closed comes after all
    lines. -/
theorem le_of_silentFrom_total (h : SilentFrom idle b.lineTimes b.total? t)
    (hclosed : ¬SilentFrom idle b.lineTimes b.closed? t) (hu : u ∈ b.lineTimes) : u ≤ t := by
  by_contra ht
  rw [Nat.not_le] at ht
  refine hclosed ⟨h.lines, fun v hv => ?_⟩
  have hle : u ≤ v := le_closed_of_mem_lineTimes hu hv
  exact isTooLong_mono (Nat.sub_le_sub_right hle t) (h.lines u hu ht)

end Behaviour

/-! ## On a host -/

section

variable {h : Host} {command : Command} {program : Program} {b : Behaviour} {lines : Notices}
  {elapsed last : Nat}

/-- An attempt is given up after the first silence that lasts too long, or there is none and it
    takes until its program ends. -/
theorem run_streamingAttempt_cases (hidle : 0 < idle.nanos) (hnul : command.isUnstartable = false)
    (hprogram : h.programs command.program = some program)
    (hb : program (h.occasion command) = b) (hdrops : h.dropsOnStop = false) :
    (∃ t lines, (Run.streamingAttempt command idle).run h =
        (.ok .timedOut, h.afterHearing command b lines (t + idle.micros)) ∧
      SilentFrom idle b.lineTimes b.closed? t ∧
      ∀ t', SilentFrom idle b.lineTimes b.closed? t' → t ≤ t') ∨
    (∀ t, ¬SilentFrom idle b.lineTimes b.closed? t) ∧ ∃ lines,
      (∀ total, b.total? = some total → (Run.streamingAttempt command idle).run h =
        (.ok b.outcome, h.afterHearing command b lines total)) ∧
      (b.total? = none → ∃ h',
        (Run.streamingAttempt command idle).run h = (.error .stuck, h')) := by
  have hhears := b.hears_emissions hidle
  cases hheard : Listening.listen idle (b.closing.or b.lasting) b.emissions .start with
  | silent lines elapsed =>
    rw [hheard] at hhears
    obtain ⟨t, rfl, ht, hleast⟩ := hhears
    exact Or.inl ⟨t, lines, run_streamingAttempt_of_silent hnul hprogram hb hdrops hheard, ht,
      hleast⟩
  | closed lines elapsed =>
    rw [hheard] at hhears
    obtain ⟨hclosed, hnever⟩ := hhears
    have hrun := run_streamingAttempt_of_closed hnul hprogram hb hdrops hheard
    refine Or.inr ⟨hnever, lines, fun total htotal => ?_, fun hstuck => ?_⟩
    · obtain ⟨last, hlasting, -⟩ := Option.map_eq_some_iff.mp htotal
      rw [Behaviour.total?_of_closed? hclosed hlasting] at htotal
      obtain rfl := Option.some.inj htotal
      rw [hrun, hlasting]
    · have hlasting : b.lasting = none := Option.map_eq_none_iff.mp hstuck
      rw [hrun, hlasting]
      exact ⟨_, rfl⟩

/-- An attempt is given up exactly if its program falls silent for too long before it closes its
    streams, and then so long after the first time from which that holds; so no program is given up
    that was never silent so long before its end. Otherwise the attempt takes until the program
    ends, if it does, and ends as the program does. A silence is missed exactly if it is none before
    the program closes its streams, which it does itself, and none of its lines comes later. -/
theorem timedOut_iff_silent (hidle : 0 < idle.nanos) (hnul : command.isUnstartable = false)
    (hprogram : h.programs command.program = some program)
    (hb : program (h.occasion command) = b) (hdrops : h.dropsOnStop = false) :
    ((∃ h', (Run.streamingAttempt command idle).run h = (.ok .timedOut, h')) ↔
      ∃ t, SilentFrom idle b.lineTimes b.closed? t) ∧
    (∀ h', (Run.streamingAttempt command idle).run h = (.ok .timedOut, h') →
      ∃ t, SilentFrom idle b.lineTimes b.closed? t ∧ SilentFrom idle b.lineTimes b.total? t ∧
        (∀ t', SilentFrom idle b.lineTimes b.closed? t' → t ≤ t') ∧
        h'.clock = h.clock + (t + idle.micros)) ∧
    ((∀ t, ¬SilentFrom idle b.lineTimes b.closed? t) →
      (∀ total, b.total? = some total → ∃ h',
        (Run.streamingAttempt command idle).run h = (.ok b.outcome, h') ∧
          h'.clock = h.clock + total) ∧
      (b.total? = none → ∃ h',
        (Run.streamingAttempt command idle).run h = (.error .stuck, h'))) ∧
    (((∃ t, SilentFrom idle b.lineTimes b.total? t) ∧
        ¬∃ h', (Run.streamingAttempt command idle).run h = (.ok .timedOut, h')) ↔
      b.closing.isSome ∧ (∀ t, ¬SilentFrom idle b.lineTimes b.closed? t) ∧
        ∃ t, (∀ u ∈ b.lineTimes, u ≤ t) ∧ ∀ total ∈ b.total?, isTooLong idle (total - t)) := by
  have hcases := run_streamingAttempt_cases hidle hnul hprogram hb hdrops
  have hiff : (∃ h', (Run.streamingAttempt command idle).run h = (.ok .timedOut, h')) ↔
      ∃ t, SilentFrom idle b.lineTimes b.closed? t := by
    rcases hcases with ⟨t, lines, hrun, ht, -⟩ | ⟨hnever, lines, hends, hstuck⟩
    · exact ⟨fun _ => ⟨t, ht⟩, fun _ => ⟨_, hrun⟩⟩
    · refine ⟨?_, fun ⟨t, ht⟩ => absurd ht (hnever t)⟩
      rintro ⟨h', hrun⟩
      cases htotal : b.total? with
      | none =>
        obtain ⟨h'', hrun'⟩ := hstuck htotal
        cases hrun.symm.trans hrun'
      | some total =>
        have hsame := congrArg Prod.fst (hrun.symm.trans (hends total htotal))
        exact absurd (Except.ok.inj hsame).symm b.outcome_ne_timedOut
  refine ⟨hiff, fun h' hrun => ?_, fun hnever => ?_, ?_, ?_⟩
  · rcases hcases with ⟨t, lines, hrun', ht, hleast⟩ | ⟨hnever, -⟩
    · cases hrun.symm.trans hrun'
      exact ⟨t, ht, Behaviour.silentFrom_total ht, hleast, rfl⟩
    · obtain ⟨t, ht⟩ := hiff.mp ⟨h', hrun⟩
      exact absurd ht (hnever t)
  · rcases hcases with ⟨t, -, -, ht, -⟩ | ⟨-, lines, hends, hstuck⟩
    · exact absurd ht (hnever t)
    · exact ⟨fun total htotal => ⟨_, hends total htotal, rfl⟩, hstuck⟩
  · rintro ⟨⟨t, ht⟩, hmissed⟩
    have hnever : ∀ t, ¬SilentFrom idle b.lineTimes b.closed? t := fun t ht =>
      hmissed (hiff.mpr ⟨t, ht⟩)
    refine ⟨?_, hnever, t, fun u hu => Behaviour.le_of_silentFrom_total ht (hnever t) hu, ht.finish⟩
    by_contra hclosing
    rw [Behaviour.total?_eq_closed? (by simpa using hclosing)] at ht
    exact hnever t ht
  · rintro ⟨-, hnever, t, hlines, hfinish⟩
    refine ⟨⟨t, fun u hu ht => absurd (hlines u hu) (Nat.not_le.mpr ht), hfinish⟩, ?_⟩
    exact fun hrun => (hiff.mp hrun).elim hnever

end

/-! ## A silence that is missed -/

/-- Writes a line, closes its streams at once, and runs on for six tenths of a second. -/
def earlyCloser : Behaviour :=
  ⟨.empty, [⟨0, false, [0x61, 0x0A]⟩], some 0, some 600000, some 0, none⟩

/-- The host's programs all do so. -/
def closingStage : Host :=
  { Retry.stage fun _ => .succeeded () with programs := fun _ => some fun _ => earlyCloser }

/-- It is not given up after two tenths of a second, though it was silent for longer. -/
theorem missed_silence_of_earlyCloser :
    (∃ h', (Run.streamingAttempt (.ofProgram "sync") (.ofMillis 200)).run closingStage =
      (.ok (.succeeded ()), h') ∧ h'.clock = 600000) ∧
    (∃ t, SilentFrom (.ofMillis 200) earlyCloser.lineTimes earlyCloser.total? t) ∧
    ¬∃ h', (Run.streamingAttempt (.ofProgram "sync") (.ofMillis 200)).run closingStage =
      (.ok .timedOut, h') := by
  obtain ⟨-, -, hends, hmissed⟩ := @timedOut_iff_silent (.ofMillis 200) closingStage
    (.ofProgram "sync") (fun _ => earlyCloser) earlyCloser (by decide) (by decide) rfl rfl rfl
  have htimes : earlyCloser.lineTimes = [0] := by decide +kernel
  have hnever : ∀ t, ¬SilentFrom (.ofMillis 200) earlyCloser.lineTimes earlyCloser.closed? t := by
    intro t ht
    have hlate := ht.finish 0 rfl
    rw [Nat.zero_sub] at hlate
    cases hlate
  refine ⟨(hends hnever).1 600000 rfl, hmissed.mpr ⟨rfl, hnever, 0, ?_, ?_⟩⟩
  · simp [htimes]
  · rintro total ⟨⟩
    rfl

end DataStaging
