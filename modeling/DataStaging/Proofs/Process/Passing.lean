import DataStaging.Process.Run
import DataStaging.Proofs.Outcome
import DataStaging.Proofs.Process.Pipes
import DataStaging.Proofs.Process.Starts

/-!
# Lines passed on

An attempt hears the bytes of both pipes piece by piece and passes every line on as soon as it is
complete. What it has passed on in the end is what it would have got from each pipe read as a whole,
with the lines of the two pipes between each other.

Results:
* `ofStream_append`: the lines of a stream that comes in two pieces.
* `interleaving_listen_closed`, `interleaving_listen_silent`: the lines heard of a program.
* `passed_on_iff`: what two readers, a queue and an attempt can write, and what an attempt on a host
  writes.
-/

namespace DataStaging

/-! ## Streams in pieces -/

namespace Lines

theorem ne_nil_of_mem_chunks {bytes line : Bytes} (h : line ∈ chunks bytes) : line ≠ [] := by
  induction bytes generalizing line with
  | nil => cases h
  | cons b rest ih =>
    unfold chunks at h
    split_ifs at h
    · rcases List.mem_cons.mp h with rfl | h
      · exact List.cons_ne_nil _ _
      · exact ih h
    · split at h
      · obtain rfl := List.mem_singleton.mp h
        exact List.cons_ne_nil _ _
      · rename_i first more heq
        rcases List.mem_cons.mp h with rfl | h
        · exact List.cons_ne_nil _ _
        · exact ih (heq ▸ List.mem_cons_of_mem _ h)

theorem chunks_cons_of_ne {b : UInt8} (h : b ≠ 0x0A) {rest line : Bytes} {more : List Bytes}
    (hrest : chunks rest = line :: more) : chunks (b :: rest) = (b :: line) :: more := by
  rw [chunks, if_neg h, hrest]

theorem isEnded_cons {line : Bytes} (h : line ≠ []) (b : UInt8) :
    isEnded (b :: line) = isEnded line := by
  obtain ⟨c, rest, rfl⟩ := List.exists_cons_of_ne_nil h
  rw [isEnded, isEnded, List.getLast?_cons_cons]

/-- Only the last line of a stream can lack its line feed. -/
theorem chunks_of_not_isEnded {bytes line : Bytes} {more : List Bytes}
    (h : chunks bytes = line :: more) (hended : isEnded line = false) : more = [] := by
  induction bytes generalizing line with
  | nil => cases h
  | cons b rest ih =>
    unfold chunks at h
    split_ifs at h with hb
    · obtain ⟨rfl, -⟩ := List.cons.inj h
      rw [hb] at hended
      cases hended
    · split at h
      · exact (List.cons.inj h).2.symm
      · rename_i first others heq
        obtain ⟨rfl, rfl⟩ := List.cons.inj h
        have hfirst : first ≠ [] := ne_nil_of_mem_chunks (heq ▸ List.mem_cons_self)
        exact ih heq (isEnded_cons hfirst b ▸ hended)

end Lines

open Lines Listening

/-- What is unfinished does not depend on a line that was ended. -/
theorem unfinished_of_isEnded {bytes line : Bytes} {more : List Bytes}
    (h : chunks bytes = line :: more) (hended : isEnded line = true) :
    unfinished bytes = (more.getLast?.filter (fun line => !isEnded line)).getD [] := by
  rw [unfinished, h]
  cases more with
  | nil =>
    rw [List.getLast?_singleton, Option.filter_some, hended]
    rfl
  | cons next others => rw [List.getLast?_cons_cons]

/-- A stream without a line feed is unfinished as a whole. -/
theorem unfinished_of_not_isEnded {bytes line : Bytes} (h : chunks bytes = [line])
    (hended : isEnded line = false) : unfinished bytes = bytes := by
  rw [unfinished, h, List.getLast?_singleton, Option.filter_some, hended, ← flatten_chunks bytes, h]
  simp

/-- The lines of a stream that comes in two pieces: what the first leaves unfinished goes before the
    second. -/
theorem chunks_append (first second : Bytes) : chunks (first ++ second) =
    (chunks first).filter isEnded ++ chunks (unfinished first ++ second) := by
  induction first with
  | nil => rfl
  | cons b rest ih =>
    by_cases hb : b = 0x0A
    · subst hb
      have hchunks : chunks (0x0A :: rest) = [0x0A] :: chunks rest := by rw [chunks, if_pos rfl]
      have hsame : unfinished (0x0A :: rest) = unfinished rest := unfinished_of_isEnded hchunks rfl
      rw [hchunks, hsame, List.filter_cons_of_pos rfl, List.cons_append, List.cons_append, ← ih,
        chunks, if_pos rfl]
    have hopen : ∀ line, chunks (b :: rest) = [line] → isEnded line = false →
        chunks (b :: rest ++ second) = (chunks (b :: rest)).filter isEnded ++
          chunks (unfinished (b :: rest) ++ second) := by
      intro line hline hended
      rw [unfinished_of_not_isEnded hline hended, hline, List.filter_cons_of_neg (by simp [hended])]
      rfl
    cases hrest : chunks rest with
    | nil =>
      obtain rfl : rest = [] := by
        rw [← flatten_chunks rest, hrest]
        rfl
      refine hopen [b] (by rw [chunks, if_neg hb, hrest]) ?_
      simpa [isEnded] using hb
    | cons line more =>
      have hchunks := chunks_cons_of_ne hb hrest
      have hline : line ≠ [] := ne_nil_of_mem_chunks (hrest ▸ List.mem_cons_self)
      cases hended : isEnded line with
      | true =>
        have hends : isEnded (b :: line) = true := (isEnded_cons hline b).trans hended
        have hsame : unfinished (b :: rest) = unfinished rest := by
          rw [unfinished_of_isEnded hchunks hends, unfinished_of_isEnded hrest hended]
        rw [hrest, List.filter_cons_of_pos hended, List.cons_append] at ih
        rw [hchunks, hsame, List.filter_cons_of_pos hends, List.cons_append, List.cons_append,
          chunks_cons_of_ne hb ih]
      | false =>
        obtain rfl := chunks_of_not_isEnded hrest hended
        exact hopen _ hchunks ((isEnded_cons hline b).trans hended)

theorem ofStream_append (first second : Bytes) : ofStream (first ++ second) =
    ofOpenStream first ++ ofStream (unfinished first ++ second) := by
  rw [ofStream, chunks_append, List.map_append]
  rfl

/-! ## What is heard -/

/-- The bytes that some emissions bring to one of the two streams. -/
def brought (es : List Emission) (toErrors : Bool) : Bytes :=
  (es.filter (fun e => e.toErrors == toErrors)).flatMap (·.bytes)

variable {idle : Duration} {closing : Option Nat} {es : List Emission} {l : Listening}
  {lines : Notices} {elapsed : Nat}

/-- What is heard of one emission: lines of one stream, and none of the other. -/
theorem exists_hear (l : Listening) (e : Emission) (rest : List Emission) :
    ∃ out errors new, (l.hear e).lines = l.lines ++ new ∧ Interleaving out errors new ∧
      ofStream (l.out ++ brought (e :: rest) false) =
        out ++ ofStream ((l.hear e).out ++ brought rest false) ∧
      ofStream (l.errors ++ brought (e :: rest) true) =
        errors ++ ofStream ((l.hear e).errors ++ brought rest true) := by
  cases he : e.toErrors with
  | false =>
    refine ⟨ofOpenStream (l.out ++ e.bytes), [], _, ?_, .of_left _, ?_, ?_⟩
    · simp [hear, he]
    · have hbrought : brought (e :: rest) false = e.bytes ++ brought rest false := by
        simp [brought, he]
      rw [hbrought, ← List.append_assoc, ofStream_append]
      simp [hear, he]
    · simp [hear, he, brought]
  | true =>
    refine ⟨[], ofOpenStream (l.errors ++ e.bytes), _, ?_, .of_right _, ?_, ?_⟩
    · simp [hear, he]
    · simp [hear, he, brought]
    · have hbrought : brought (e :: rest) true = e.bytes ++ brought rest true := by
        simp [brought, he]
      rw [hbrought, ← List.append_assoc, ofStream_append]
      simp [hear, he]

/-- Lines heard of streams that were closed are all lines of both. -/
theorem interleaving_listen_closed
    (h : Listening.listen idle closing es l = .closed lines elapsed) :
    ∃ m, lines = l.lines ++ m ∧ Interleaving (ofStream (l.out ++ brought es false))
      (ofStream (l.errors ++ brought es true)) m := by
  induction es generalizing l with
  | nil =>
    unfold Listening.listen at h
    split at h
    · cases h
    · split_ifs at h
      · cases h
      · cases h
        refine ⟨ofStream l.out ++ ofStream l.errors, by rw [List.append_assoc], ?_⟩
        simpa [brought] using (Interleaving.of_left (ofStream l.out)).append
          (.of_right (ofStream l.errors))
  | cons e rest ih =>
    unfold Listening.listen at h
    split_ifs at h
    · cases h
    · obtain ⟨m, rfl, hm⟩ := ih h
      obtain ⟨out, errors, new, hnew, hinterleaving, hout, herrors⟩ := exists_hear l e rest
      refine ⟨new ++ m, by rw [hnew, List.append_assoc], ?_⟩
      rw [hout, herrors]
      exact hinterleaving.append hm

/-- Where listening is given up, nothing more is heard. -/
theorem exists_giveUp (out errors : List String) (h : l.giveUp idle = .silent lines elapsed) :
    ∃ m out' errors', lines = l.lines ++ m ∧ out' <+: out ∧ errors' <+: errors ∧
      Interleaving out' errors' m := by
  cases h
  exact ⟨[], [], [], (List.append_nil _).symm, List.nil_prefix, List.nil_prefix, .nil⟩

/-- Lines heard before a silence are the first lines of both streams. -/
theorem interleaving_listen_silent
    (h : Listening.listen idle closing es l = .silent lines elapsed) :
    ∃ m out errors, lines = l.lines ++ m ∧ out <+: ofStream (l.out ++ brought es false) ∧
      errors <+: ofStream (l.errors ++ brought es true) ∧ Interleaving out errors m := by
  induction es generalizing l with
  | nil =>
    unfold Listening.listen at h
    split at h
    · exact exists_giveUp _ _ h
    · split_ifs at h
      exact exists_giveUp _ _ h
  | cons e rest ih =>
    unfold Listening.listen at h
    split_ifs at h
    · exact exists_giveUp _ _ h
    · obtain ⟨m, out, errors, rfl, hout, herrors, hm⟩ := ih h
      obtain ⟨outNew, errorsNew, new, hnew, hinterleaving, houtNew, herrorsNew⟩ :=
        exists_hear l e rest
      refine ⟨new ++ m, outNew ++ out, errorsNew ++ errors, by rw [hnew, List.append_assoc], ?_, ?_,
        hinterleaving.append hm⟩
      · rw [houtNew]
        exact List.prefix_append_right_inj outNew |>.mpr hout
      · rw [herrorsNew]
        exact List.prefix_append_right_inj errorsNew |>.mpr herrors

/-! ## On a host -/

variable {h h' : Host} {command : Command}

theorem Host.notices_of_run_elapse {micros : Nat} (hrun : (elapse micros).run h = (.ok (), h')) :
    h'.notices = h.notices := by
  rcases run_elapse_cases h micros with helapse | ⟨h₁, helapse⟩ <;> cases helapse.symm.trans hrun
  rfl

theorem Host.notices_of_run_notify (hrun : (notify lines).run h = (.ok (), h')) :
    h'.notices = h.notices ++ lines :=
  (congrArg (·.2.notices) hrun).symm

namespace Pipes

/-- How an attempt ended to listen that ended with an outcome. -/
def endOf : Attempt Unit → PipesEnd
  | .timedOut => .silent
  | _ => .closed

variable {capacity : Nat} {b : Behaviour}

/-- What is heard of a program that closed its pipes, the attempt can have written. -/
theorem exists_runs_of_listen_closed (hcapacity : 1 ≤ capacity)
    (hheard : Listening.listen idle closing b.emissions .start = .closed lines elapsed) :
    ∃ s, Runs capacity (start fun pipe => ofStream (b.stream pipe)) s ∧
      s.ending = some .closed ∧ s.written = lines := by
  obtain ⟨m, rfl, hm⟩ := interleaving_listen_closed hheard
  exact (closed_iff hcapacity).mpr hm

/-- What is heard of a program before a silence, the attempt can have written. -/
theorem exists_runs_of_listen_silent (hcapacity : 1 ≤ capacity)
    (hheard : Listening.listen idle closing b.emissions .start = .silent lines elapsed) :
    ∃ s, Runs capacity (start fun pipe => ofStream (b.stream pipe)) s ∧
      s.ending = some .silent ∧ s.written = lines := by
  obtain ⟨m, out, errors, rfl, hout, herrors, hm⟩ := interleaving_listen_silent hheard
  exact (silent_iff hcapacity).mpr ⟨out, errors, hout, herrors, hm⟩

/-- What an attempt on a host writes, the attempt between its readers can write. -/
theorem exists_runs_of_streamingAttempt (hcapacity : 1 ≤ capacity) {outcome : Attempt Unit}
    (hrun : (Run.streamingAttempt command idle).run h = (.ok outcome, h')) :
    ∃ program, h.programs command.program = some program ∧
      ∃ s, Runs capacity
          (start fun pipe => ofStream ((program (h.occasion command)).stream pipe)) s ∧
        s.ending = some (endOf outcome) ∧ h'.notices = h.notices ++ s.written := by
  unfold Run.streamingAttempt at hrun
  obtain ⟨b, h₁, hbegin, hrun⟩ := exists_of_run_bind_ok hrun
  obtain ⟨program, hprogram, hb, hbegun⟩ := Host.of_run_begin hbegin
  refine ⟨program, hprogram, ?_⟩
  have hnotices : h₁.notices = h.notices := by
    rw [hbegun]
    rfl
  rw [← hb, ← hnotices]
  cases hheard : Listening.listen idle (b.closing.or b.lasting) b.emissions .start with
  | silent lines elapsed =>
    rw [hheard] at hrun
    obtain ⟨s, hs, hend, rfl⟩ := exists_runs_of_listen_silent hcapacity hheard
    obtain ⟨⟨⟩, h₂, hnotify, hrun⟩ := exists_of_run_bind_ok hrun
    obtain ⟨⟨⟩, h₃, helapse, hrun⟩ := exists_of_run_bind_ok hrun
    obtain ⟨rfl, rfl⟩ := eq_of_run_pure hrun
    refine ⟨s, hs, hend, ?_⟩
    rw [Host.notices_of_run_elapse helapse, Host.notices_of_run_notify hnotify]
  | closed lines elapsed =>
    rw [hheard] at hrun
    obtain ⟨s, hs, hend, rfl⟩ := exists_runs_of_listen_closed hcapacity hheard
    obtain ⟨⟨⟩, h₂, hnotify, hrun⟩ := exists_of_run_bind_ok hrun
    obtain ⟨⟨⟩, h₃, helapse, hrun⟩ := exists_of_run_bind_ok hrun
    have hwritten : h₃.notices = h₁.notices ++ s.written := by
      rw [Host.notices_of_run_elapse helapse, Host.notices_of_run_notify hnotify]
    cases hlasting : b.lasting with
    | none =>
      rw [hlasting] at hrun
      cases hrun
    | some last =>
      simp only [hlasting] at hrun
      split_ifs at hrun
      · obtain ⟨⟨⟩, h₄, hrest, hrun⟩ := exists_of_run_bind_ok hrun
        obtain ⟨rfl, rfl⟩ := eq_of_run_pure hrun
        exact ⟨s, hs, hend, (Host.notices_of_run_elapse hrest).trans hwritten⟩
      · obtain ⟨⟨⟩, h₄, hrest, hrun⟩ := exists_of_run_bind_ok hrun
        obtain ⟨rfl, rfl⟩ := eq_of_run_pure hrun
        exact ⟨s, hs, hend, (Host.notices_of_run_elapse hrest).trans hwritten⟩
      · obtain ⟨rfl, rfl⟩ := eq_of_run_pure hrun
        exact ⟨s, hs, hend, hwritten⟩
      · obtain ⟨rfl, rfl⟩ := eq_of_run_pure hrun
        exact ⟨s, hs, hend, hwritten⟩

/-- Between two readers, a queue and an attempt that take their steps in any order, no line is lost,
    doubled or moved before another of its pipe: where the attempt was not given up, it has written
    an interleaving of all lines of both pipes, and otherwise one of the first lines of each. All of
    these can be written, and what an attempt on a host writes is one of them, for the lines of the
    program that it has started. -/
theorem passed_on_iff (hcapacity : 1 ≤ capacity) :
    (∀ lines written,
      (∃ s, Runs capacity (start lines) s ∧ s.ending = some .closed ∧ s.written = written) ↔
        Interleaving (lines false) (lines true) written) ∧
    (∀ lines written,
      (∃ s, Runs capacity (start lines) s ∧ s.ending = some .silent ∧ s.written = written) ↔
        ∃ out errors, out <+: lines false ∧ errors <+: lines true ∧
          Interleaving out errors written) ∧
    ∀ (h h' : Host) command idle outcome,
      (Run.streamingAttempt command idle).run h = (.ok outcome, h') →
      ∃ program, h.programs command.program = some program ∧
        ∃ s, Runs capacity
            (start fun pipe => ofStream ((program (h.occasion command)).stream pipe)) s ∧
          s.ending = some (endOf outcome) ∧ h'.notices = h.notices ++ s.written :=
  ⟨fun _ _ => closed_iff hcapacity, fun _ _ => silent_iff hcapacity,
    fun _ _ _ _ _ hrun => exists_runs_of_streamingAttempt hcapacity hrun⟩

/-- Two lines on one pipe and one on the other, with room for one in the queue. -/
def threeLines (pipe : Bool) : List String := bif pipe then ["c"] else ["a", "b"]

theorem passed_on_of_threeLines :
    (∃ s, Runs 1 (start threeLines) s ∧ s.ending = some .closed ∧ s.written = ["a", "c", "b"]) ∧
    (∃ s, Runs 1 (start threeLines) s ∧ s.ending = some .silent ∧ s.written = ["c", "a"]) ∧
    ¬∃ s, Runs 1 (start threeLines) s ∧ s.ending = some .closed ∧ s.written = ["b", "a", "c"] := by
  obtain ⟨hclosed, hsilent, -⟩ := passed_on_iff (Nat.le_refl 1)
  refine ⟨(hclosed _ _).mpr (.left (.right (.left .nil))),
    (hsilent _ _).mpr ⟨["a"], ["c"], ⟨["b"], rfl⟩, List.prefix_rfl, .right (.left .nil)⟩, ?_⟩
  have hfirst : ∀ {a b c : String}, b ≠ a → b ≠ c → ¬Interleaving [a, b] [c] [b, a, c] := by
    rintro a b c hba hbc h
    cases h with
    | left _ => exact hba rfl
    | right _ => exact hbc rfl
  exact fun h => hfirst (by decide) (by decide) ((hclosed _ _).mp h)

end Pipes

end DataStaging
