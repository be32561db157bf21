import DataStaging.Proofs.Process.Accounting
import DataStaging.Proofs.Process.Passing
import Mathlib.Data.List.Basic

/-!
# Decoding lines and decoding texts

A program's lines are decoded one by one where they are passed on, and its output is decoded as a
whole where it is kept. Either way every ill-formed part is shown as one U+FFFD. No such part takes
a line feed in, so it makes no difference whether bytes are cut into lines before they are decoded
or after.

Results:
* `takePiece_append_feed`, `eq_feed_of_takePiece`: a piece ends before a line feed, and shows none.
* `lossyChars_append_feed`: what stands on either side of a line feed is decoded by itself.
* `ofStream_append_feed`, `length_ofStream`: the lines on either side, and how many there are.
* `ofStream_eq_ofDecoded`: the lines of a stream are those of its text.
* `passed_on_as_decoded`: the lines that an attempt passes on, and the texts of an output that is
  kept.
-/

namespace DataStaging

/-! ## Pieces and line feeds -/

namespace Utf8

variable {b c : UInt8} {r before after : Bytes}

theorem not_isTrail_feed : isTrail 0x0A = false := by decide

theorem not_isSecond_feed (b : UInt8) : isSecond b 0x0A = false := by
  have hlow : ¬(secondRange b).1 ≤ 0x0A := by
    unfold secondRange
    split_ifs <;> decide
  rw [isSecond, decide_eq_false hlow, Bool.false_and]

/-- A piece ends before a line feed. -/
theorem takePiece_append_feed (b : UInt8) (before after : Bytes) :
    takePiece b (before ++ 0x0A :: after) =
      ((takePiece b before).1, (takePiece b before).2 ++ 0x0A :: after) := by
  -- where the bytes of the piece run out, the line feed is none of those that could follow
  unfold takePiece
  split_ifs
  · rfl
  · cases before with
    | nil => simp [not_isTrail_feed]
    | cons c r => simp only [List.cons_append]; split_ifs <;> rfl
  · rcases before with _ | ⟨c, _ | ⟨d, r⟩⟩
    · simp [not_isSecond_feed]
    · simp [not_isTrail_feed]; split_ifs <;> rfl
    · simp only [List.cons_append]; split_ifs <;> rfl
  · rcases before with _ | ⟨c, _ | ⟨d, _ | ⟨e, r⟩⟩⟩
    · simp [not_isSecond_feed]
    · simp [not_isTrail_feed]; split_ifs <;> rfl
    · simp [not_isTrail_feed]; split_ifs <;> rfl
    · simp only [List.cons_append]; split_ifs <;> rfl
  · rfl

theorem pieces_append_feed (before after : Bytes) :
    pieces (before ++ 0x0A :: after) = pieces before ++ some '\n' :: pieces after := by
  induction before using pieces.induct with
  | case1 =>
    rw [List.nil_append, pieces_cons, pieces_nil, List.nil_append]
    rfl
  | case2 b rest ih =>
    rw [List.cons_append, pieces_cons, takePiece_append_feed, ih, pieces_cons]
    rfl

/-- What stands on either side of a line feed is decoded by itself. -/
theorem lossyChars_append_feed (before after : Bytes) :
    lossyChars (before ++ 0x0A :: after) = lossyChars before ++ '\n' :: lossyChars after := by
  rw [lossyChars, pieces_append_feed, List.map_append]
  rfl

theorem lossyChars_nil : lossyChars [] = [] := by rw [lossyChars, pieces_nil, List.map_nil]

/-- Bytes are shown as something. -/
theorem lossyChars_eq_nil_iff {bytes : Bytes} : lossyChars bytes = [] ↔ bytes = [] := by
  cases bytes with
  | nil => simp [lossyChars_nil]
  | cons b rest => simp [lossyChars, pieces_cons]

theorem toNat_ofNat (n : Nat) : (Char.ofNat n).toNat = if n.isValidChar then n else 0 := by
  unfold Char.ofNat
  by_cases h : n.isValidChar
  · rw [dif_pos h, if_pos h]
    rfl
  · rw [dif_neg h, if_neg h]
    rfl

/-- Only the code of a line feed is shown as one. -/
theorem eq_of_ofNat_eq_feed {n : Nat} (h : Char.ofNat n = '\n') : n = 0x0A := by
  have hcode := (toNat_ofNat n).symm.trans (congrArg Char.toNat h)
  split_ifs at hcode
  · exact hcode
  · cases hcode

theorem takePiece_suffix (b : UInt8) (r : Bytes) : (takePiece b r).2 <:+ r := by
  unfold takePiece
  repeat' split
  all_goals simp [List.suffix_cons_iff]

/-- Where a lead of three or four bytes has no bits of its own, the second byte has some. -/
theorem low_pos_of_isSecond (hb : b = 0xE0 ∨ b = 0xF0) (h : isSecond b c = true) : 0 < low c := by
  unfold isSecond secondRange at h
  unfold low
  rcases hb with rfl | rfl <;>
    simp [UInt8.le_iff_toNat_le] at h <;>
    omega

/-- Only a line feed is read as one: a character of more bytes has a larger code. -/
theorem eq_feed_of_takePiece (h : (takePiece b r).1 = some '\n') : b = 0x0A := by
  unfold takePiece at h
  repeat' split at h
  all_goals first
    | cases h
    | replace h := eq_of_ofNat_eq_feed (Option.some.inj h)
  all_goals simp_all [UInt8.le_iff_toNat_le, UInt8.lt_iff_toNat_lt, ← UInt8.toNat_inj]
  · omega
  · rename_i _ hsecond _
    have hlow : b.toNat = 0xE0 → 0 < _ :=
      fun hb => low_pos_of_isSecond (.inl (UInt8.toNat_inj.mp hb)) hsecond
    omega
  · rename_i _ hsecond _ _
    have hlow : b.toNat = 0xF0 → 0 < _ :=
      fun hb => low_pos_of_isSecond (.inr (UInt8.toNat_inj.mp hb)) hsecond
    omega

theorem feed_notMem_lossyChars {bytes : Bytes} (h : 0x0A ∉ bytes) : '\n' ∉ lossyChars bytes := by
  unfold lossyChars
  induction bytes using pieces.induct with
  | case1 => simp [pieces_nil]
  | case2 b rest ih =>
    rw [List.mem_cons, not_or] at h
    rw [pieces_cons, List.map_cons, List.mem_cons, not_or]
    refine ⟨?_, ih fun hmem => h.2 ((takePiece_suffix b rest).subset hmem)⟩
    cases hpiece : (takePiece b rest).1 with
    | none => decide
    | some c =>
      rintro rfl
      exact h.1 (eq_feed_of_takePiece hpiece).symm

end Utf8

/-! ## Lines of a stream -/

namespace Blank

variable {p q : Char → Bool} {c : Char} {cs : List Char}

theorem dropEnd_concat_of_pos (h : p c = true) : dropEnd p (cs ++ [c]) = dropEnd p cs := by
  simp [dropEnd, h]

theorem dropEnd_congr (h : ∀ c ∈ cs, p c = q c) : dropEnd p cs = dropEnd q cs := by
  have hsame : ∀ ds : List Char, (∀ c ∈ ds, p c = q c) → ds.dropWhile p = ds.dropWhile q := by
    intro ds hds
    induction ds with
    | nil => rfl
    | cons d ds ih =>
      rw [List.dropWhile_cons, List.dropWhile_cons, hds d List.mem_cons_self,
        ih fun c hc => hds c (List.mem_cons_of_mem d hc)]
  rw [dropEnd, dropEnd, hsame _ fun c hc => h c (List.mem_reverse.mp hc)]

end Blank

namespace Lines

variable {bytes line before after : Bytes}

/-- The lines of a text that is cut at every line feed. Where nothing stands behind the last line
    feed, there is no line; and no line keeps the carriage returns at its end. -/
def ofDecoded (s : String) : List String :=
  let pieces := s.toList.splitOn '\n'
  (if pieces.getLast? = some [] then pieces.dropLast else pieces).map
    fun piece => String.ofList (Blank.dropEnd (· == '\r') piece)

/-- A stream is one line without a line feed, or such a line, a line feed and a stream. -/
theorem stream_induction {motive : Bytes → Prop} (last : ∀ line, 0x0A ∉ line → motive line)
    (feed : ∀ line rest, 0x0A ∉ line → motive rest → motive (line ++ 0x0A :: rest))
    (bytes : Bytes) : motive bytes := by
  by_cases h : 0x0A ∈ bytes
  · obtain ⟨line, rest, heq, hline⟩ := List.eq_append_cons_of_mem h
    have hshorter : rest.length < bytes.length := by simp [heq]; omega
    exact heq ▸ feed line rest hline (stream_induction last feed rest)
  · exact last bytes h
termination_by bytes.length

/-- What stands on either side of a line feed is cut by itself. -/
theorem chunks_append_feed (before after : Bytes) :
    chunks (before ++ 0x0A :: after) = chunks (before ++ [0x0A]) ++ chunks after := by
  induction before with
  | nil => rfl
  | cons b before ih =>
    by_cases hb : b = 0x0A
    · rw [hb, List.cons_append, List.cons_append, chunks, if_pos rfl, ih, chunks, if_pos rfl,
        List.cons_append]
    cases hfirst : chunks (before ++ [0x0A]) with
    | nil =>
      have hflatten := flatten_chunks (before ++ [0x0A])
      simp [hfirst] at hflatten
    | cons line more =>
      rw [hfirst, List.cons_append] at ih
      rw [List.cons_append, List.cons_append, chunks_cons_of_ne hb ih, chunks_cons_of_ne hb hfirst,
        List.cons_append]

/-- A line without a line feed is not cut. -/
theorem chunks_of_notMem (h : 0x0A ∉ line) (hline : line ≠ []) : chunks line = [line] := by
  induction line with
  | nil => exact absurd rfl hline
  | cons b rest ih =>
    rw [List.mem_cons, not_or] at h
    rw [chunks, if_neg (Ne.symm h.1)]
    by_cases hrest : rest = []
    · rw [hrest, chunks_nil]
    · rw [ih h.2 hrest]

/-- Neither is one that ends in its only line feed. -/
theorem chunks_concat_feed (h : 0x0A ∉ line) : chunks (line ++ [0x0A]) = [line ++ [0x0A]] := by
  induction line with
  | nil => rfl
  | cons b rest ih =>
    rw [List.mem_cons, not_or] at h
    rw [List.cons_append, chunks_cons_of_ne (Ne.symm h.1) (ih h.2)]

/-- The text of a line does not tell whether it was ended. -/
theorem lineText_concat_feed (line : Bytes) : lineText (line ++ [0x0A]) = lineText line := by
  rw [lineText, Utf8.lossyChars_append_feed, Utf8.lossyChars_nil, Blank.dropEnd_concat_of_pos rfl,
    lineText]

theorem lineText_of_notMem (h : 0x0A ∉ line) :
    lineText line = String.ofList (Blank.dropEnd (· == '\r') (Utf8.lossyChars line)) := by
  refine congrArg String.ofList (Blank.dropEnd_congr fun c hc => ?_)
  have hne : c ≠ '\n' := fun heq => Utf8.feed_notMem_lossyChars h (heq ▸ hc)
  rw [isBreak, decide_eq_false hne, Bool.false_or]
  rfl

/-- The lines on either side of a line feed. -/
theorem ofStream_append_feed (before after : Bytes) :
    ofStream (before ++ 0x0A :: after) = ofStream (before ++ [0x0A]) ++ ofStream after := by
  rw [ofStream, chunks_append_feed, List.map_append]
  rfl

/-- A line that is ended by a line feed, before a stream. -/
theorem ofStream_feed (h : 0x0A ∉ line) (rest : Bytes) :
    ofStream (line ++ 0x0A :: rest) = lineText line :: ofStream rest := by
  rw [ofStream_append_feed, ofStream, chunks_concat_feed h, List.map_singleton,
    lineText_concat_feed, List.singleton_append]

theorem ofStream_of_notMem (h : 0x0A ∉ line) :
    ofStream line = if line = [] then [] else [lineText line] := by
  split_ifs with hline
  · rw [hline]
    rfl
  · rw [ofStream, chunks_of_notMem h hline, List.map_singleton]

/-- There is a line for every line feed, and one more for what stands behind the last. -/
theorem length_ofStream (bytes : Bytes) : (ofStream bytes).length =
    bytes.count 0x0A + if bytes.getLast?.all (· == 0x0A) then 0 else 1 := by
  induction bytes using stream_induction with
  | last line h =>
    rw [ofStream_of_notMem h, List.count_eq_zero_of_not_mem h, Nat.zero_add]
    cases hlast : line.getLast? with
    | none => rw [if_pos (List.getLast?_eq_none_iff.mp hlast)]; rfl
    | some b =>
      have hb : b ≠ 0x0A := fun heq => h (heq ▸ List.mem_of_getLast? hlast)
      have hline : line ≠ [] := by rintro rfl; cases hlast
      simp [hline, hb]
  | feed line rest h ih =>
    rw [ofStream_feed h, List.length_cons, ih, List.count_append, List.count_eq_zero_of_not_mem h,
      List.count_cons_self]
    cases rest with
    | nil => simp
    | cons b rest =>
      rw [List.getLast?_append_of_ne_nil _ (List.cons_ne_nil _ _), List.getLast?_cons_cons]
      omega

/-- The first line of a text that is cut at every line feed. -/
theorem ofDecoded_feed {first rest : List Char} (h : '\n' ∉ first) :
    ofDecoded (String.ofList (first ++ '\n' :: rest)) =
      String.ofList (Blank.dropEnd (· == '\r') first) :: ofDecoded (String.ofList rest) := by
  simp only [ofDecoded, String.toList_ofList]
  rw [List.splitOn_append_cons_self_of_not_mem h]
  obtain ⟨next, more, hrest⟩ := List.exists_cons_of_ne_nil (List.splitOn_ne_nil '\n' rest)
  rw [hrest, List.getLast?_cons_cons]
  split_ifs <;> rfl

theorem ofDecoded_of_notMem {cs : List Char} (h : '\n' ∉ cs) : ofDecoded (String.ofList cs) =
    if cs = [] then [] else [String.ofList (Blank.dropEnd (· == '\r') cs)] := by
  have hone : cs.splitOn '\n' = [cs] := by
    rw [List.splitOn_eq_splitOnP]
    exact List.splitOnP_eq_singleton fun c hc => beq_false_of_ne fun heq => h (heq ▸ hc)
  simp only [ofDecoded, String.toList_ofList, hone, List.getLast?_singleton, Option.some.injEq]
  split_ifs <;> rfl

/-- The lines of a stream are those of its text. -/
theorem ofStream_eq_ofDecoded (bytes : Bytes) :
    ofStream bytes = ofDecoded (Utf8.decodeLossy bytes) := by
  rw [Utf8.decodeLossy]
  induction bytes using stream_induction with
  | last line h =>
    rw [ofStream_of_notMem h, ofDecoded_of_notMem (Utf8.feed_notMem_lossyChars h),
      lineText_of_notMem h]
    simp only [Utf8.lossyChars_eq_nil_iff]
  | feed line rest h ih =>
    rw [ofStream_feed h, Utf8.lossyChars_append_feed,
      ofDecoded_feed (Utf8.feed_notMem_lossyChars h), ih, lineText_of_notMem h]

end Lines

/-! ## Both forms -/

namespace Run

open Lines

variable {h h' : Host} {command : Command} {idle : Duration}

/-- Where the output of a command is kept, it is decoded as a whole. -/
theorem eq_of_run_once {o : Output} {program : Program}
    (hprogram : h.programs command.program = some program)
    (hrun : (once command).run h = (.ok o, h')) :
    o = Output.ofBehaviour (program (h.occasion command)) := by
  unfold once at hrun
  obtain ⟨b, h₁, hbegin, hrun⟩ := exists_of_run_bind_ok hrun
  obtain ⟨program', hprogram', rfl, -⟩ := Host.of_run_begin hbegin
  obtain rfl := Option.some.inj (hprogram.symm.trans hprogram')
  cases htotal : (program (h.occasion command)).total? with
  | none =>
    rw [htotal] at hrun
    cases hrun
  | some total =>
    rw [htotal] at hrun
    obtain ⟨⟨⟩, h₂, -, hrun⟩ := exists_of_run_bind_ok hrun
    exact (eq_of_run_pure hrun).1.symm

/-- What an attempt passes on that was not given up are the lines of the texts that are kept where
    the output is. -/
theorem exists_written {outcome : Attempt Unit}
    (hrun : (streamingAttempt command idle).run h = (.ok outcome, h'))
    (hclosed : outcome ≠ .timedOut) :
    ∃ program, h.programs command.program = some program ∧ ∃ written,
      h'.notices = h.notices ++ written ∧
      Interleaving (ofDecoded (Output.ofBehaviour (program (h.occasion command))).out)
        (ofDecoded (Output.ofBehaviour (program (h.occasion command))).errors) written := by
  obtain ⟨program, hprogram, s, hruns, hend, hnotices⟩ :=
    Pipes.exists_runs_of_streamingAttempt (Nat.le_refl 1) hrun
  have hend : s.ending = some .closed := by
    cases outcome with
    | timedOut => exact absurd rfl hclosed
    | succeeded _ | exited _ => exact hend
  refine ⟨program, hprogram, s.written, hnotices, ?_⟩
  have hwritten := (Pipes.closed_iff (Nat.le_refl 1)).mp ⟨s, hruns, hend, rfl⟩
  rwa [ofStream_eq_ofDecoded, ofStream_eq_ofDecoded] at hwritten

/-- Bytes can be cut into lines before they are decoded or after. Whatever stands between two line
    feeds, ill-formed or cut short, is one line and changes no other, and there are as many lines as
    the line feeds say. So what is passed on of a program that has closed its pipes are the lines of
    the two texts that would have been kept of it. -/
theorem passed_on_as_decoded :
    (∀ bytes, ofStream bytes = ofDecoded (Utf8.decodeLossy bytes)) ∧
    (∀ before line after, 0x0A ∉ line → ofStream (before ++ 0x0A :: line ++ 0x0A :: after) =
      ofStream (before ++ [0x0A]) ++ lineText line :: ofStream after) ∧
    (∀ bytes : Bytes, (ofStream bytes).length =
      bytes.count 0x0A + if bytes.getLast?.all (· == 0x0A) then 0 else 1) ∧
    ∀ (h h' : Host) command idle outcome,
      (streamingAttempt command idle).run h = (.ok outcome, h') → outcome ≠ .timedOut →
      ∃ o written, h'.notices = h.notices ++ written ∧
        Interleaving (ofDecoded o.out) (ofDecoded o.errors) written ∧
        (∃ program, h.programs command.program = some program ∧
          o = Output.ofBehaviour (program (h.occasion command))) ∧
        ∀ kept h'', (once command).run h = (.ok kept, h'') → kept = o := by
  refine ⟨ofStream_eq_ofDecoded, fun before line after hline => ?_, length_ofStream,
    fun h h' command idle outcome hrun hclosed => ?_⟩
  · rw [List.append_assoc, List.cons_append, ofStream_append_feed, ofStream_feed hline]
  · obtain ⟨program, hprogram, written, hnotices, hwritten⟩ := exists_written hrun hclosed
    exact ⟨_, written, hnotices, hwritten, ⟨program, hprogram, rfl⟩,
      fun kept h'' hkept => eq_of_run_once hprogram hkept⟩

/-- Both streams break off within a character, one of them before a line feed. -/
def brokenOff : Script := .steps
  [{ ScriptStep.idle with
    output := [0xE2, 0x82, 0x0A, 0x61, 0x0D, 0x0D, 0x0A]
    errors := [0xF0, 0x9F] }]

/-- The host's programs write this. -/
def brokenOffStage : Host :=
  { Retry.stage fun _ => .succeeded () with programs := fun _ => some brokenOff.program }

theorem passed_on_of_brokenOff : ∃ o : Output, o.out = "\uFFFD\na\r\r\n" ∧ o.errors = "\uFFFD" ∧
    Interleaving (ofDecoded o.out) (ofDecoded o.errors) ["\uFFFD", "a", "\uFFFD"] := by
  have hrun : ((streamingAttempt (.ofProgram "sync") Defaults.idleTimeout).run brokenOffStage).1 =
      .ok (.succeeded ()) := by decide +kernel
  have hnotices : ((streamingAttempt (.ofProgram "sync") Defaults.idleTimeout).run
      brokenOffStage).2.notices = ["\uFFFD", "a", "\uFFFD"] := by decide +kernel
  have hkept :
      Output.ofBehaviour (brokenOff.program (brokenOffStage.occasion (.ofProgram "sync"))) =
      ⟨0, "\uFFFD\na\r\r\n", "\uFFFD"⟩ := by decide +kernel
  obtain ⟨o, written, hwritten, hlines, ⟨program, hprogram, ho⟩, -⟩ := passed_on_as_decoded.2.2.2
    brokenOffStage
    ((streamingAttempt (.ofProgram "sync") Defaults.idleTimeout).run brokenOffStage).2
    (.ofProgram "sync") Defaults.idleTimeout (.succeeded ()) (Prod.ext hrun rfl) (by rintro ⟨⟩)
  obtain rfl := Option.some.inj hprogram
  obtain rfl : _ = written := hnotices.symm.trans hwritten
  rw [ho, hkept] at hlines
  exact ⟨_, rfl, rfl, hlines⟩

end Run

end DataStaging
