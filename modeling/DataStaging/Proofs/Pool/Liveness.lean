import DataStaging.Proofs.Pool.Account
import DataStaging.Proofs.Pool.Progress

/-!
# No pool waits for ever

The reader may wait for room in the queue, one worker for an entry while it keeps the queue to
itself, the others for the queue, and the pool for all of them. Still some step can be taken until
there is a result, and a handling that ends by itself lets every order of steps come to an end. A
reader whose workers have all left is released by the closing of the queue.

Results:
* `step_iff`: a pool can take a step exactly as long as it has no result.
* `comes_of_deserted`: where all workers have left before a full queue, only one run is left.
* `completes_of_runs`: both, and that no run goes on without end.
-/

namespace DataStaging.Pool

variable {σ : Type} {job : Job σ} {n : Nat} {s s' : Pool σ} {shared : σ}

/-- A worker that has left takes no step any more. -/
theorem not_all_left {before after : List (Worker σ)} {w : Worker σ}
    (hleft : ∀ w ∈ s.workers, w.hasLeft = true) (hw : s.workers = before ++ w :: after)
    (hnot : w.hasLeft = false) : False := by
  have := hleft w (hw ▸ List.mem_append_cons_self)
  rw [hnot] at this
  cases this

/-- A pool can take a step exactly as long as it has no result. -/
theorem step_iff (h : Runs job (start job n shared) s) :
    (∃ s', Step job s s') ↔ s.result = none := by
  refine ⟨fun ⟨s', hstep⟩ => ?_, exists_step⟩
  cases hr : s.result with
  | none => rfl
  | some r =>
    exfalso
    have acc := account_of_runs h
    obtain ⟨hclosed, o, hreader, -⟩ := acc.concluded r hr
    have hleft := acc.staffed.left_of_closed hclosed
    cases hstep with
    | send hread _ _ | turnAway hread _ | finish hread =>
      rw [hreader] at hread
      cases hread
    | look hw | grasp hw _ | take hw _ | starve hw _ _ | act hw | succeed hw | fail hw =>
      exact not_all_left hleft hw rfl
    | close hopen _ =>
      rw [hclosed] at hopen
      cases hopen
    | conclude _ hnone _ =>
      rw [hr] at hnone
      cases hnone

/-! ## A reader before a full queue -/

/-- All workers have left while the reader, with an entry in hand, waits for room in the queue. -/
structure Deserted (job : Job σ) (s : Pool σ) : Prop where
  left : ∀ w ∈ s.workers, w.hasLeft = true
  waits : ∃ e ahead, s.reader = .reading (e :: ahead)
  full : max job.depth 1 ≤ s.queue.length

theorem Deserted.result_eq_none (hs : Deserted job s) (h : Runs job (start job n shared) s) :
    s.result = none := by
  obtain ⟨e, ahead, hreader⟩ := hs.waits
  by_contra hsome
  obtain ⟨r, hr⟩ := Option.ne_none_iff_exists'.mp hsome
  obtain ⟨-, o, hfinished, -⟩ := (account_of_runs h).concluded r hr
  rw [hreader] at hfinished
  cases hfinished

/-- What the only step leads to comes. -/
theorem Comes.of_only {Q : Except Fault Unit → Pool σ → Prop} (hstep : Step job s s')
    (honly : ∀ t, Step job s t → t = s') (h : Comes job Q s') : Comes job Q s :=
  .later ⟨s', hstep⟩ fun t ht => honly t ht ▸ h

/-- The pool with its queue closed, the reader turned away and the result `r`. -/
def released (s : Pool σ) (r : Except Fault Unit) : Pool σ :=
  { s with closed := true, reader := .finished (.ok s.forwarded), result := some r }

/-- Once the workers have left and the reader has finished, the result follows. -/
theorem comes_of_finished {o : Except Fault Nat} (hleft : ∀ w ∈ s.workers, w.hasLeft = true)
    (hclosed : s.closed = true) (hresult : s.result = none) (hreader : s.reader = .finished o) :
    Comes job (fun r final => r = verdict s.workers o ∧ final = { s with result := some r }) s := by
  refine .of_only (.conclude hclosed hresult hreader) (fun t ht => ?_) (.here rfl ⟨rfl, rfl⟩)
  cases ht with
  | send hread _ _ | turnAway hread _ | finish hread =>
    rw [hreader] at hread
    cases hread
  | look hw | grasp hw _ | take hw _ | starve hw _ _ | act hw | succeed hw | fail hw =>
    exact (not_all_left hleft hw rfl).elim
  | close hopen _ =>
    rw [hclosed] at hopen
    cases hopen
  | conclude _ _ hread =>
    rw [hreader] at hread
    cases hread
    rfl

/-- A closed queue turns the reader away. -/
theorem comes_of_closed (hs : Deserted job s) (hclosed : s.closed = true)
    (hresult : s.result = none) :
    Comes job
      (fun r final => r = verdict s.workers (.ok s.forwarded) ∧ final = s.released r) s := by
  obtain ⟨hleft, ⟨e, ahead, hreader⟩, -⟩ := hs
  have hcomes : Comes job _ { s with reader := .finished (.ok s.forwarded) } :=
    comes_of_finished hleft hclosed hresult rfl
  refine .of_only (.turnAway hreader hclosed) (fun t ht => ?_) (hcomes.mono ?_)
  · cases ht with
    | turnAway hread _ => rfl
    | send _ hopen _ | close hopen _ =>
      rw [hclosed] at hopen
      cases hopen
    | finish hread =>
      rw [hreader] at hread
      cases hread
    | look hw | grasp hw _ | take hw _ | starve hw _ _ | act hw | succeed hw | fail hw =>
      exact (not_all_left hleft hw rfl).elim
    | conclude _ _ hread =>
      rw [hreader] at hread
      cases hread
  · rintro r final ⟨hr, rfl⟩
    refine ⟨hr, ?_⟩
    rw [released, ← hclosed]

/-- Where all workers have left before a full queue, the queue is closed, the reader turned away and
    the result given, and nothing else can happen. -/
theorem comes_of_deserted (hs : Deserted job s) (hresult : s.result = none) :
    Comes job
      (fun r final => r = verdict s.workers (.ok s.forwarded) ∧ final = s.released r) s := by
  cases hclosed : s.closed with
  | true => exact comes_of_closed hs hclosed hresult
  | false =>
    have hs' : Deserted job { s with closed := true } := ⟨hs.left, hs.waits, hs.full⟩
    obtain ⟨hleft, ⟨e, ahead, hreader⟩, hfull⟩ := hs
    refine .of_only (.close hclosed hleft) (fun t ht => ?_) (comes_of_closed hs' rfl hresult)
    cases ht with
    | close _ _ => rfl
    | send _ _ hroom => exact absurd hroom (Nat.not_lt.mpr hfull)
    | turnAway _ hc | conclude hc _ _ =>
      rw [hclosed] at hc
      cases hc
    | finish hread =>
      rw [hreader] at hread
      cases hread
    | look hw | grasp hw _ | take hw _ | starve hw _ _ | act hw | succeed hw | fail hw =>
      exact (not_all_left hleft hw rfl).elim

/-- Workers leave entries behind only because one of them has left with a fault. -/
theorem fault_of_deserted (h : Runs job (start job n shared) s) (hs : Deserted job s) :
    s.aborted = true ∧ ∃ fault, s.workers.findSome? Worker.fault? = some fault := by
  have acc := account_of_runs h
  obtain ⟨hleft, ⟨e, ahead, hreader⟩, -⟩ := hs
  have hmark : s.aborted = true := by
    by_contra hno
    have hnone : ∀ w ∈ s.workers, w.fault? = none := by
      have hmarked := acc.marked
      rw [Bool.not_eq_true] at hno
      rw [Marked, hno, eq_comm, List.any_eq_false] at hmarked
      intro w hw
      simpa using hmarked w hw
    have hpos : 0 < s.workers.length := by
      rw [acc.staffed.length_eq]
      exact one_le_workers n
    obtain ⟨w, hw⟩ := List.exists_mem_of_length_pos hpos
    obtain rfl := mem_left_of_hasLeft (hleft w hw) (hnone w hw)
    rcases acc.drained hw with ha | ⟨-, hfinished⟩
    · exact hno ha
    · rw [hreader] at hfinished
      cases hfinished
  refine ⟨hmark, ?_⟩
  have hmarked := acc.marked
  rw [Marked, hmark, eq_comm, List.any_eq_true] at hmarked
  obtain ⟨w, hw, hfault⟩ := hmarked
  exact Option.isSome_iff_exists.mp (List.findSome?_isSome_iff.mpr ⟨w, hw, hfault⟩)

/-- A pool can take a step until it has its result, and no order of steps goes on without end. Where
    all workers have left while the reader waits before a full queue, a fault had set the mark; the
    queue is then closed, the reader turned away with what it had handed on, and the first such
    fault is the result, whatever the order of the steps. -/
theorem completes_of_runs (h : Runs job (start job n shared) s) :
    ((∃ s', Step job s s') ↔ s.result = none) ∧
    (∀ f : Nat → Pool σ, f 0 = s → ¬∀ i, Step job (f i) (f (i + 1))) ∧
    (Deserted job s → s.aborted = true ∧ ∃ fault,
      s.workers.findSome? Worker.fault? = some fault ∧
      Comes job (fun r final => r = .error fault ∧ final = s.released r) s) := by
  refine ⟨step_iff h, fun f _ hf => ?_, fun hs => ?_⟩
  · exact (wellFounded_iff_isEmpty_descending_chain.mp (wellFounded_step job)).false ⟨f, hf⟩
  · obtain ⟨hmark, fault, hfault⟩ := fault_of_deserted h hs
    refine ⟨hmark, fault, hfault, (comes_of_deserted hs (hs.result_eq_none h)).mono ?_⟩
    rintro r final ⟨hr, hfinal⟩
    rw [verdict, hfault] at hr
    exact ⟨hr, hfinal⟩

/-- Three entries of which none can be handled, with room for one in the queue. -/
def crowded : Job Unit where
  entries := [⟨"a", "s3://b/a"⟩, ⟨"b", "s3://b/b"⟩, ⟨"c", "s3://b/c"⟩]
  ending := .ok 3
  depth := 1
  handle _ := .done (.error (.io .notFound))

/-- The first worker has failed with `a` and the second has left, while `b` fills the queue and the
    reader waits with `c`. -/
def overcrowded : Pool Unit where
  reader := .reading [⟨"c", "s3://b/c"⟩]
  queue := [⟨"b", "s3://b/b"⟩]
  workers := [.left (.error (.io .notFound)), .left (.ok ())]
  aborted := true
  closed := false
  result := none
  shared := ()
  taken := [⟨"a", "s3://b/a"⟩]
  ended := [(⟨"a", "s3://b/a"⟩, .error (.io .notFound))]

theorem completes_of_overcrowded : Runs crowded (start crowded 2 ()) overcrowded ∧
    Deserted crowded overcrowded ∧ (∃ s', Step crowded overcrowded s') ∧
    Comes crowded (fun r final => r = .error (.io .notFound) ∧ final = overcrowded.released r)
      overcrowded := by
  have hidle : ∀ w ∈ [(.queueing : Worker Unit), .idle], w.isReceiving = false := by
    simp [Worker.isReceiving]
  have hruns : Runs crowded (start crowded 2 ()) overcrowded :=
    .head (.send rfl rfl (by decide)) <|
    .head (.look (List.nil_append _).symm) <|
    .head (.grasp (List.nil_append _).symm hidle) <|
    .head (.take (List.nil_append _).symm rfl) <|
    .head (.send rfl rfl (by decide)) <|
    .head (.fail (List.nil_append _).symm) <|
    .single (@Step.look _ _ _ [.left (.error (.io .notFound))] [] rfl)
  have hdeserted : Deserted crowded overcrowded :=
    ⟨by simp [overcrowded, Worker.hasLeft], ⟨_, _, rfl⟩, Nat.le_refl 1⟩
  obtain ⟨hstep, -, hreleased⟩ := completes_of_runs hruns
  obtain ⟨-, fault, hfault, hcomes⟩ := hreleased hdeserted
  cases hfault
  exact ⟨hruns, hdeserted, hstep.mpr rfl, hcomes⟩

end DataStaging.Pool
