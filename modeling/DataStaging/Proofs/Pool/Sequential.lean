import DataStaging.Proofs.Pool.System

/-!
# The run of one worker

However many workers a pool has, one of them may take every entry while the others stand by. Its
runs handle the entries in the order of the manifest, each to its end before the next.

Results:
* `exists_run_inOrder`: such a run exists, and it ends with what handling the entries in order ends
  with.
-/

namespace DataStaging.Pool

variable {σ : Type} {job : Job σ} {n : Nat} {s : Pool σ}

/-- Handles entries one after another, up to the first fault. -/
def inOrder (handle : ManifestEntry → Task σ) :
    List ManifestEntry → σ → Except Fault Unit × σ
  | [], shared => (.ok (), shared)
  | e :: rest, shared =>
    match (handle e).alone shared with
    | (.ok (), shared) => inOrder handle rest shared
    | (.error fault, shared) => (.error fault, shared)

/-- The result of a pool in which the handling of the entries came to `outcome`. -/
def resultOf (job : Job σ) (outcome : Except Fault Unit) : Except Fault Unit :=
  outcome.bind (fun _ => job.ending.map (fun _ => ()))

/-! ## One entry -/

/-- A worker that is let alone brings its task to an end. -/
theorem runs_task (job : Job σ) (e : ManifestEntry) (before after : List (Worker σ))
    (task : Task σ) (s : Pool σ) (hw : s.workers = before ++ .handling e task :: after) :
    Runs job s { s with
      workers := before ++ .handling e (.done (task.alone s.shared).1) :: after
      shared := (task.alone s.shared).2 } := by
  induction task generalizing s with
  | done o =>
    have hs : s = { s with workers := before ++ .handling e (.done o) :: after } := by rw [← hw]
    rw [hs]
    exact .refl
  | act change next ih => exact .head (.act hw) (ih s.shared _ rfl)

/-- The first worker takes an entry that the reader hands on, and handles it. -/
theorem runs_entry {e : ManifestEntry} {ahead : List ManifestEntry} {others : List (Worker σ)}
    (hreader : s.reader = .reading (e :: ahead)) (hqueue : s.queue = [])
    (hworkers : s.workers = .idle :: others) (hothers : ∀ w ∈ others, w = .idle)
    (haborted : s.aborted = false) (hclosed : s.closed = false) :
    Runs job s { s with
      reader := .reading ahead
      workers := .handling e (.done ((job.handle e).alone s.shared).1) :: others
      shared := ((job.handle e).alone s.shared).2
      taken := s.taken ++ [e] } := by
  have hroom : s.queue.length < max job.depth 1 := by
    rw [hqueue]
    exact Nat.lt_of_lt_of_le Nat.zero_lt_one (Nat.le_max_right _ _)
  refine .head (.send hreader hclosed hroom) ?_
  refine .head (.look (hworkers.trans (List.nil_append _).symm)) ?_
  rw [haborted, hqueue]
  refine .head (.grasp rfl ?_) ?_
  · intro w hw
    rcases List.mem_cons.mp hw with rfl | hw
    · rfl
    · rw [hothers w hw]
      rfl
  · exact .head (.take (List.nil_append _).symm rfl) (runs_task job e [] others _ _ rfl)

/-! ## The end -/

/-- Idle workers leave once the mark is set, or once no entry will come. -/
theorem runs_leave (job : Job σ) (m : Nat) (before : List (Worker σ)) (s : Pool σ)
    (hbefore : ∀ w ∈ before, w.hasLeft = true)
    (hworkers : s.workers = before ++ List.replicate m .idle)
    (hend : s.aborted = true ∨ (s.queue = [] ∧ ∃ o, s.reader = .finished o)) :
    Runs job s { s with workers := before ++ List.replicate m (.left (.ok ())) } := by
  induction m generalizing before s with
  | zero =>
    have hs : s = { s with workers := before ++ List.replicate 0 (.left (.ok ())) } := by
      rw [show before ++ List.replicate 0 (.left (.ok ())) = s.workers by simpa using hworkers.symm]
    rw [← hs]
    exact .refl
  | succ m ih =>
    have hnext : ∀ w ∈ before ++ [.left (.ok ())], w.hasLeft = true := by
      intro w hw
      rcases List.mem_append.mp hw with hw | hw
      · exact hbefore w hw
      · rw [List.mem_singleton.mp hw]
        rfl
    have hrest := ih (before ++ [.left (.ok ())])
      { s with workers := before ++ .left (.ok ()) :: List.replicate m .idle } hnext (by simp) hend
    rw [List.append_assoc] at hrest
    have hhead : s.workers = before ++ .idle :: List.replicate m .idle := hworkers
    refine .head (.look hhead) ?_
    by_cases ha : s.aborted = true
    · rw [if_pos ha]
      exact hrest
    · obtain ⟨hqueue, hread⟩ : s.queue = [] ∧ ∃ o, s.reader = .finished o := hend.resolve_left ha
      rw [if_neg ha]
      refine .head (.grasp rfl ?_) ?_
      · intro w hw
        rcases List.mem_append.mp hw with hw | hw
        · have := hbefore w hw
          cases w <;> first | rfl | cases this
        · rcases List.mem_cons.mp hw with rfl | hw
          · rfl
          · rw [List.eq_of_mem_replicate hw]
            rfl
      · exact .head (.starve rfl hqueue (Or.inr hread)) hrest

/-- Once all workers have left, the queue is closed and the pool has its result. -/
theorem runs_conclude (job : Job σ) (s : Pool σ) (hclosed : s.closed = false)
    (hresult : s.result = none) (hleft : ∀ w ∈ s.workers, w.hasLeft = true) :
    ∃ final, Runs job s final ∧ final.shared = s.shared ∧
      ∃ o, final.result = some (verdict s.workers o) ∧
        (∀ o', s.reader = .finished o' → o = o') := by
  have hclose : Step job s { s with closed := true } := .close hclosed hleft
  cases hr : s.reader with
  | finished o =>
    exact ⟨_, .head hclose (.single (.conclude rfl hresult hr)), rfl, o, rfl,
      fun o' ho => Reader.finished.inj ho⟩
  | reading ahead =>
    cases ahead with
    | nil =>
      exact ⟨_, .head hclose (.head (.finish hr) (.single (.conclude rfl hresult rfl))), rfl, _,
        rfl, fun o' ho => by cases ho⟩
    | cons e ahead =>
      exact ⟨_, .head hclose (.head (.turnAway hr rfl) (.single (.conclude rfl hresult rfl))), rfl,
        _, rfl, fun o' ho => by cases ho⟩

/-! ## The whole run -/

theorem verdict_left (m : Nat) (o : Except Fault Nat) :
    verdict (List.replicate m (.left (.ok ()) : Worker σ)) o = o.map (fun _ => ()) := by
  have h : (List.replicate m (.left (.ok ()) : Worker σ)).findSome? Worker.fault? = none := by
    rw [List.findSome?_eq_none_iff]
    intro w hw
    rw [List.eq_of_mem_replicate hw]
    rfl
  rw [verdict, h]

/-- Where no entry is left, the pool ends as the manifest does. -/
theorem runs_end (job : Job σ) (m : Nat) (s : Pool σ) (hreader : s.reader = .reading [])
    (hqueue : s.queue = []) (hworkers : s.workers = List.replicate m .idle)
    (hclosed : s.closed = false) (hresult : s.result = none) :
    ∃ final, Runs job s final ∧ final.shared = s.shared ∧
      final.result = some (job.ending.map (fun _ => ())) := by
  have hfinish : Step job s { s with reader := .finished job.ending } := by
    have h : Step job s _ := Step.finish hreader
    rwa [if_neg (by simp [hclosed])] at h
  have hleave := runs_leave job m [] { s with reader := .finished job.ending } (by simp)
    (by simpa using hworkers) (Or.inr ⟨hqueue, _, rfl⟩)
  obtain ⟨final, hruns, hshared, o, hres, ho⟩ := runs_conclude job
    { s with reader := .finished job.ending
             workers := [] ++ List.replicate m (.left (.ok ())) } hclosed hresult
    (by
      intro w hw
      rw [List.nil_append] at hw
      rw [List.eq_of_mem_replicate hw]
      rfl)
  refine ⟨final, .head hfinish (hleave.trans hruns), hshared, ?_⟩
  obtain rfl := ho _ rfl
  rw [hres, List.nil_append, verdict_left]

/-- Once a worker has left with a fault, the others leave too, and the pool ends with that fault. -/
theorem runs_fault (job : Job σ) (m : Nat) (s : Pool σ) {fault : Fault}
    (hworkers : s.workers = .left (.error fault) :: List.replicate m .idle)
    (haborted : s.aborted = true) (hclosed : s.closed = false) (hresult : s.result = none) :
    ∃ final, Runs job s final ∧ final.shared = s.shared ∧
      final.result = some (.error fault) := by
  have hleave := runs_leave job m [.left (.error fault)] s
    (by intro w hw; rw [List.mem_singleton.mp hw]; rfl) hworkers (Or.inl haborted)
  obtain ⟨final, hruns, hshared, o, hres, -⟩ := runs_conclude job
    { s with workers := [.left (.error fault)] ++ List.replicate m (.left (.ok ())) } hclosed
    hresult
    (by
      intro w hw
      rcases List.mem_append.mp hw with hw | hw
      · rw [List.mem_singleton.mp hw]
        rfl
      · rw [List.eq_of_mem_replicate hw]
        rfl)
  exact ⟨final, hleave.trans hruns, hshared, hres⟩

theorem runs_entries (m : Nat) (entries : List ManifestEntry) (s : Pool σ)
    (hreader : s.reader = .reading entries) (hqueue : s.queue = [])
    (hworkers : s.workers = List.replicate (m + 1) .idle) (haborted : s.aborted = false)
    (hclosed : s.closed = false) (hresult : s.result = none) :
    ∃ final, Runs job s final ∧ final.shared = (inOrder job.handle entries s.shared).2 ∧
      final.result = some (resultOf job (inOrder job.handle entries s.shared).1) := by
  induction entries generalizing s with
  | nil => exact runs_end job (m + 1) s hreader hqueue hworkers hclosed hresult
  | cons e entries ih =>
    have hhead : s.workers = .idle :: List.replicate m .idle := hworkers
    have hentry : Runs job s _ := runs_entry hreader hqueue hhead
      (fun w hw => List.eq_of_mem_replicate hw) haborted hclosed
    rcases halone : (job.handle e).alone s.shared with ⟨o, shared⟩
    rw [halone] at hentry
    cases o with
    | ok u =>
      obtain ⟨final, hruns, hshared, hres⟩ := ih
        { s with reader := .reading entries
                 workers := List.replicate (m + 1) .idle
                 shared := shared
                 taken := s.taken ++ [e]
                 ended := s.ended ++ [(e, .ok ())] } rfl hqueue rfl haborted hclosed hresult
      refine ⟨final, hentry.trans (.head (.succeed (List.nil_append _).symm) hruns), ?_, ?_⟩
      · rw [hshared, inOrder, halone]
      · rw [hres, inOrder, halone]
    | error fault =>
      obtain ⟨final, hruns, hshared, hres⟩ := runs_fault job m
        { s with reader := .reading entries
                 workers := .left (.error fault) :: List.replicate m .idle
                 aborted := true
                 shared := shared
                 taken := s.taken ++ [e]
                 ended := s.ended ++ [(e, .error fault)] } rfl rfl hclosed hresult
      refine ⟨final, hentry.trans (.head (.fail (List.nil_append _).symm) hruns), ?_, ?_⟩
      · rw [hshared, inOrder, halone]
      · rw [hres, inOrder, halone]
        rfl

/-- There is a run that handles the entries in order. -/
theorem exists_run_inOrder (job : Job σ) (n : Nat) (shared : σ) :
    ∃ final, Runs job (start job n shared) final ∧
      final.shared = (inOrder job.handle job.entries shared).2 ∧
      final.result = some (resultOf job (inOrder job.handle job.entries shared).1) := by
  obtain ⟨m, hm⟩ : ∃ m, Manifest.workers n = m + 1 :=
    Nat.exists_eq_add_one.mpr (Nat.lt_of_lt_of_le Nat.zero_lt_one (Nat.le_max_right _ _))
  exact runs_entries m job.entries _ rfl rfl (by rw [start, hm]) rfl rfl rfl

end DataStaging.Pool
