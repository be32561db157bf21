import DataStaging.Proofs.Checkpoint.Severed
import DataStaging.Proofs.Checkpoint.System

/-!
# The last upload and the end of the watch

The stop that makes the uploader upload once more also ends the watch, and nothing but the watch
ever marks the connection good. So a connection that is broken when the stop comes can become good
only by a probe that is then under way; otherwise the last upload waits for what never comes.

Results:
* `runs_watch`: what a watch marks on a connection, it marks in a run of the scene.
* `exists_runs_of_watch`: so a watch begun at any time marks the same in some run.
* `stranded_of_runs`: once there is a stop and no such probe, a broken connection stays broken.
* `exists_stranded`: whatever is set, that happens.
* `connection_returns_iff`: when a broken connection can become good again after a stop, and what is
  left of the last upload when it cannot.
-/

namespace DataStaging

/-! ## Marks -/

namespace Connection

variable {c : Connection} {now : Nat}

/-- From the last mark on, time alone changes nothing. -/
theorem brokenSince?_of_le (h : ∀ m ∈ c.marks, m.time ≤ now) :
    c.brokenSince? now = brokenBy c.marks := by
  rw [brokenSince?, List.filter_eq_self.mpr fun m hm => decide_eq_true (h m hm)]

/-- A mark that is not earlier than the others comes last. -/
theorem marks_mark (h : ∀ m ∈ c.marks, m.time ≤ now) (good : Bool) :
    (c.mark ⟨now, good⟩).marks = c.marks ++ [⟨now, good⟩] := by
  have hbefore : c.marks.filter (fun x => x.time ≤ now) = c.marks :=
    List.filter_eq_self.mpr fun m hm => decide_eq_true (h m hm)
  have hafter : c.marks.filter (fun x => now < x.time) = [] :=
    List.filter_eq_nil_iff.mpr fun m hm => by simpa using h m hm
  rw [mark, hbefore, hafter]

theorem brokenBy_append (marks : List Mark) (m : Mark) :
    brokenBy (marks ++ [m]) = brokenAfter (brokenBy marks) m := by
  rw [brokenBy, List.foldl_append]
  rfl

end Connection

namespace Checkpoint

variable {g : Setting} {s s' : System} {t t' : Scene}

/-! ## Scenes -/

/-- Nothing is marked before its time. -/
def Timely (t : Scene) : Prop := ∀ m ∈ t.connection.marks, m.time ≤ t.clock

theorem timely_step {interval : Duration} (h : SceneStep interval t t') (ht : Timely t) :
    Timely t' := by
  unfold Timely at *
  cases h with
  | pass span => exact fun m hm => Nat.le_trans (ht m hm) (Nat.le_add_right _ _)
  | mark hw =>
    intro m hm
    rw [Connection.marks_mark ht, List.mem_append, List.mem_singleton] at hm
    rcases hm with hm | rfl
    · exact ht m hm
    · exact Nat.le_refl _
  | stop | look | probe | wake | leave => exact ht

theorem Timely.broken? (ht : Timely t) : t.broken? = Connection.brokenBy t.connection.marks :=
  Connection.brokenSince?_of_le ht

/-- What a watch marks, it marks in a run of the scene: every sleep ends in a step of the clock and
    in the watch's look for the stop. -/
theorem runs_watch (probe : Nat → Bool) (interval : Duration) (raised : Option Nat)
    (rounds now : Nat) (c : Connection) :
    ∃ t, Relation.ReflTransGen (SceneStep interval) ⟨now, raised.any (· ≤ now), c, .looking⟩ t ∧
      t.connection = Watch.watch probe interval.micros raised rounds now c := by
  induction rounds generalizing now c with
  | zero => exact ⟨_, .refl, rfl⟩
  | succ rounds ih =>
    rw [Watch.watch]
    split
    · exact ⟨_, .refl, rfl⟩
    · rename_i hno
      rw [Bool.not_eq_true] at hno
      rw [hno]
      have hmarked : Relation.ReflTransGen (SceneStep interval) ⟨now, false, c, .looking⟩
          ⟨now, false, c.mark ⟨now, probe now⟩, .sleeping (now + interval.micros)⟩ :=
        .head (.look rfl) (.head (.probe (probe now) rfl) (.single (.mark rfl)))
      cases hsleep : sleepUntil raised (now + interval.micros) now with
      | mk seen woken =>
        cases seen with
        | true => exact ⟨_, hmarked, rfl⟩
        | false =>
          obtain ⟨hle, hnone, hover⟩ := sleepUntil_spec hsleep
          obtain ⟨t, hruns, hwatch⟩ := ih woken (c.mark ⟨now, probe now⟩)
          rw [hnone] at hruns
          have hpass : SceneStep interval
              ⟨now, false, c.mark ⟨now, probe now⟩, .sleeping (now + interval.micros)⟩
              ⟨now + (woken - now), false, c.mark ⟨now, probe now⟩,
                .sleeping (now + interval.micros)⟩ := .pass (woken - now)
          rw [Nat.add_sub_cancel' hle] at hpass
          exact ⟨t, (hmarked.tail hpass).trans (.head (.wake rfl rfl (hover rfl)) hruns), hwatch⟩

/-- Whenever a watch is begun and whatever its probes are answered, some run marks the same. -/
theorem exists_runs_of_watch (g : Setting) (probe : Nat → Bool) (raised : Option Nat)
    (rounds now : Nat) : ∃ s, System.Runs g (System.start g) s ∧ s.scene.connection =
      Watch.watch probe g.interval.micros raised rounds now (System.start g).scene.connection := by
  have hpass : SceneStep g.interval (System.start g).scene
      { (System.start g).scene with clock := 0 + now } := .pass now
  rw [Nat.zero_add] at hpass
  have hbegun : Relation.ReflTransGen (SceneStep g.interval) (System.start g).scene
      ⟨now, raised.any (· ≤ now), (System.start g).scene.connection, .looking⟩ := by
    cases raised.any (· ≤ now) with
    | false => exact .single hpass
    | true => exact .head hpass (.single .stop)
  obtain ⟨t, hruns, hmarked⟩ :=
    runs_watch probe g.interval raised rounds now (System.start g).scene.connection
  have hlift : System.Runs g (System.start g) ⟨t, (System.start g).uploader⟩ :=
    Relation.ReflTransGen.lift (fun t => (⟨t, (System.start g).uploader⟩ : System))
      (fun _ _ hstep => System.Step.scene hstep) _ _ (hbegun.trans hruns)
  exact ⟨_, hlift, hmarked⟩

/-- There is a stop, the connection is broken, and no probe is under way that may be answered
    well. -/
structure Stranded (t : Scene) : Prop where
  timely : Timely t
  stopped : t.stopped = true
  broken : t.broken? ≠ none
  watcher : t.watcher.mayFindGood = false

/-- From a stranded scene no step leads out. -/
theorem stranded_step {interval : Duration} (h : SceneStep interval t t') (ht : Stranded t) :
    Stranded t' := by
  obtain ⟨htimely, hstopped, hbroken, hwatcher⟩ := ht
  have htimely' := timely_step h htimely
  rw [htimely.broken?] at hbroken
  refine ⟨htimely', ?_, ?_, ?_⟩
  · cases h <;> first | exact hstopped | rfl
  · rw [htimely'.broken?]
    cases h with
    | @mark good hw =>
      -- the answer that is about to be marked is a bad one
      rw [hw] at hwatcher
      obtain rfl : good = false := hwatcher
      rw [Connection.marks_mark htimely, Connection.brokenBy_append]
      exact Option.some_ne_none _
    | pass | stop | look | probe | wake | leave => exact hbroken
  · cases h with
    | look hw => simp [hstopped, Watcher.mayFindGood]
    | probe good hw =>
      rw [hw] at hwatcher
      cases hwatcher
    | wake hw hno _ =>
      rw [hstopped] at hno
      cases hno
    | mark | leave => rfl
    | pass | stop => exact hwatcher

/-! ## Runs -/

theorem timely_of_runs (h : System.Runs g s s') (hs : Timely s.scene) : Timely s'.scene := by
  induction h with
  | refl => exact hs
  | tail _ hstep ih =>
    cases hstep with
    | scene hscene => exact timely_step hscene ih
    | uploader _ => exact ih

theorem timely_start (g : Setting) : Timely (System.start g).scene :=
  fun _ hm => absurd hm List.not_mem_nil

/-- A stranded connection stays broken. -/
theorem stranded_of_runs (h : System.Runs g s s') (hs : Stranded s.scene) : Stranded s'.scene := by
  induction h with
  | refl => exact hs
  | tail _ hstep ih =>
    cases hstep with
    | scene hscene => exact stranded_step hscene ih
    | uploader _ => exact ih

/-- A probe that is under way may find the service again. -/
theorem returns_of_mayFindGood (hs : Timely s.scene)
    (h : s.scene.watcher.mayFindGood = true) :
    ∃ s', System.Runs g s s' ∧ s'.scene.broken? = none := by
  have hmark : ∀ s₁ : System, Timely s₁.scene → s₁.scene.watcher = .marking true →
      ∃ s', System.Runs g s₁ s' ∧ s'.scene.broken? = none := by
    intro s₁ htimely hw
    have hstep : SceneStep g.interval s₁.scene _ := .mark hw
    refine ⟨_, .single (.scene hstep), ?_⟩
    rw [(timely_step hstep htimely).broken?, Connection.marks_mark htimely,
      Connection.brokenBy_append]
    rfl
  cases hw : s.scene.watcher with
  | probing =>
    obtain ⟨s', hruns, hgood⟩ :=
      hmark { s with scene := { s.scene with watcher := .marking true } } hs rfl
    exact ⟨s', .head (.scene (.probe true hw)) hruns, hgood⟩
  | marking good =>
    rw [hw] at h
    obtain rfl : good = true := h
    exact hmark s hs hw
  | looking | sleeping deadline | ended =>
    rw [hw] at h
    cases h

/-! ## The last upload -/

/-- No attempt is under way, and the uploader did not come to an end well. -/
def Stage.Idle : Stage → Prop
  | attempting _ _ => False
  | finished outcome => ∃ fault, outcome = .error fault
  | sleeping _ | preparing _ | gated _ _ | pausing _ _ _ => True

/-- The last upload waits for the connection. -/
def Stage.waits : Stage → Bool
  | gated last _ | pausing last _ _ => last
  | sleeping _ | preparing _ | attempting _ _ | finished _ => false

/-- The last upload waits, or it was given up because the connection was broken for too long. -/
def Stage.Held (g : Setting) (stage : Stage) : Prop :=
  stage.waits = true ∨ ∃ elapsed limit, g.limit = some limit ∧
    stage = .finished (.error (.serviceGone elapsed limit))

theorem idle_afterUpload (clock : Nat) (last : Bool) (fault : Fault) (u : Uploader) :
    (u.afterUpload g clock last (.error fault)).stage.Idle := by
  cases last with
  | true => exact ⟨fault, rfl⟩
  | false => trivial

theorem idle_step {u u' : Uploader} (h : UploaderStep g t u u') (hbroken : t.broken? ≠ none)
    (hu : u.stage.Idle) : u'.stage.Idle := by
  cases h with
  | wake | flush | ready | resume => trivial
  | falter fault _ => exact idle_afterUpload _ _ fault u
  | giveUp => exact idle_afterUpload _ _ _ u
  | enter _ hgood => exact absurd hgood hbroken
  | attempt _ _ hstage | refuse _ hstage =>
    rw [hstage] at hu
    exact hu.elim

theorem held_step {u u' : Uploader} (h : UploaderStep g t u u') (hbroken : t.broken? ≠ none)
    (hu : u.stage.Held g) : u'.stage.Held g := by
  obtain hwaits | ⟨elapsed, limit, -, hfinished⟩ := hu
  · cases h with
    | enter _ hgood => exact absurd hgood hbroken
    | @giveUp last _ _ limit hstage _ hlimit _ =>
      rw [hstage] at hwaits
      obtain rfl : last = true := hwaits
      exact Or.inr ⟨_, limit, hlimit, rfl⟩
    | resume hstage _ =>
      rw [hstage] at hwaits
      exact Or.inl hwaits
    | wake hstage | flush hstage | ready hstage | falter _ hstage | attempt _ _ hstage
    | refuse _ hstage =>
      rw [hstage] at hwaits
      cases hwaits
  · -- nothing follows the end
    cases h with
    | wake hstage | flush hstage | ready hstage | falter _ hstage | enter hstage | giveUp hstage
    | attempt _ _ hstage | refuse _ hstage | resume hstage =>
      rw [hfinished] at hstage
      cases hstage

/-- What the uploader's steps on a broken connection preserve, runs from a stranded scene do. -/
theorem uploader_of_runs {P : Stage → Prop}
    (hstep : ∀ {t : Scene} {u u' : Uploader}, UploaderStep g t u u' → t.broken? ≠ none →
      P u.stage → P u'.stage)
    (h : System.Runs g s s') (hs : Stranded s.scene) (hu : P s.uploader.stage) :
    P s'.uploader.stage := by
  induction h with
  | refl => exact hu
  | tail hruns hlast ih =>
    cases hlast with
    | scene _ => exact ih
    | uploader hup => exact hstep hup (stranded_of_runs hruns hs).broken ih

/-- Where the first probe finds the service out of reach and a stop comes before the second, the
    last upload waits on a broken connection that nothing watches. -/
theorem exists_stranded (g : Setting) : ∃ s, System.Runs g (System.start g) s ∧
    s.scene.stopped = true ∧ s.scene.broken? ≠ none ∧ s.scene.watcher = .ended ∧
    s.uploader.stage = .gated true .start := by
  refine ⟨_, .head (.scene (.look rfl)) (.head (.scene (.probe false rfl))
    (.head (.scene (.mark rfl)) (.head (.scene .stop) (.head (.scene (.leave rfl rfl))
      (.head (.uploader (.flush rfl rfl)) (.single (.uploader (.ready rfl)))))))), rfl, ?_, rfl,
    rfl⟩
  exact Option.some_ne_none 0

/-! ## Hosts -/

/-- The host is as in the scene, or later with nothing new marked; a stop drops nothing there. -/
structure Scene.On (t : Scene) (h : Host) : Prop where
  connection_eq : h.connection = t.connection
  clock_le : t.clock ≤ h.clock
  stopped : t.stopped = true → h.stopAt.any (· ≤ h.clock) = true
  drops_eq : h.dropsOnStop = false

theorem Stranded.severed (ht : Stranded t) {h : Host} (hon : t.On h) : h.Severed := by
  refine ⟨fun now hnow => ?_, hon.drops_eq⟩
  have hlater : ∀ m ∈ t.connection.marks, m.time ≤ now :=
    fun m hm => Nat.le_trans (ht.timely m hm) (Nat.le_trans hon.clock_le hnow)
  rw [hon.connection_eq, Connection.brokenSince?_of_le hlater, ← ht.timely.broken?]
  exact ht.broken

/-- After a stop, a broken connection becomes good again in some run exactly if a probe is under way
    that may be answered well; so some watch is left, or the connection may become good, exactly if
    the watch has not ended. Otherwise, on every host in this scene, no loop of attempts and no
    checkpoints come to an end well; an uploader that makes no attempt never makes one any more and
    never succeeds; and a last upload that waits does so forever, or until the connection was broken
    for too long. Among the runs are those in which the agent's own watch makes the marks. -/
theorem connection_returns_iff (h : System.Runs g (System.start g) s)
    (hstop : s.scene.stopped = true) (hbroken : s.scene.broken? ≠ none)
    (hunfinished : ∀ outcome, s.uploader.stage ≠ .finished outcome) :
    ((s.scene.watcher ≠ .ended ∨ ∃ s', System.Runs g s s' ∧ s'.scene.broken? = none) ↔
      s.scene.watcher ≠ .ended) ∧
    ((∃ s', System.Runs g s s' ∧ s'.scene.broken? = none) ↔
      s.scene.watcher.mayFindGood = true) ∧
    (s.scene.watcher.mayFindGood = false →
      (∀ host, s.scene.On host →
        (∀ (attempt : Bool → Act Host (Attempt Unit)) policy label hasVariant status patience report
            result h',
          (Retry.run (Run.means attempt) policy label hasVariant status patience report).run host ≠
            (.ok result, h')) ∧
        ∀ (courier : Courier) path uri pattern frequency rounds uploads count h',
          (run (Host.sleep frequency) (do let _ ← courier.upload path uri pattern)
            rounds uploads).run host ≠ (.ok count, h')) ∧
      ((∀ last report, s.uploader.stage ≠ .attempting last report) →
        ∀ s', System.Runs g s s' →
          (∀ last report, s'.uploader.stage ≠ .attempting last report) ∧
          ∀ count, s'.uploader.stage ≠ .finished (.ok count)) ∧
      (s.uploader.stage.waits = true → ∀ s', System.Runs g s s' →
        s'.uploader.stage.waits = true ∨ ∃ elapsed limit, g.limit = some limit ∧
          s'.uploader.stage = .finished (.error (.serviceGone elapsed limit)))) ∧
    ∀ probe raised rounds now, ∃ s', System.Runs g (System.start g) s' ∧
      s'.scene.connection =
        Watch.watch probe g.interval.micros raised rounds now ⟨[], g.poll, g.limit⟩ := by
  have htimely := timely_of_runs h (timely_start g)
  have hstranded : s.scene.watcher.mayFindGood = false → Stranded s.scene :=
    fun hno => ⟨htimely, hstop, hbroken, hno⟩
  have hreturns : (∃ s', System.Runs g s s' ∧ s'.scene.broken? = none) ↔
      s.scene.watcher.mayFindGood = true := by
    refine ⟨fun ⟨s', hruns, hgood⟩ => ?_, returns_of_mayFindGood htimely⟩
    by_contra hno
    exact (stranded_of_runs hruns (hstranded (Bool.eq_false_iff.mpr hno))).broken hgood
  refine ⟨⟨?_, Or.inl⟩, hreturns, fun hno => ⟨fun host hon => ?_, fun hattempt s' hruns => ?_,
    fun hwaits s' hruns => uploader_of_runs held_step hruns (hstranded hno) (Or.inl hwaits)⟩,
    exists_runs_of_watch g⟩
  · rintro (hw | hgood)
    · exact hw
    · intro hw
      rw [hreturns, hw] at hgood
      cases hgood
  · have hsevered := (hstranded hno).severed hon
    exact ⟨Run.run_means_ne_ok hsevered, Checkpoint.run_ne_ok hsevered (hon.stopped hstop)⟩
  · have hidle : s.uploader.stage.Idle := by
      cases hstage : s.uploader.stage with
      | attempting last report => exact absurd hstage (hattempt last report)
      | finished outcome => exact absurd hstage (hunfinished outcome)
      | sleeping | preparing | gated | pausing => trivial
    have hidle' := uploader_of_runs idle_step hruns (hstranded hno) hidle
    refine ⟨fun last report hstage => ?_, fun count hstage => ?_⟩
    · rw [hstage] at hidle'
      exact hidle'
    · rw [hstage] at hidle'
      obtain ⟨fault, hfault⟩ := hidle'
      cases hfault

/-- A request for checkpoints every minute that sets no limit. -/
def unlimited : Setting where
  policy := .standard
  label := "osmo data upload"
  hasVariant := true
  status := ExitStatus.uploadFailed
  frequency := .ofSeconds 60
  interval := Defaults.probeInterval
  poll := Defaults.healthPoll
  limit := none

/-- Without a limit the last upload waits forever. -/
theorem stranded_without_limit : ∃ s, System.Runs unlimited (System.start unlimited) s ∧
    s.scene.stopped = true ∧ s.scene.broken? ≠ none ∧ s.uploader.stage = .gated true .start ∧
    (¬(s.scene.watcher ≠ .ended ∨
      ∃ s', System.Runs unlimited s s' ∧ s'.scene.broken? = none)) ∧
    ∀ s', System.Runs unlimited s s' → s'.uploader.stage.waits = true := by
  obtain ⟨s, hruns, hstop, hbroken, hended, hstage⟩ := exists_stranded unlimited
  obtain ⟨hwatch, -, hafter, -⟩ := connection_returns_iff hruns hstop hbroken
    (fun outcome hfinished => by rw [hstage] at hfinished; cases hfinished)
  have hno : s.scene.watcher.mayFindGood = false := by
    rw [hended]
    rfl
  have hwaits : s.uploader.stage.waits = true := by
    rw [hstage]
    rfl
  obtain ⟨-, -, hheld⟩ := hafter hno
  refine ⟨s, hruns, hstop, hbroken, hstage, fun h => hwatch.mp h hended, fun s' hruns' => ?_⟩
  obtain hstill | ⟨elapsed, limit, hlimit, -⟩ := hheld hwaits s' hruns'
  · exact hstill
  · cases hlimit

end Checkpoint

end DataStaging
