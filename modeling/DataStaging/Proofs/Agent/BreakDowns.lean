import DataStaging.Proofs.Checkpoint.Flush
import DataStaging.Proofs.Checkpoint.Looks
import DataStaging.Proofs.Process.Sturdy
import DataStaging.Proofs.Sync.Reports

/-!
# Requests that break down

A request carries four spans of time: the idle and the disconnect timeout, the frequency of
checkpoints and the interval of a sync session. No timeout breaks anything down. But a session whose
interval is zero has a timer that cannot be made, which is noticed only when its command runs; and
checkpoints ask the clock for the end of each sleep, which may be a time that it cannot count to.

Results:
* `Stager.sturdy_stage`, `Courier.sturdy_upload`, `Courier.sturdy_download`: these never break down.
* `Session.breaksDown_run_iff`: sessions.
* `Checkpoint.Keeper.breaksDown_run_iff`: checkpoints.
* `Agent.breaksDown_iff`: every request, and what is left of the last report and the last upload.
-/

namespace DataStaging

/-! ## Mounts and transfers -/

namespace Mounting

theorem sturdy_call (command : Command) : Sturdy (call command) := by
  apply Sturdy.tryCatch ((Run.sturdy_once command).bind fun _ => Sturdy.pure _)
  intro halt hhalt
  cases halt with
  | fault fault => exact Sturdy.pure _
  | interrupted | stuck | crash reason => exact Sturdy.throw hhalt

theorem sturdy_callClient (command : Command) : Sturdy (callClient command) := by
  apply (sturdy_call command).bind
  intro answer
  cases answer with
  | ok o => exact Sturdy.pure _
  | error fault => exact Sturdy.pure _

theorem sturdy_isEmpty (localPath : String) : Sturdy (isEmpty localPath) := by
  apply Sturdy.get.bind
  intro h
  split
  · exact Sturdy.pure _
  · exact Sturdy.pure _

theorem sturdy_attempts (client : MountClient) (locator : Locator) (localPath : String)
    (command : Command) (left : Nat) :
    Sturdy (attempts client locator localPath command left) := by
  induction left with
  | zero => exact Sturdy.pure _
  | succ left ih =>
    refine (sturdy_callClient command).bind fun v => (Host.sturdy_notify _).bind fun _ => ?_
    split_ifs
    · exact ih
    apply (sturdy_isEmpty localPath).bind
    intro empty
    split_ifs
    · have hunmount : Sturdy (unmount client localPath) :=
        (sturdy_call _).bind fun _ => Sturdy.pure _
      exact (Host.sturdy_notify _).bind fun _ => hunmount.bind fun _ => ih
    · exact (Host.sturdy_notify _).bind fun _ => Sturdy.pure _

theorem sturdy_mount (client : MountClient) (credentials : Credentials) (locator : Locator)
    (localPath : String) (cache : MountCache) :
    Sturdy (mount client credentials locator localPath cache) := by
  unfold mount
  cases credentials.lookup locator.bucket.profile with
  | none => exact (Host.sturdy_notify _).bind fun _ => Sturdy.pure _
  | some pair =>
    apply (Host.sturdy_ensureDirectory localPath).bind
    intro _
    cases cache.enabled? with
    | none => exact sturdy_attempts _ _ _ _ _
    | some p => exact (Host.sturdy_ensureDirectory p.1).bind fun _ => sturdy_attempts _ _ _ _ _

end Mounting

namespace Courier

theorem sturdy_move (courier : Courier) (direction : Direction) (uri path : String)
    (pattern : Option String) : Sturdy (courier.move direction uri path pattern) := by
  refine (Host.sturdy_orFail _).bind fun _ => Sturdy.get.bind fun h => ?_
  cases courier.mover.benchmarkFolder with
  | none => exact Run.sturdy_streaming _ _ _ _
  | some folder =>
    exact (Host.sturdy_ensureDirectory folder).bind fun _ => Run.sturdy_streaming _ _ _ _

theorem sturdy_download (courier : Courier) (uri path : String) (pattern : Option String) :
    Sturdy (courier.download uri path pattern) :=
  (Host.sturdy_ensureDirectory path).bind fun _ => sturdy_move _ _ _ _ _

theorem sturdy_upload (courier : Courier) (path uri : String) (pattern : Option String) :
    Sturdy (courier.upload path uri pattern) := sturdy_move _ _ _ _ _

end Courier

namespace Stager

theorem sturdy_serve (stager : Stager) (root : String) (row : MountRow) :
    Sturdy (stager.serve root row) := by
  apply (Host.sturdy_orFail _).bind
  intro area
  apply (Mounting.sturdy_mount _ _ _ _ _).bind
  intro empty
  split_ifs
  · exact Sturdy.pure _
  cases stager.courier with
  | none => exact (Host.sturdy_notify _).bind fun _ => Sturdy.pure _
  | some courier =>
    exact (Host.sturdy_notify _).bind fun _ =>
      (courier.sturdy_download _ _ _).bind fun _ => Sturdy.pure _

theorem sturdy_serveAll (stager : Stager) (root : String) (rows : List MountRow)
    (report : StagingReport) (table : MountTable) :
    Sturdy (stager.serveAll root rows report table) := by
  induction rows generalizing report table with
  | nil => exact Sturdy.pure _
  | cons row rows ih => exact (stager.sturdy_serve root row).bind fun s => ih _ _

theorem sturdy_link (manifest destination : String) (table : MountTable) :
    Sturdy (link manifest destination table) :=
  Sturdy.get.bind fun _ => (Sturdy.set _).bind fun _ => Host.sturdy_orFail _

theorem sturdy_stage (stager : Stager) (manifest : String) (hashRoot : Option String)
    (destination root : String) : Sturdy (stager.stage manifest hashRoot destination root) := by
  refine Sturdy.get.bind fun h => (Host.sturdy_orFail _).bind fun table => ?_
  exact (stager.sturdy_serveAll _ _ _ _).bind fun _ =>
    (sturdy_link _ _ _).bind fun _ => Sturdy.pure _

end Stager

/-! ## Sync sessions -/

namespace Session

variable {command : Command} {interval : Duration} {audience : Audience} {h h₁ h' : Host}
  {b : Behaviour}

theorem sturdy_follow (b : Behaviour) (began : Nat) :
    Sturdy (follow interval audience b began) := by
  refine Sturdy.get.bind fun now => ?_
  simp only
  split
  · exact Sturdy.stuck
  · exact (Host.sturdy_elapse _).bind fun _ => Sturdy.pure _

/-- A session whose interval is zero breaks down as soon as its command has been started. -/
theorem breaksDown_run_iff :
    BreaksDown (run command interval audience) h h' ↔
      interval.nanos = 0 ∧ ∃ b, (Host.begin command).run h = (.ok b, h') := by
  unfold run
  rw [breaksDown_get_bind_iff, (Host.sturdy_begin command).breaksDown_bind_iff]
  constructor
  · rintro ⟨b, h₁, hbegin, hrest⟩
    by_cases hzero : interval.nanos = 0
    · obtain ⟨reason, hrun⟩ := hrest
      rw [if_pos hzero] at hrun
      cases hrun
      exact ⟨hzero, b, hbegin⟩
    · rw [if_neg hzero] at hrest
      exact absurd hrest (sturdy_follow b h.clock h₁ h')
  · rintro ⟨hzero, b, hbegin⟩
    refine ⟨b, h', hbegin, "`period` must be non-zero.", ?_⟩
    rw [if_pos hzero]
    rfl

/-- A listener that reads at once leaves the queue empty again. -/
theorem after_alive_read (n : Nat) (received : List Bool) :
    (⟨1, [], received, true⟩ : ReportQueue).after
        (List.replicate n [QueueEvent.alive, QueueEvent.read]).flatten =
      ⟨1, [], received ++ List.replicate n true, true⟩ := by
  induction n generalizing received with
  | zero => simp [ReportQueue.after]
  | succ n ih =>
    have hround : (⟨1, [], received, true⟩ : ReportQueue).after
        (List.replicate (n + 1) [QueueEvent.alive, QueueEvent.read]).flatten =
          (⟨1, [], received ++ [true], true⟩ : ReportQueue).after
            (List.replicate n [QueueEvent.alive, QueueEvent.read]).flatten := rfl
    rw [hround, ih, List.append_assoc, List.replicate_succ, List.singleton_append]

theorem heard_prompt (n : Nat) : heard .prompt n = List.replicate n true ++ [false] := by
  have hafter : (queueFor .prompt).after (events .prompt n) =
      ⟨1, [], List.replicate n true, true⟩ := after_alive_read n []
  rw [heard, hafter]
  rfl

end Session

/-! ## Checkpoints -/

namespace Host

/-- The end of a sleep that begins now is a time that the clock cannot count to. -/
def Overflows (h : Host) (span : Duration) : Prop :=
  clockLimit ≤ (h.clock + span.micros) / 1000000

/-- A sleep of as many seconds as the clock can count is out of reach at any time. -/
theorem overflows_of_le (h : Host) {seconds : Nat} (hlong : clockLimit ≤ seconds) :
    h.Overflows (.ofSeconds seconds) := by
  have hmicros : (Duration.ofSeconds seconds).micros = seconds * 1000000 := by
    show seconds * 1000000000 / 1000 = seconds * 1000000
    omega
  unfold Overflows
  rw [hmicros, Nat.add_mul_div_right _ _ (by decide)]
  omega

theorem run_sleep_of_overflows {h : Host} {span : Duration} (hover : h.Overflows span) :
    (sleep span).run h =
      (.error (.crash "overflow when adding duration to instant"), h) := by
  unfold Overflows at hover
  unfold sleep
  rw [run_get_bind]
  simp only
  rw [if_pos hover]
  rfl

/-- A sleep breaks down where its end is out of reach, also if there is a stop already. -/
theorem breaksDown_sleep_iff {h h' : Host} {span : Duration} :
    BreaksDown (sleep span) h h' ↔ h.Overflows span ∧ h' = h := by
  constructor
  · rintro ⟨reason, hrun⟩
    by_cases hover : h.Overflows span
    · rw [run_sleep_of_overflows hover] at hrun
      cases hrun
      exact ⟨hover, rfl⟩
    · obtain ⟨times, seen, last, -, -, -, hslept⟩ := exists_looks (Nat.not_le.mp hover)
      cases hrun.symm.trans hslept
  · rintro ⟨hover, rfl⟩
    exact ⟨_, run_sleep_of_overflows hover⟩

/-- A stop that comes by the end of a sleep is seen. -/
theorem exists_seen {h : Host} {span : Duration} (hover : ¬ h.Overflows span)
    (hstop : RaisedBy h.stopAt (h.clock + span.micros)) :
    ∃ h', (sleep span).run h = (.ok true, h') ∧ h'.Stopped := by
  obtain ⟨times, seen, last, -, hkept, -, hslept⟩ := exists_looks (Nat.not_le.mp hover)
  have hseen : seen = true := by
    by_contra hunseen
    obtain ⟨-, -, hquiet⟩ := hkept.of_unseen (Bool.eq_false_iff.mpr hunseen)
    exact hquiet hstop
  subst hseen
  exact ⟨_, hslept, (stopped_iff_of_run_sleep hslept).mp rfl⟩

end Host

namespace Checkpoint.Keeper

variable {k : Keeper Host} {span : Duration} {h h' : Host} {rounds : Nat}

/-- If uploads do not, checkpoints break down where a sleep does, after some rounds. -/
theorem breaksDown_run_iff (hupload : Sturdy (k.upload k.path k.destination k.pattern)) :
    BreaksDown (k.run (Host.sleep span) rounds) h h' ↔
      ∃ calls, k.Rounds (Host.sleep span) h calls h' ∧ calls.length < rounds ∧
        h'.Overflows span := by
  have hcall : ∀ s n reason, (k.call s).result.map (fun _ => n) ≠
      (.error (.crash reason) : Except Halt Nat) := by
    intro s n reason hcrash
    cases hresult : (k.call s).result with
    | ok report =>
      rw [hresult] at hcrash
      cases hcrash
    | error halt =>
      rw [hresult] at hcrash
      cases hcrash
      exact hupload s _ ⟨reason, Prod.ext hresult rfl⟩
  constructor
  · rintro ⟨reason, hrun⟩
    obtain ⟨calls, h₁, hrounds, hend⟩ := k.exists_rounds (Host.sleep span) h rounds
    rcases hend with hlength | ⟨hmore, hend⟩
    · -- the rounds are used up, which is no breakdown
      have hstuck := run_of_rounds hrounds 0 0
      rw [Nat.add_zero, hlength] at hstuck
      cases hstuck.symm.trans hrun
    obtain ⟨more, rfl⟩ := Nat.exists_eq_add_of_lt hmore
    rw [run, Nat.add_assoc, run_of_rounds hrounds] at hrun
    cases hend with
    | seen hseen =>
      rw [run_of_seen hseen] at hrun
      exact absurd (congrArg Prod.fst hrun) (hcall _ _ _)
    | awake hawake =>
      rw [run_of_sleep_error hawake] at hrun
      cases hrun
      obtain ⟨hover, rfl⟩ := Host.breaksDown_sleep_iff.mp ⟨reason, hawake⟩
      exact ⟨calls, hrounds, hmore, hover⟩
    | cut hslept hcut =>
      rw [run_of_not_returned hslept hcut] at hrun
      exact absurd (congrArg Prod.fst hrun) (hcall _ _ _)
  · rintro ⟨calls, hrounds, hmore, hover⟩
    obtain ⟨more, rfl⟩ := Nat.exists_eq_add_of_lt hmore
    refine ⟨"overflow when adding duration to instant", ?_⟩
    rw [run, Nat.add_assoc, run_of_rounds hrounds]
    exact run_of_sleep_error (Host.run_sleep_of_overflows hover) _ _

end Checkpoint.Keeper

/-! ## Requests -/

namespace Agent

open Checkpoint

theorem sturdy_watchService (url : String) : Sturdy (watchService url) :=
  (Host.sturdy_orFail _).bind fun _ => Sturdy.modify _

theorem sturdy_courier (r : RunnerSettings) : Sturdy (courier r) := by
  apply (Sturdy.modify _).bind
  intro _
  cases r.serviceUrl with
  | none => exact Sturdy.get.bind fun _ => Sturdy.pure _
  | some url =>
    exact (sturdy_watchService url).bind fun _ => Sturdy.get.bind fun _ => Sturdy.pure _

theorem sturdy_credentials (path : Option String) : Sturdy (credentials path) := by
  apply Sturdy.get.bind
  intro h
  cases path with
  | none => exact Sturdy.pure _
  | some path => exact (Host.sturdy_orFail _).bind fun _ => Sturdy.pure _

theorem sturdy_stage (r : StageRequest) : Sturdy (stage r) := by
  apply (sturdy_credentials r.credentials).bind
  intro keys
  simp only
  split_ifs
  · have hcourier : Sturdy (some <$> courier r.runner) :=
      (sturdy_courier r.runner).bind fun _ => Sturdy.pure _
    exact hcourier.bind fun _ => (Stager.sturdy_stage _ _ _ _ _).bind fun _ => Sturdy.pure _
  · exact (Sturdy.pure _).bind fun _ =>
      (Stager.sturdy_stage _ _ _ _ _).bind fun _ => Sturdy.pure _

theorem sturdy_untilStopped {action : Act Host Unit} (h : Sturdy action) :
    Sturdy (untilStopped action) :=
  (Sturdy.modify _).bind fun _ => h.bind fun _ => Sturdy.pure _

theorem sturdy_summary (path : String) : Sturdy (summary path) :=
  Sturdy.get.bind fun _ => (Host.sturdy_orFail _).bind fun _ => Sturdy.pure _

/-- The keeper of a request for checkpoints. -/
def keeperOf (courier : Courier) (r : CheckpointRequest) : Keeper Host :=
  ⟨courier.upload, r.transfer.path, r.transfer.uri, r.transfer.pattern⟩

/-- The command of a sync request. -/
def syncCommand (r : SyncRequest) : Command :=
  (Command.ofProgram (r.command.headD "")).withArgs r.command.tail

/-- On this host a request asks the clock for what it does not have, and leaves another host: a
    timer without a period once the command is running, or the end of a sleep out of reach after
    some uploads. -/
def TimeFails : Request → Host → Host → Prop
  | .sync r, h, h' => r.interval = 0 ∧ ∃ b, (Host.begin (syncCommand r)).run h = (.ok b, h')
  | .checkpoint r, h, h' => ∃ c h₀ calls, (courier r.transfer.runner).run h = (.ok c, h₀) ∧
      (keeperOf c r).Rounds (Host.sleep (.ofSeconds r.frequency)) h₀ calls h' ∧
      calls.length < h₀.patience ∧ h'.Overflows (.ofSeconds r.frequency)
  | .stage _, _, _ | .download _, _, _ | .upload _, _, _ | .summary _, _, _ => False

theorem breaksDown_sync_iff {r : SyncRequest} {h h' : Host} :
    BreaksDown (sync r) h h' ↔ TimeFails (.sync r) h h' := by
  unfold sync
  rw [breaksDown_bind_iff_left fun _ => Sturdy.pure _, Session.breaksDown_run_iff]
  have hzero : (Duration.ofSeconds r.interval).nanos = 0 ↔ r.interval = 0 := by
    show r.interval * 1000000000 = 0 ↔ r.interval = 0
    omega
  rw [hzero]
  rfl

theorem breaksDown_checkpoint_iff {r : CheckpointRequest} {h h' : Host} :
    BreaksDown (checkpoint r) h h' ↔ TimeFails (.checkpoint r) h h' := by
  rw [agent_checkpoint, (sturdy_courier _).breaksDown_bind_iff]
  have hkeeper (c : Courier) (h₀ : Host) :=
    @Keeper.breaksDown_run_iff (keeperOf c r) (.ofSeconds r.frequency) h₀ h' h₀.patience
      (c.sturdy_upload _ _ _)
  constructor
  · rintro ⟨c, h₀, hcourier, hdown⟩
    rw [breaksDown_get_bind_iff, breaksDown_bind_iff_left fun _ => Sturdy.pure _] at hdown
    obtain ⟨calls, hrounds⟩ := (hkeeper c h₀).mp hdown
    exact ⟨c, h₀, calls, hcourier, hrounds⟩
  · rintro ⟨c, h₀, calls, hcourier, hrounds⟩
    refine ⟨c, h₀, hcourier, ?_⟩
    rw [breaksDown_get_bind_iff, breaksDown_bind_iff_left fun _ => Sturdy.pure _]
    exact (hkeeper c h₀).mpr ⟨calls, hrounds⟩

theorem breaksDown_serve_iff {request : Request} {h h' : Host} :
    BreaksDown (serve request) h h' ↔ TimeFails request h h' := by
  cases request with
  | sync r => exact breaksDown_sync_iff
  | checkpoint r =>
    rw [← breaksDown_checkpoint_iff]
    exact breaksDown_bind_iff_left fun _ => Sturdy.pure _
  | stage r => exact iff_of_false (sturdy_untilStopped (sturdy_stage r) h h') id
  | download r =>
    refine iff_of_false (sturdy_untilStopped ?_ h h') id
    exact (sturdy_courier _).bind fun c => (c.sturdy_download _ _ _).bind fun _ => Sturdy.pure _
  | upload r =>
    refine iff_of_false (sturdy_untilStopped ?_ h h') id
    exact (sturdy_courier _).bind fun c => (c.sturdy_upload _ _ _).bind fun _ => Sturdy.pure _
  | summary path => exact iff_of_false (sturdy_summary path h h') id

/-- Checkpoints whose last sleep can be asked for, and has a stop by its end, end with the upload
    that the stop asks for. -/
theorem exists_flush {r : CheckpointRequest} {c : Courier} {h h₀ h₁ : Host}
    {calls : List (Call Host)} (hcourier : (courier r.transfer.runner).run h = (.ok c, h₀))
    (hrounds : (keeperOf c r).Rounds (Host.sleep (.ofSeconds r.frequency)) h₀ calls h₁)
    (hmore : calls.length < h₀.patience) (hover : ¬ h₁.Overflows (.ofSeconds r.frequency))
    (hstop : RaisedBy h₁.stopAt (h₁.clock + (Duration.ofSeconds r.frequency).micros)) :
    ∃ h₂, h₂.Stopped ∧ (serve (.checkpoint r)).run h =
      (((keeperOf c r).call h₂).result.map (fun _ => .silent),
        ((keeperOf c r).call h₂).after) := by
  obtain ⟨h₂, hseen, hstopped⟩ := Host.exists_seen hover hstop
  refine ⟨h₂, hstopped, ?_⟩
  have hflush := Keeper.run_of_flush hrounds hseen hmore
  have hserve : (serve (.checkpoint r)).run h = ((do
      let _ ← (keeperOf c r).run (Host.sleep (.ofSeconds r.frequency)) h₀.patience
      return .silent : Act Host Answer)).run h₀ := by
    show (do checkpoint r; return .silent : Act Host Answer).run h = _
    rw [agent_checkpoint, bind_assoc, run_bind_of_ok hcourier, bind_assoc, run_get_bind, bind_assoc]
    rfl
  rw [hserve]
  unfold Keeper.verdict at hflush
  cases hresult : ((keeperOf c r).call h₂).result with
  | ok report =>
    rw [hresult] at hflush
    exact run_bind_of_ok hflush _
  | error halt =>
    rw [hresult] at hflush
    exact run_bind_of_error hflush _

/-- A sync session with an interval whose command was started is endless, or reports in the end that
    it is over. -/
theorem exists_answer {r : SyncRequest} {b : Behaviour} {h h₁ : Host}
    (hbegin : (Host.begin (syncCommand r)).run h = (.ok b, h₁)) (hdrops : h.dropsOnStop = false)
    (hinterval : r.interval ≠ 0) :
    (b.total? = none ∧ h₁.stopAt = none) ∨
      ∃ answer h', (serve (.sync r)).run h = (.ok answer, h') ∧
        ∃ n, answer.reports = List.replicate n true ++ [false] := by
  have hnanos : (Duration.ofSeconds r.interval).nanos ≠ 0 := by
    show r.interval * 1000000000 ≠ 0
    omega
  rcases @Session.exists_report _ _ .prompt _ _ _ hbegin hdrops hnanos with hendless | hended
  · exact Or.inl hendless
  · obtain ⟨report, h', n, hrun, hheard⟩ := hended
    exact Or.inr ⟨⟨report.written, report.heard, report.outcome⟩, h', run_bind_of_ok hrun _, n,
      hheard.trans (Session.heard_prompt n)⟩

/-- Of the requests that a command line can make, exactly these break down, whatever the timeouts: a
    sync session of interval zero whose command can be started, and checkpoints that come to a sleep
    whose end the clock cannot count to. The agent then exits as broken down, with no report and
    with no upload after those before that sleep. Otherwise checkpoints make their last upload when
    they are stopped, and a session that ends reports so. -/
theorem breaksDown_iff {words : List String} {request : Request}
    (hread : CommandLine.read words = .ok request) (h : Host) :
    (∀ h', BreaksDown (serve request) h h' ↔ TimeFails request h h') ∧
      (∀ h', TimeFails request h h' → run words h = (⟨some brokenStatus, [], []⟩, h')) ∧
      (∀ r, request = .checkpoint r → ∀ c h₀ calls h₁,
        (courier r.transfer.runner).run h = (.ok c, h₀) →
        (keeperOf c r).Rounds (Host.sleep (.ofSeconds r.frequency)) h₀ calls h₁ →
        calls.length < h₀.patience → ¬ h₁.Overflows (.ofSeconds r.frequency) →
        RaisedBy h₁.stopAt (h₁.clock + (Duration.ofSeconds r.frequency).micros) →
        ∃ h₂, h₂.Stopped ∧ (serve request).run h =
          (((keeperOf c r).call h₂).result.map (fun _ => .silent),
            ((keeperOf c r).call h₂).after)) ∧
      ∀ r, request = .sync r → ∀ b h₁,
        (Host.begin (syncCommand r)).run h = (.ok b, h₁) → h.dropsOnStop = false →
        r.interval ≠ 0 → (b.total? = none ∧ h₁.stopAt = none) ∨
          ∃ answer h', (serve request).run h = (.ok answer, h') ∧
            ∃ n, answer.reports = List.replicate n true ++ [false] := by
  refine ⟨fun h' => breaksDown_serve_iff, ?_, ?_, ?_⟩
  · intro h' hfails
    obtain ⟨reason, hrun⟩ := breaksDown_serve_iff.mpr hfails
    unfold run
    rw [hread]
    simp only [hrun]
    rfl
  · rintro r rfl c h₀ calls h₁ hcourier hrounds hmore hover hstop
    exact exists_flush hcourier hrounds hmore hover hstop
  · rintro r rfl b h₁ hbegin hdrops hinterval
    exact exists_answer hbegin hdrops hinterval

/-- A sync session of interval zero. -/
def timelessWords : List String := ["sync", "--socket", "s", "--interval", "0", "--", "rs"]

/-- Checkpoints as far apart as they can be asked for. -/
def rareWords : List String :=
  ["checkpoint", "out", "s3://b/out", "--frequency", "18446744073709551615"]

/-- A host that was asked to stop before the agent began. -/
def stoppedHost : Host := { lateHost 0 (some 0) with patience := 1 }

/-- The command of the session is running when it breaks down; the checkpoints break down before
    anything is uploaded, although they are to stop. -/
theorem broken_at_both_ends :
    (∃ h', run timelessWords stoppedHost = (⟨some 101, [], []⟩, h') ∧
      h'.starts = [⟨"rs", [], []⟩]) ∧
    ∃ h', run rareWords stoppedHost = (⟨some 101, [], []⟩, h') ∧ h'.starts = [] := by
  constructor
  · have hread : CommandLine.read timelessWords = .ok (.sync ⟨"s", 0, ["rs"]⟩) := by decide +kernel
    obtain ⟨-, hexit, -⟩ := breaksDown_iff hread stoppedHost
    have hbegin : (Host.begin (syncCommand ⟨"s", 0, ["rs"]⟩)).run stoppedHost = _ :=
      Host.run_begin (by decide) rfl
    exact ⟨_, hexit _ ⟨rfl, _, hbegin⟩, rfl⟩
  · have hread : CommandLine.read rareWords = .ok (.checkpoint
        ⟨⟨"s3://b/out", "out", none,
          ⟨"osmo", none, none, 5, 600, none, none⟩⟩, 18446744073709551615⟩) := by decide +kernel
    obtain ⟨-, hexit, -⟩ := breaksDown_iff hread stoppedHost
    exact ⟨_, hexit _ ⟨_, _, [], rfl, .nil _, by decide, Host.overflows_of_le _ (by decide)⟩, rfl⟩

end Agent

end DataStaging
