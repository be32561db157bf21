import DataStaging.Proofs.Process.Announcements
import DataStaging.Transfer.Transfer

/-!
# Going on with a transfer

A transfer has one command, and one that goes on where it was broken off. The first is run up to and
including the first attempt that stays silent for too long, and the second from then on, whatever
else happens. Silences are counted for runs of fewer than `2 ^ 32` attempts.

Results:
* `exists_resumption`: a run goes on with its second command once an attempt has stayed silent.
* `tries_of_transfer`: which command each attempt of a transfer runs, and what its report says.
-/

namespace DataStaging

open Retry

/-! ## A run -/

/-- A run from one host to another, its attempts and its result. Once an attempt has stayed silent,
    it goes on with `arg` behind the arguments of its command. -/
structure Resumption (idle : Duration) (first : Command) (arg : String) (h : Host)
    (tries : List (Tried Host Unit)) (r : Except Halt RunReport) (h' : Host) : Prop where
  /-- The attempts lead from one host to the other. -/
  linked : Linked Host.Waits h tries h'
  /-- They were made. -/
  made : ∀ x ∈ tries, (Run.streamingAttempt (if x.useVariant then first.withArg arg else first)
    idle).run x.before = (x.result, x.after)
  /-- All that was started is what they started. -/
  starts : h'.starts = h.starts ++ tries.flatMap Tried.started
  /-- Each of them starts the command once, as long as none has stayed silent before it, and with
      the argument behind from then on; or it is the last one, and the command cannot be started. -/
  command : ∀ (earlier : List (Tried Host Unit)) x later, tries = earlier ++ x :: later →
    x.started = [⟨first.program,
        first.args ++ if earlier.any Tried.isSilence then [arg] else [],
        Host.overlay h.env first.env⟩] ∨
      x.started = [] ∧ later = [] ∧ ∃ fault, x.result = .error (.fault fault)
  /-- An attempt that is followed by another has ended, and was no success. -/
  again : ∀ (earlier : List (Tried Host Unit)) x later, tries = earlier ++ x :: later →
    later ≠ [] → ∃ o, x.result = .ok o ∧ o.isSuccess = false
  /-- A run has succeeded if its last attempt has, and its report says that the variant was used
      exactly if an attempt has stayed silent, and exactly if the last one had the argument. -/
  ends : ∀ report, r = .ok report → ∃ (earlier : List (Tried Host Unit)) (last : Tried Host Unit),
    tries = earlier ++ [last] ∧ last.result = .ok (.succeeded ()) ∧
      report.timeouts = tries.countP Tried.isSilence ∧
      (report.usedVariant = true ↔ 0 < report.timeouts) ∧
      (report.usedVariant = true ↔
        ∃ start, last.started = [start] ∧ start.args = first.args ++ [arg])

/-- A run that fails before its first attempt. -/
theorem Resumption.nil (idle : Duration) (first : Command) (arg : String) (h : Host) (halt : Halt) :
    Resumption idle first arg h [] (.error halt) h where
  linked := .refl h
  made x hx := absurd hx List.not_mem_nil
  starts := (List.append_nil _).symm
  command earlier x later hsplit := absurd hsplit (by simp)
  again earlier x later hsplit := absurd hsplit (by simp)
  ends report hr := by cases hr

/-- Which of its two commands each attempt of a run starts. -/
theorem exists_resumption (policy : RetryPolicy) (first : Command) (arg : String) (status : Int)
    (h : Host) : ∃ tries r h',
      (Run.streaming policy first (some (first.withArg arg)) status).run h = (r, h') ∧
      Resumption policy.idleTimeout first arg h tries r h' := by
  obtain ⟨r, h', calls, hrun, hcalls⟩ :=
    exists_run_streaming policy first (some (first.withArg arg)) status h
  have hstarts : h'.starts = h.starts ++ (calls.map Told.toTried).flatMap Tried.started := by
    rw [List.flatMap_map]
    exact hcalls.starts
  have hstarted : ∀ x ∈ calls.map Told.toTried,
      x.started = [(if x.useVariant then first.withArg arg else first).startWith h.env] ∨
        x.started = [] ∧ ∃ fault, x.result = .error (.fault fault) :=
    List.forall_mem_map.mpr hcalls.started
  have htries := hcalls.toTries
  generalize calls.map Told.toTried = tries at hstarts hstarted htries
  -- the command of an attempt is told by the silences before it
  have hcommand : ∀ (earlier : List (Tried Host Unit)) x later, tries = earlier ++ x :: later →
      x.started = [⟨first.program,
          first.args ++ if earlier.any Tried.isSilence then [arg] else [],
          Host.overlay h.env first.env⟩] ∨
        x.started = [] ∧ later = [] ∧ ∃ fault, x.result = .error (.fault fault) := by
    intro earlier x later hsplit
    rcases hstarted x (hsplit ▸ List.mem_append_right _ List.mem_cons_self) with
      hstarts | ⟨hnone, fault, hfault⟩
    · left
      rw [hstarts, htries.useVariant_eq hsplit]
      split_ifs
      · rfl
      · rw [List.append_nil]
        rfl
    · refine Or.inr ⟨hnone, ?_, fault, hfault⟩
      by_contra hlater
      obtain ⟨o, ho, -⟩ := htries.again earlier x later hsplit hlater
      rw [hfault] at ho
      cases ho
  refine ⟨tries, _, h', hrun, htries.linked, htries.made, hstarts, hcommand, htries.again, ?_⟩
  intro report hreport
  cases r with
  | error halt => cases hreport
  | ok result =>
    obtain ⟨⟨⟩, report'⟩ := result
    cases hreport
    obtain ⟨earlier, last, hsplit, hlast, htimeouts, hvariant, hused⟩ := htries.exists_last rfl
    refine ⟨earlier, last, hsplit, hlast, htimeouts, hused, ?_⟩
    rcases hcommand earlier last [] hsplit with hstarts | ⟨-, -, fault, hfault⟩
    · rw [hvariant, hstarts, htries.useVariant_eq hsplit]
      cases earlier.any Tried.isSilence <;> simp
    · rw [hfault] at hlast
      cases hlast

/-! ## Transfers -/

namespace Courier

variable (courier : Courier) (direction : Direction) (uri path : String) (pattern : Option String)

/-- A transfer in either direction. -/
def transfer : Act Host RunReport :=
  match direction with
  | .download => courier.download uri path pattern
  | .upload => courier.upload path uri pattern

/-- Makes a folder, if there is one to make. -/
def makeFolder : Option String → Act Host Unit
  | some folder => Host.ensureDirectory folder
  | none => pure ()

/-- What a transfer does before its first attempt. -/
def prepare : Act Host Unit := do
  makeFolder (match direction with | .download => some path | .upload => none)
  let _ ← Host.orFail (Locator.parse uri)
  makeFolder courier.mover.benchmarkFolder

/-- The command of a transfer that begins on this host. -/
def firstCommand (h : Host) : Command :=
  courier.command direction uri path (courier.mover.artifactPath? direction h.now) pattern

theorem starts_makeFolder {env : List (String × String)} {P : Start → Prop}
    (folder : Option String) : Starts env P (makeFolder folder) := by
  cases folder with
  | none => exact .pure ()
  | some folder => exact starts_ensureDirectory folder

theorem starts_prepare {env : List (String × String)} {P : Start → Prop} :
    Starts env P (courier.prepare direction uri path) :=
  (starts_makeFolder _).bind fun _ => (starts_orFail _).bind fun _ => starts_makeFolder _

theorem run_move (h : Host) : (courier.move direction uri path pattern).run h =
    (do let _ ← Host.orFail (Locator.parse uri)
        makeFolder courier.mover.benchmarkFolder
        Run.streaming courier.policy (courier.firstCommand direction uri path pattern h)
          (some ((courier.firstCommand direction uri path pattern h).withArg "--resume"))
          direction.failureStatus).run h := by
  unfold move
  cases Locator.parse uri with
  | error fault =>
    have hfails : (Host.orFail (.error fault) : Act Host Locator).run h =
      (.error (.fault fault), h) := rfl
    rw [run_bind_of_error hfails, run_bind_of_error hfails]
  | ok locator =>
    have hparses : (Host.orFail (.ok locator)).run h = (.ok locator, h) := rfl
    rw [run_bind_of_ok hparses, run_bind_of_ok hparses, run_get_bind]
    cases courier.mover.benchmarkFolder with
    | none =>
      have hnone : (makeFolder none).run h = (.ok (), h) := rfl
      rw [run_bind_of_ok hnone]
      rfl
    | some folder => rfl

/-- A transfer prepares and then runs its command, with the other one as its variant. -/
theorem run_transfer (h : Host) : (courier.transfer direction uri path pattern).run h =
    (do courier.prepare direction uri path
        Run.streaming courier.policy (courier.firstCommand direction uri path pattern h)
          (some ((courier.firstCommand direction uri path pattern h).withArg "--resume"))
          direction.failureStatus).run h := by
  simp only [prepare, bind_assoc]
  cases direction with
  | upload => exact courier.run_move .upload uri path pattern h
  | download =>
    obtain ⟨r, tree, hmade⟩ := Host.exists_run_ensureDirectory path h
    unfold transfer download
    cases r with
    | error halt => exact (run_bind_of_error hmade _).trans (run_bind_of_error hmade _).symm
    | ok made =>
      refine (run_bind_of_ok hmade _).trans (Eq.trans ?_ (run_bind_of_ok hmade _).symm)
      exact courier.run_move .download uri path pattern { h with tree := tree }

/-- The place of an artifact is among the arguments. -/
theorem infix_args_command {folder : String}
    (hfolder : courier.mover.benchmarkFolder = some folder) (millis : Int) :
    ["--benchmark-out", Path.join folder (Artifact.name direction.name millis)] <:+:
      (courier.command direction uri path (courier.mover.artifactPath? direction millis)
        pattern).args := by
  rw [Mover.artifactPath?, hfolder]
  exact (List.infix_append _ _ _).trans (List.suffix_append courier.mover.command.args _).isInfix

/-- Which command each attempt of a transfer runs. Before its first attempt a transfer starts
    nothing. Then, up to and including the first silence, all attempts run the same command with the
    same place for its artifact, and from then on that command with `--resume` behind its arguments.
    Its report says that the variant was used exactly if some attempt stayed silent, which is if the
    attempt that has succeeded was run with `--resume`. -/
theorem tries_of_transfer (h : Host) :
    ∃ first tries r h' h₁, (courier.transfer direction uri path pattern).run h = (r, h') ∧
      first = courier.command direction uri path
        (courier.mover.artifactPath? direction h.now) pattern ∧
      (∀ folder, courier.mover.benchmarkFolder = some folder →
        ["--benchmark-out", Path.join folder (Artifact.name direction.name h.now)] <:+:
          first.args) ∧
      h₁ = ((courier.prepare direction uri path).run h).2 ∧
      h₁.starts = h.starts ∧ h₁.env = h.env ∧
      Resumption courier.policy.idleTimeout first "--resume" h₁ tries r h' := by
  have hgrows : h.Grows (fun _ => False) ((courier.prepare direction uri path).run h).2 :=
    courier.starts_prepare direction uri path h rfl
  have hrun := courier.run_transfer direction uri path pattern h
  rcases hprepare : (courier.prepare direction uri path).run h with ⟨made, h₁⟩
  rw [hprepare] at hgrows
  have hplace := fun folder (hfolder : courier.mover.benchmarkFolder = some folder) =>
    courier.infix_args_command direction uri path pattern hfolder h.now
  cases made with
  | error halt =>
    rw [run_bind_of_error hprepare] at hrun
    exact ⟨_, [], _, _, h₁, hrun, rfl, hplace, rfl, hgrows.starts_eq, hgrows.env, .nil _ _ _ _ _⟩
  | ok made =>
    rw [run_bind_of_ok hprepare] at hrun
    obtain ⟨tries, r, h', hstreaming, htries⟩ := exists_resumption courier.policy
      (courier.firstCommand direction uri path pattern h) "--resume" direction.failureStatus h₁
    exact ⟨_, tries, r, h', h₁, hrun.trans hstreaming, rfl, hplace, rfl, hgrows.starts_eq,
      hgrows.env, htries⟩

/-! ## A transfer that is disturbed -/

/-- A failure, a silence, a rate limit, and success. -/
def disturbed : Nat → Attempt Unit
  | 0 => .exited (some 1)
  | 1 => .timedOut
  | 2 => .exited (some ExitStatus.rateLimited)
  | _ => .succeeded ()

/-- A host whose programs perform these. -/
def disturbedHost : Host := { stage disturbed with patience := 4 }

/-- An upload there, that leaves its artifact in `b`. -/
def disturbedUpload : Act Host RunReport :=
  transfer ⟨⟨.ofProgram "osmo", 2, some "b"⟩, .standard⟩ .upload "s3://b/x" "out" none

/-- The first two attempts run one command, and the others the same with `--resume`. -/
theorem tries_of_disturbed :
    ∃ (first : Command) (tries : List (Tried Host Unit)) (h' : Host),
      disturbedUpload.run disturbedHost = (.ok ⟨2, 1, 0, 1, true⟩, h') ∧
      first.args = ["data", "upload", "s3://b/x", "out", "--processes", "2", "--benchmark-out",
        "b/upload_0_benchmark.json"] ∧
      h'.starts.map Start.args = [first.args, first.args, first.args ++ ["--resume"],
        first.args ++ ["--resume"]] ∧
      h'.starts = tries.flatMap Tried.started ∧ tries.countP Tried.isSilence = 1 ∧
      ∃ (earlier : List (Tried Host Unit)) (last : Tried Host Unit), tries = earlier ++ [last] ∧
        ∃ start, last.started = [start] ∧ start.args = first.args ++ ["--resume"] := by
  let courier : Courier := ⟨⟨.ofProgram "osmo", 2, some "b"⟩, .standard⟩
  let command := courier.firstCommand .upload "s3://b/x" "out" none disturbedHost
  let h₁ : Host := { disturbedHost with tree := ⟨[([Utf8.encode "b"], .directory)]⟩ }
  have hprepare : (courier.prepare .upload "s3://b/x" "out").run disturbedHost = (.ok (), h₁) := by
    have hnone : (makeFolder none).run disturbedHost = (.ok (), disturbedHost) := rfl
    have hparse : Locator.parse "s3://b/x" = .ok ⟨"s3://b/x", .s3 "b", "x"⟩ := by decide +kernel
    have hmade : disturbedHost.tree.ensureDirectory disturbedHost.folder "b" =
      (.ok (), h₁.tree) := by decide +kernel
    unfold prepare
    refine (run_bind_of_ok hnone _).trans ?_
    rw [hparse]
    exact Host.run_ensureDirectory hmade
  have hstreaming : disturbedUpload.run disturbedHost = (Run.streaming .standard command
      (some (command.withArg "--resume")) Direction.upload.failureStatus).run h₁ :=
    (courier.run_transfer .upload "s3://b/x" "out" none disturbedHost).trans
      (run_bind_of_ok hprepare _)
  obtain ⟨first, tries, r, h', h₂, hrun, rfl, -, -, hnothing, -, htries⟩ :=
    courier.tries_of_transfer .upload "s3://b/x" "out" none disturbedHost
  obtain ⟨hr, hh'⟩ := Prod.ext_iff.mp (hrun.symm.trans hstreaming)
  simp only at hr hh'
  have hargs : h'.starts.map Start.args = [command.args, command.args,
      command.args ++ ["--resume"], command.args ++ ["--resume"]] := by
    rw [hh']
    decide +kernel
  obtain rfl : r = .ok ⟨2, 1, 0, 1, true⟩ := by
    rw [hr]
    decide +kernel
  have hstarts : h'.starts = tries.flatMap Tried.started := by
    rw [htries.starts, hnothing]
    rfl
  obtain ⟨earlier, last, hsplit, -, htimeouts, -, hused⟩ := htries.ends _ rfl
  exact ⟨_, tries, h', hrun, by decide +kernel, hargs, hstarts, htimeouts.symm, earlier, last,
    hsplit, hused.mp rfl⟩

end Courier

end DataStaging
