import DataStaging.Proofs.Mount.Rounds

/-!
# Leftovers

What a mount looks at is the folder, not what the client said: whatever lies there when an attempt
did not time out counts as mounted, also if the client failed or could not be started. Where failing
attempts leave the folder alone, this happens exactly if something lay there before.

Results:
* `leftovers_of_rounds`, `before_of_leftovers`: what lies in the folder is handed on from round to
  round.
* `failed_iff_of_rounds`: when the last round failed and left something in the folder.
* `run_call_of_missing`, `answers_hostWorld`: on a host, a command that cannot be started changes
  nothing, and programs that end answer.
* `reported_without_client_iff`: when a mount is reported though the client did not work.
-/

namespace DataStaging.Mounting

open Utf8 (encode)

variable {σ : Type} {w : World σ} {localPath : String} {command unmount : Command} {s : σ}

/-- An attempt that does not work leaves the folder as it was, and unmounting puts nothing into an
    empty one. -/
structure World.Tidy (w : World σ) (localPath : String) (x : Round σ) : Prop where
  attempt : ¬x.attempt.Works →
    w.isEmpty localPath x.attempt.after = w.isEmpty localPath x.attempt.before
  unmounting : ∀ c ∈ x.unmounting, w.isEmpty localPath c.before = true →
    w.isEmpty localPath c.after = true

/-! ## From round to round -/

/-- The state that a round leaves. -/
def Round.after (x : Round σ) : σ := (x.unmounting.getD x.attempt).after

theorem World.Linked.of_round {x : Round σ} {calls : List (Called σ)}
    (h : w.Linked localPath s (x.calls ++ calls)) :
    w.isEmpty localPath x.attempt.before = w.isEmpty localPath s ∧
      (∀ c ∈ x.unmounting,
        w.isEmpty localPath c.before = w.isEmpty localPath x.attempt.after) ∧
      w.Linked localPath x.after calls := by
  obtain ⟨attempt, unmounting⟩ := x
  cases unmounting with
  | none => exact ⟨h.1, by rintro c ⟨⟩, h.2⟩
  | some call =>
    refine ⟨h.1, ?_, h.2.2⟩
    rintro c ⟨⟩
    exact h.2.1

/-- A round after which the folder holds something, though it did not end the run, was one in which
    the client timed out and left alone what lay there before. -/
theorem timesOut_of_round {x : Round σ} {calls : List (Called σ)}
    (hlinked : w.Linked localPath s (x.calls ++ calls)) (hplan : w.Plan localPath command unmount x)
    (htidy : w.Tidy localPath x) (hx : ¬w.Populated localPath x.attempt)
    (hafter : w.isEmpty localPath x.after = false) :
    x.attempt.TimesOut ∧ w.isEmpty localPath s = false := by
  obtain ⟨hbefore, hunmount, -⟩ := hlinked.of_round
  obtain ⟨attempt, unmounting⟩ := x
  cases unmounting with
  | none =>
    have hout : attempt.TimesOut := (hplan.spared.mp rfl).resolve_right hx
    refine ⟨hout, ?_⟩
    rw [← hbefore, ← htidy.attempt (Called.not_works_of_timesOut hout)]
    exact hafter
  | some call =>
    -- unmounting follows only where the folder is empty, and leaves it empty
    have hspared : ¬(attempt.TimesOut ∨ w.Populated localPath attempt) := by
      intro h
      cases hplan.spared.mpr h
    have hempty : w.isEmpty localPath attempt.after = true := by
      by_contra hnot
      exact hspared (Or.inr ⟨fun hout => hspared (Or.inl hout), by simpa using hnot⟩)
    have hcall := htidy.unmounting call rfl ((hunmount call rfl).trans hempty)
    rw [show w.isEmpty localPath call.after = false from hafter] at hcall
    cases hcall

/-- Something lies in the folder before a round: then it lay there at the beginning, and in all
    rounds before the client timed out. -/
theorem leftovers_of_rounds {earlier : List (Round σ)} {x : Round σ} {calls : List (Called σ)}
    (hlinked : w.Linked localPath s (earlier.flatMap Round.calls ++ (x.calls ++ calls)))
    (hplan : ∀ y ∈ earlier, w.Plan localPath command unmount y)
    (htidy : ∀ y ∈ earlier, w.Tidy localPath y)
    (hearlier : ∀ y ∈ earlier, ¬w.Populated localPath y.attempt)
    (hx : w.isEmpty localPath x.attempt.before = false) :
    (∀ y ∈ earlier, y.attempt.TimesOut) ∧ w.isEmpty localPath s = false := by
  induction earlier generalizing s with
  | nil => exact ⟨fun y hy => absurd hy List.not_mem_nil, hlinked.of_round.1.symm.trans hx⟩
  | cons y earlier ih =>
    obtain ⟨hplan₁, hplan⟩ := List.forall_mem_cons.mp hplan
    obtain ⟨htidy₁, htidy⟩ := List.forall_mem_cons.mp htidy
    obtain ⟨hy, hearlier⟩ := List.forall_mem_cons.mp hearlier
    rw [List.flatMap_cons, List.append_assoc] at hlinked
    obtain ⟨hrest, hafter⟩ := ih hlinked.of_round.2.2 hplan htidy hearlier
    obtain ⟨hout, hs⟩ := timesOut_of_round hlinked hplan₁ htidy₁ hy hafter
    exact ⟨List.forall_mem_cons.mpr ⟨hout, hrest⟩, hs⟩

/-- What lies in the folder stays there as long as the client times out. -/
theorem before_of_leftovers {earlier : List (Round σ)} {x : Round σ} {calls : List (Called σ)}
    (hlinked : w.Linked localPath s (earlier.flatMap Round.calls ++ (x.calls ++ calls)))
    (hplan : ∀ y ∈ earlier, w.Plan localPath command unmount y)
    (htidy : ∀ y ∈ earlier, w.Tidy localPath y) (hout : ∀ y ∈ earlier, y.attempt.TimesOut)
    (hs : w.isEmpty localPath s = false) : w.isEmpty localPath x.attempt.before = false := by
  induction earlier generalizing s with
  | nil => exact hlinked.of_round.1.trans hs
  | cons y earlier ih =>
    obtain ⟨hplan₁, hplan⟩ := List.forall_mem_cons.mp hplan
    obtain ⟨htidy₁, htidy⟩ := List.forall_mem_cons.mp htidy
    obtain ⟨hout₁, hout⟩ := List.forall_mem_cons.mp hout
    rw [List.flatMap_cons, List.append_assoc] at hlinked
    obtain ⟨hbefore, -, hrest⟩ := hlinked.of_round
    refine ih hrest hplan htidy hout ?_
    have hnone := hplan₁.spared.mpr (Or.inl hout₁)
    rw [Round.after, hnone, Option.getD_none, htidy₁.attempt (Called.not_works_of_timesOut hout₁),
      hbefore]
    exact hs

/-! ## What is reported -/

section

variable {n : Nat} {rounds : List (Round σ)} {r : Bool}

/-- The folder is reported not empty if the last round left something in it. -/
theorem eq_false_iff_of_decided (hdecided : w.Decided localPath n rounds r) : r = false ↔
    ∃ earlier last, rounds = earlier ++ [last] ∧ w.Populated localPath last.attempt := by
  cases r with
  | false =>
    obtain ⟨-, earlier, last, hrounds, hlast, -⟩ := hdecided
    exact ⟨fun _ => ⟨earlier, last, hrounds, hlast⟩, fun _ => rfl⟩
  | true =>
    refine ⟨by rintro ⟨⟩, ?_⟩
    rintro ⟨earlier, last, rfl, hlast⟩
    exact absurd hlast (hdecided.2 last (List.mem_append_right _ List.mem_cons_self))

/-- The round that left something in the folder is the last one. -/
theorem eq_nil_of_populated {earlier later : List (Round σ)} {x : Round σ}
    (hdecided : w.Decided localPath n (earlier ++ x :: later) r)
    (hx : w.Populated localPath x.attempt) : r = false ∧ later = [] := by
  cases r with
  | true => exact absurd hx (hdecided.2 x (List.mem_append_right _ List.mem_cons_self))
  | false =>
    obtain ⟨-, before, last, hrounds, -, hbefore⟩ := hdecided
    refine ⟨rfl, ?_⟩
    rcases List.eq_nil_or_concat later with rfl | ⟨rest, y, rfl⟩
    · rfl
    · rw [List.concat_eq_append, ← List.cons_append, ← List.append_assoc] at hrounds
      obtain ⟨rfl, -⟩ := List.append_inj' hrounds rfl
      exact absurd hx (hbefore x (List.mem_append_right _ List.mem_cons_self))

/-- Where failing attempts leave the folder alone, the folder is reported not empty after one that
    failed exactly if something lay there at the beginning and the first attempt that did not time
    out failed. -/
theorem failed_iff_of_rounds (hlinked : w.Linked localPath s (rounds.flatMap Round.calls))
    (hplan : ∀ x ∈ rounds, w.Plan localPath command unmount x)
    (hdecided : w.Decided localPath n rounds r) (htidy : ∀ x ∈ rounds, w.Tidy localPath x) :
    (r = false ∧ ∃ earlier last, rounds = earlier ++ [last] ∧ ¬last.attempt.Works) ↔
      w.isEmpty localPath s = false ∧ ∃ earlier x later, rounds = earlier ++ x :: later ∧
        (∀ y ∈ earlier, y.attempt.TimesOut) ∧ ¬x.attempt.TimesOut ∧ ¬x.attempt.Works := by
  constructor
  · rintro ⟨rfl, earlier, last, rfl, hfailed⟩
    obtain ⟨-, earlier', last', hrounds, hlast, hearlier⟩ := hdecided
    obtain ⟨rfl, hlasts⟩ := List.append_inj' hrounds rfl
    obtain rfl := List.singleton_inj.mp hlasts
    obtain ⟨hplan, -⟩ := List.forall_mem_append.mp hplan
    obtain ⟨htidy, htidyLast⟩ := List.forall_mem_append.mp htidy
    have hbefore : w.isEmpty localPath last.attempt.before = false :=
      ((List.forall_mem_singleton.mp htidyLast).attempt hfailed).symm.trans hlast.2
    rw [List.flatMap_append, List.flatMap_singleton] at hlinked
    rw [← List.append_nil last.calls] at hlinked
    obtain ⟨hout, hs⟩ := leftovers_of_rounds hlinked hplan htidy hearlier hbefore
    exact ⟨hs, earlier, last, [], rfl, hout, hlast.1, hfailed⟩
  · rintro ⟨hs, earlier, x, later, rfl, hout, hx, hfailed⟩
    obtain ⟨hplan, -⟩ := List.forall_mem_append.mp hplan
    obtain ⟨htidy, htidyLater⟩ := List.forall_mem_append.mp htidy
    rw [List.flatMap_append, List.flatMap_cons] at hlinked
    have hbefore := before_of_leftovers hlinked hplan htidy hout hs
    have hafter := (htidyLater x List.mem_cons_self).attempt hfailed
    obtain ⟨hr, rfl⟩ := eq_nil_of_populated hdecided ⟨hx, hafter.trans hbefore⟩
    exact ⟨hr, earlier, x, rfl, hfailed⟩

end

/-! ## On a host -/

/-- A command that cannot be started is answered with a fault, and nothing changes. -/
theorem run_call_of_missing {h : Host} (hmissing : command.Missing h.programs) :
    ∃ fault, (call command).run h = (.ok (.error fault), h) := by
  obtain ⟨fault, hbegin⟩ := Host.run_begin_of_missing hmissing
  have honce : (Run.once command).run h = (.error (.fault (.io fault)), h) :=
    run_bind_of_error (hbegin h rfl) _
  exact ⟨.io fault, run_tryCatch_of_error (run_bind_of_error honce _) _⟩

/-- Commands that are missing or whose programs end are answered. -/
theorem answers_hostWorld (programs : String → Option Program) {commands : List Command}
    (hends : ∀ c ∈ commands, c.Missing programs ∨ ∃ program, programs c.program = some program ∧
      ∀ o, (program o).total?.isSome) :
    hostWorld.Answers commands fun h => h.programs = programs ∧ h.dropsOnStop = false where
  notify _ _ hready := hready
  call c hc h := by
    rintro ⟨hprograms, hdrops⟩
    by_cases hmissing : c.Missing programs
    · obtain ⟨fault, hcall⟩ := run_call_of_missing (hprograms ▸ hmissing)
      exact ⟨_, h, hcall, hprograms, hdrops⟩
    · obtain ⟨program, hprogram, htotal⟩ := (hends c hc).resolve_left hmissing
      obtain ⟨hnul, -⟩ := not_or.mp hmissing
      obtain ⟨total, htotal⟩ := Option.isSome_iff_exists.mp (htotal (h.occasion c))
      exact ⟨_, _, run_call (by simpa using hnul)
        ((congrFun hprograms c.program).trans hprogram) htotal hdrops, hprograms, hdrops⟩

/-! ## Mounting -/

/-- A mount is reported not empty if the last call of its client did not time out and the folder
    held something after it, whether the client worked or not. Where failing calls leave the folder
    as it was, and unmounting puts nothing into an empty one, a mount is reported though the client
    did not work exactly if the folder held something before it was called, and the first call that
    did not time out did not work. On a host, a client that cannot be started does leave it as it
    was. -/
theorem reported_without_client_iff (client : MountClient) (credentials : Credentials)
    (locator : Locator) (localPath : String) (cache : MountCache) :
    mount client credentials locator localPath cache =
        mountIn hostWorld client credentials locator localPath cache ∧
    (∀ (h : Host) command, command.Missing h.programs →
      ∃ fault, (hostWorld.call command).run h = (.ok (.error fault), h)) ∧
    ∀ (σ : Type) (w : World σ) (s s₁ : σ) credential command unmount (ready : σ → Prop),
      credentials.lookup locator.bucket.profile = some credential →
      command = mountCommand client credential locator localPath cache →
      unmount = client.unmountOf localPath →
      (prepareIn w localPath cache).run s = (.ok (), s₁) → ready s₁ →
      w.Answers [command, unmount] ready →
      ∃ (rounds : List (Round σ)) (r : Bool) (s' : σ),
        (mountIn w client credentials locator localPath cache).run s = (.ok r, s') ∧
        (mountIn w.recorded client credentials locator localPath cache).run (s, []) =
          (.ok r, (s', rounds.flatMap Round.calls)) ∧
        (∀ c ∈ rounds.flatMap Round.calls, w.Made c) ∧
        (∀ x ∈ rounds, w.Plan localPath command unmount x) ∧
        (r = false ↔ ∃ (earlier : List (Round σ)) (last : Round σ), rounds = earlier ++ [last] ∧
          w.Populated localPath last.attempt) ∧
        ((∀ x ∈ rounds, w.Tidy localPath x) →
          ((r = false ∧ ∃ (earlier : List (Round σ)) (last : Round σ),
              rounds = earlier ++ [last] ∧ ¬last.attempt.Works) ↔
            w.isEmpty localPath s₁ = false ∧ ∃ (earlier : List (Round σ)) (x : Round σ)
              (later : List (Round σ)), rounds = earlier ++ x :: later ∧
              (∀ y ∈ earlier, y.attempt.TimesOut) ∧ ¬x.attempt.TimesOut ∧ ¬x.attempt.Works)) := by
  refine ⟨mount_eq_mountIn client credentials locator localPath cache,
    fun h command => run_call_of_missing, ?_⟩
  rintro σ w s s₁ credential command unmount ready hcredential rfl rfl hprepare hready hanswers
  obtain ⟨rounds, r, s', hrounds⟩ : ∃ rounds r s', Rounds w client locator localPath
      (mountCommand client credential locator localPath cache) client.attempts s₁ rounds r s' :=
    exists_rounds hanswers hready client.attempts
  refine ⟨rounds, r, s', ?_, ?_, hrounds.made, hrounds.plan,
    eq_false_iff_of_decided hrounds.decided,
    failed_iff_of_rounds hrounds.linked hrounds.plan hrounds.decided⟩
  · rw [run_mountIn hcredential hprepare]
    exact hrounds.run
  · rw [run_mountIn hcredential (run_prepareIn_recorded hprepare)]
    exact hrounds.recorded []

/-! ## A folder that was not empty -/

/-- A host with a file in `mnt`, and no programs. -/
def littered : Host :=
  { clientHost with
    tree := ⟨[([encode "mnt"], .directory), ([encode "mnt", encode "old"], .file [])]⟩
    programs := fun _ => none }

/-- Mounts a bucket on this folder. -/
def litteredMount {σ : Type} (w : World σ) : Act σ Bool :=
  mountIn w .standard (.ring ⟨[("s3://b", ⟨"k", "s"⟩)]⟩) ⟨"s3://b/x", .s3 "b", "x"⟩ "mnt" .none

/-- Nothing can be started there, and yet a mount is reported, since the file was there before. -/
theorem reported_without_programs : ∃ (rounds : List (Round Host)) (h' : Host),
    (litteredMount hostWorld).run littered = (.ok false, h') ∧ h'.starts = [] ∧
    (litteredMount hostWorld.recorded).run (littered, []) =
      (.ok false, h', rounds.flatMap Round.calls) ∧
    (∃ (earlier : List (Round Host)) (last : Round Host),
      rounds = earlier ++ [last] ∧ ¬last.attempt.Works) ∧
    hostWorld.isEmpty "mnt" littered = false := by
  let command := mountCommand .standard ⟨"k", "s"⟩ ⟨"s3://b/x", .s3 "b", "x"⟩ "mnt" .none
  have hmissing : ∀ c : Command, c.Missing littered.programs := fun c => Or.inr rfl
  have hmade : (Host.ensureDirectory "mnt").run littered = (.ok (), littered) :=
    Host.run_ensureDirectory (by decide +kernel)
  have hprepare : (prepareIn hostWorld "mnt" .none).run littered = (.ok (), littered) :=
    run_bind_of_ok hmade _
  have hcredential : (Credentials.ring ⟨[("s3://b", ⟨"k", "s"⟩)]⟩).lookup
    (Bucket.s3 "b").profile = some ⟨"k", "s"⟩ := by decide
  obtain ⟨rounds, r, s', hrun, hrecorded, -, -, hfalse, hleft⟩ :=
    (reported_without_client_iff .standard (.ring ⟨[("s3://b", ⟨"k", "s"⟩)]⟩)
      ⟨"s3://b/x", .s3 "b", "x"⟩ "mnt" .none).2.2 Host hostWorld littered littered ⟨"k", "s"⟩
      command _ _ hcredential rfl rfl hprepare ⟨rfl, rfl⟩
      (answers_hostWorld (fun _ => none) fun c _ => Or.inl (hmissing c))
  -- the only call of the client leaves the file where it was
  obtain ⟨fault, hcall⟩ := run_call_of_missing (hmissing command)
  have hempty : hostWorld.isEmpty "mnt" littered = false := by decide +kernel
  have hattempts : (litteredMount hostWorld.recorded).run (littered, []) =
      (.ok false, _, [⟨command, littered, .error fault, littered⟩]) :=
    (run_mountIn hcredential (run_prepareIn_recorded hprepare)).trans
      (run_attemptsIn_populated (run_call_recorded hcall) (by simp [saidBy]) hempty)
  have hsame : (Except.ok r, s', rounds.flatMap Round.calls) =
      (Except.ok false, _, [⟨command, littered, .error fault, littered⟩]) :=
    hrecorded.symm.trans hattempts
  simp only [Prod.mk.injEq, Except.ok.injEq] at hsame
  obtain ⟨rfl, rfl, hcalls⟩ := hsame
  have honly : ∀ x ∈ rounds, ∀ c ∈ x.calls, c = ⟨command, littered, .error fault, littered⟩ :=
    fun x hx c hc => List.mem_singleton.mp (hcalls ▸ List.mem_flatMap.mpr ⟨x, hx, hc⟩)
  have htidy : ∀ x ∈ rounds, hostWorld.Tidy "mnt" x := by
    refine fun x hx => ⟨fun _ => by rw [honly x hx _ List.mem_cons_self], fun c hc hbefore => ?_⟩
    obtain rfl := honly x hx c (List.mem_cons_of_mem _ (Option.mem_toList.mpr hc))
    exact hbefore
  have hfailed : ∀ x ∈ rounds, ¬x.attempt.Works := by
    intro x hx
    rw [honly x hx _ List.mem_cons_self]
    rintro ⟨o, ⟨⟩, -⟩
  obtain ⟨earlier, last, hrounds, -⟩ := hfalse.mp rfl
  have hlast := hfailed last (hrounds ▸ List.mem_append_right _ List.mem_cons_self)
  exact ⟨rounds, _, hrun, rfl, hrecorded, ⟨earlier, last, hrounds, hlast⟩,
    ((hleft htidy).mp ⟨rfl, earlier, last, hrounds, hlast⟩).1⟩

end DataStaging.Mounting
