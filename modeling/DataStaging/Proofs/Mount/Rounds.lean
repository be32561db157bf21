import DataStaging.Proofs.Mount.World

/-!
# The calls of a mount

A mount calls its client, and between the calls the program that unmounts. Written down as they are
made, its calls come in rounds: each begins with a call of the client, and ends with unmounting
unless the client timed out or the folder holds something by then.

Results:
* `saidBy_eq_timedOut_iff`: when an answer counts as a timeout.
* `exists_rounds`: the rounds of the attempts that are left.
* `calls_of_mount`: which calls a mount makes, in which order, and what it comes to.
-/

namespace DataStaging.Mounting

variable {σ : Type}

/-! ## What was said -/

/-- The text holds this part. -/
def Says (text part : String) : Prop := part.toList <:+: text.toList

/-- The text holds this word, its letters large or small. -/
def SaysInAnyCase (text word : String) : Prop :=
  ∃ part, part <:+: text.toList ∧ part.map Char.toLower = word.toList

theorem occursIn_iff {part text : List Char} :
    Notices.occursIn part text = true ↔ part <:+: text := by
  induction text with
  | nil => simp [Notices.occursIn]
  | cons c rest ih =>
    rw [Notices.occursIn, Bool.or_eq_true, ih, List.isPrefixOf_iff_prefix, List.infix_cons_iff]

theorem contains_iff_says {text part : String} :
    Notices.contains text part = true ↔ Says text part :=
  occursIn_iff

theorem contains_lower_iff {text word : String} :
    Notices.contains (lower text) word = true ↔ SaysInAnyCase text word := by
  rw [Notices.contains, occursIn_iff, lower, String.toList_ofList, SaysInAnyCase]
  constructor
  · rintro ⟨before, after, h⟩
    obtain ⟨front, after', htext, hfront, rfl⟩ := List.map_eq_append_iff.mp h.symm
    obtain ⟨before', part, rfl, rfl, hpart⟩ := List.map_eq_append_iff.mp hfront
    exact ⟨part, ⟨before', after', htext.symm⟩, hpart⟩
  · rintro ⟨part, hpart, hword⟩
    rw [← hword]
    exact hpart.map _

/-! ## Calls -/

/-- A call of a command: the state before it, its answer, and the state that it left. -/
structure Called (σ : Type) where
  command : Command
  before : σ
  answer : Except Fault Output
  after : σ

namespace Called

variable (c : Called σ)

/-- The command ended with status 0, or said that there is a mount already. -/
def Works : Prop :=
  ∃ o, c.answer = .ok o ∧ (o.status = 0 ∨ Says (o.errors ++ o.out) "already mounted")

/-- The command failed, said nothing of a mount that is there already, and spoke of a timeout. -/
def TimesOut : Prop :=
  ∃ o, c.answer = .ok o ∧ o.status ≠ 0 ∧ ¬Says (o.errors ++ o.out) "already mounted" ∧
    SaysInAnyCase (o.errors ++ o.out) "timeout"

theorem not_works_of_timesOut {c : Called σ} (h : c.TimesOut) : ¬c.Works := by
  obtain ⟨o, ho, hstatus, hmounted, -⟩ := h
  rintro ⟨o', ho', hworks⟩
  obtain rfl := Except.ok.inj (ho.symm.trans ho')
  exact hworks.elim hstatus hmounted

end Called

theorem saidBy_eq_timedOut_iff (c : Called σ) : saidBy c.answer = .timedOut ↔ c.TimesOut := by
  unfold Called.TimesOut
  cases c.answer with
  | error fault => simp [saidBy]
  | ok o =>
    simp only [saidBy, verdict, Output.succeeded, Except.ok.injEq, exists_eq_left',
      ← contains_lower_iff, ← contains_iff_says, decide_eq_true_eq]
    split_ifs <;> simp_all

theorem saidBy_ne_timedOut {c : Called σ} (h : ¬c.TimesOut) : saidBy c.answer ≠ .timedOut :=
  mt (saidBy_eq_timedOut_iff c).mp h

/-- The world with every call written down that was answered. -/
def World.recorded (w : World σ) : World (σ × List (Called σ)) where
  call c := ExceptT.mk fun p => match (w.call c).run p.1 with
    | (.ok answer, s) => (.ok answer, s, p.2 ++ [⟨c, p.1, answer, s⟩])
    | (.error halt, s) => (.error halt, s, p.2)
  ensureDirectory path := ExceptT.mk fun p =>
    (((w.ensureDirectory path).run p.1).1, ((w.ensureDirectory path).run p.1).2, p.2)
  isEmpty path p := w.isEmpty path p.1
  notify lines p := (w.notify lines p.1, p.2)
  isEmpty_notify path lines p := w.isEmpty_notify path lines p.1

section

variable {w : World σ} {s s' : σ} {past : List (Called σ)}

theorem run_call_recorded {c : Command} {answer : Except Fault Output}
    (hcall : (w.call c).run s = (.ok answer, s')) :
    (w.recorded.call c).run (s, past) = (.ok answer, (s', past ++ [⟨c, s, answer, s'⟩])) := by
  unfold World.recorded
  rw [ExceptT.run_mk, hcall]

theorem run_prepareIn_recorded {localPath : String} {cache : MountCache}
    (hprepare : (prepareIn w localPath cache).run s = (.ok (), s')) :
    (prepareIn w.recorded localPath cache).run (s, past) = (.ok (), (s', past)) := by
  have hmake : ∀ {path : String} {s s' : σ}, (w.ensureDirectory path).run s = (.ok (), s') →
      (w.recorded.ensureDirectory path).run (s, past) = (.ok (), (s', past)) := by
    intro path s s' hmade
    change (((w.ensureDirectory path).run s).1, ((w.ensureDirectory path).run s).2, past) = _
    rw [hmade]
  unfold prepareIn at hprepare ⊢
  obtain ⟨⟨⟩, s₁, hlocal, hcache⟩ := exists_of_run_bind_ok hprepare
  rw [run_bind_of_ok (hmake hlocal)]
  cases henabled : cache.enabled? with
  | none =>
    rw [henabled] at hcache
    obtain ⟨-, rfl⟩ := eq_of_run_pure hcache
    rfl
  | some enabled =>
    rw [henabled] at hcache
    exact hmake hcache

end

/-! ## Rounds -/

/-- A call of the client, and one that unmounts, if it was made before the next round. -/
structure Round (σ : Type) where
  attempt : Called σ
  unmounting : Option (Called σ)

def Round.calls (r : Round σ) : List (Called σ) := r.attempt :: r.unmounting.toList

namespace World

variable (w : World σ) (localPath : String)

/-- The call was answered so. -/
def Made (c : Called σ) : Prop := (w.call c.command).run c.before = (.ok c.answer, c.after)

/-- The client did not time out, and the folder holds something after it. -/
def Populated (c : Called σ) : Prop := ¬c.TimesOut ∧ w.isEmpty localPath c.after = false

/-- The client is called in each round. Unmounting follows unless the client timed out or the folder
    holds something. -/
structure Plan (command unmount : Command) (r : Round σ) : Prop where
  attempt : r.attempt.command = command
  unmounting : ∀ c ∈ r.unmounting, c.command = unmount
  spared : r.unmounting = none ↔ r.attempt.TimesOut ∨ w.Populated localPath r.attempt

/-- What rounds come to, of which there may be `n`: the folder is reported empty after `n` of them
    that left nothing in it or timed out, and not empty at the first that did not. -/
def Decided (n : Nat) (rounds : List (Round σ)) : Bool → Prop
  | true => rounds.length = n ∧ ∀ r ∈ rounds, ¬w.Populated localPath r.attempt
  | false => rounds.length ≤ n ∧ ∃ earlier last, rounds = earlier ++ [last] ∧
      w.Populated localPath last.attempt ∧ ∀ r ∈ earlier, ¬w.Populated localPath r.attempt

/-- From call to call, and up to the first one, the folder is left alone. -/
def Linked : σ → List (Called σ) → Prop
  | _, [] => True
  | s, c :: rest => w.isEmpty localPath c.before = w.isEmpty localPath s ∧ Linked c.after rest

/-- Where the world is `ready`, commands are answered, and it stays so. -/
structure Answers (commands : List Command) (ready : σ → Prop) : Prop where
  call : ∀ c ∈ commands, ∀ s, ready s → ∃ answer s', (w.call c).run s = (.ok answer, s') ∧ ready s'
  notify : ∀ lines s, ready s → ready (w.notify lines s)

end World

/-! ## The attempts of a mount -/

section

variable {w : World σ} {client : MountClient} {locator : Locator} {localPath : String}
  {command : Command} {ready : σ → Prop} {s : σ}

variable (w client locator localPath command) in
/-- What `left` attempts from a state come to: the same with and without their calls written down,
    and these calls are those of some rounds. -/
structure Rounds (left : Nat) (s : σ) (rounds : List (Round σ)) (r : Bool) (s' : σ) : Prop where
  recorded : ∀ past, (attemptsIn w.recorded client locator localPath command left).run (s, past) =
    (.ok r, (s', past ++ rounds.flatMap Round.calls))
  run : (attemptsIn w client locator localPath command left).run s = (.ok r, s')
  made : ∀ c ∈ rounds.flatMap Round.calls, w.Made c
  plan : ∀ x ∈ rounds, w.Plan localPath command (client.unmountOf localPath) x
  decided : w.Decided localPath left rounds r
  linked : w.Linked localPath s (rounds.flatMap Round.calls)

theorem World.Linked.congr {s s' : σ} (hempty : w.isEmpty localPath s' = w.isEmpty localPath s)
    {calls : List (Called σ)} (h : w.Linked localPath s calls) : w.Linked localPath s' calls := by
  cases calls with
  | nil => trivial
  | cons c rest => exact ⟨h.1.trans hempty.symm, h.2⟩

theorem World.isEmpty_told (w : World σ) (client : MountClient) (locator : Locator)
    (localPath : String) (left : Nat) (answer : Except Fault Output) (s : σ) :
    w.isEmpty localPath (w.told client locator localPath left answer s) = w.isEmpty localPath s :=
  w.isEmpty_notify _ _ _

/-- A round that leaves the run undecided, before others. -/
theorem World.Decided.cons {n : Nat} {x : Round σ} {rounds : List (Round σ)} {r : Bool}
    (hx : ¬w.Populated localPath x.attempt) (h : w.Decided localPath n rounds r) :
    w.Decided localPath (n + 1) (x :: rounds) r := by
  cases r with
  | true => exact ⟨congrArg (· + 1) h.1, List.forall_mem_cons.mpr ⟨hx, h.2⟩⟩
  | false =>
    obtain ⟨hlength, earlier, last, rfl, hlast, hearlier⟩ := h
    exact ⟨Nat.succ_le_succ hlength, x :: earlier, last, rfl, hlast,
      List.forall_mem_cons.mpr ⟨hx, hearlier⟩⟩

namespace Rounds

variable {left : Nat} {s₁ s₂ s' : σ} {answer answer' : Except Fault Output}
  {rounds : List (Round σ)} {r : Bool}

/-- The client timed out, and is called again. -/
theorem timedOut (hcall : (w.call command).run s = (.ok answer, s₁))
    (hout : (⟨command, s, answer, s₁⟩ : Called σ).TimesOut)
    (h : Rounds w client locator localPath command left
      (w.told client locator localPath left answer s₁) rounds r s') :
    Rounds w client locator localPath command (left + 1) s
      (⟨⟨command, s, answer, s₁⟩, none⟩ :: rounds) r s' where
  recorded past := by
    refine (run_attemptsIn_timedOut (run_call_recorded hcall)
      ((saidBy_eq_timedOut_iff _).mpr hout)).trans ((h.recorded _).trans ?_)
    simp [Round.calls]
  run := (run_attemptsIn_timedOut hcall ((saidBy_eq_timedOut_iff _).mpr hout)).trans h.run
  made := List.forall_mem_cons.mpr ⟨hcall, h.made⟩
  plan := List.forall_mem_cons.mpr ⟨⟨rfl, by rintro c ⟨⟩, by simp [hout]⟩, h.plan⟩
  decided := h.decided.cons fun hpopulated => hpopulated.1 hout
  linked := ⟨rfl, h.linked.congr (w.isEmpty_told client locator localPath left answer s₁).symm⟩

/-- The client left the folder empty, and is called again after it was unmounted. -/
theorem empty (hcall : (w.call command).run s = (.ok answer, s₁))
    (hout : ¬(⟨command, s, answer, s₁⟩ : Called σ).TimesOut)
    (hempty : w.isEmpty localPath s₁ = true) {before : σ}
    (hbefore : before = w.notify [stillEmpty locator (client.attempts - left) client.attempts]
      (w.told client locator localPath left answer s₁))
    (hunmount : (w.call (client.unmountOf localPath)).run before = (.ok answer', s₂))
    (h : Rounds w client locator localPath command left s₂ rounds r s') :
    Rounds w client locator localPath command (left + 1) s
      (⟨⟨command, s, answer, s₁⟩, some ⟨client.unmountOf localPath, before, answer', s₂⟩⟩ ::
        rounds) r s' where
  recorded past := by
    subst hbefore
    refine (run_attemptsIn_empty (run_call_recorded hcall) (saidBy_ne_timedOut hout) hempty
      (run_call_recorded hunmount)).trans ((h.recorded _).trans ?_)
    simp [Round.calls, World.told, World.recorded]
  run := by
    subst hbefore
    exact (run_attemptsIn_empty hcall (saidBy_ne_timedOut hout) hempty
      hunmount).trans h.run
  made := List.forall_mem_cons.mpr ⟨hcall, List.forall_mem_cons.mpr ⟨hunmount, h.made⟩⟩
  plan := by
    refine List.forall_mem_cons.mpr ⟨⟨rfl, ?_, ?_⟩, h.plan⟩
    · rintro c ⟨⟩
      rfl
    · simp [hout, World.Populated, hempty]
  decided := h.decided.cons fun hpopulated => by simp [World.Populated, hempty] at hpopulated
  linked := by
    refine ⟨rfl, ?_, h.linked⟩
    subst hbefore
    exact (w.isEmpty_notify _ _ _).trans (w.isEmpty_told client locator localPath left answer s₁)

/-- The folder holds something. -/
theorem populated (hcall : (w.call command).run s = (.ok answer, s₁))
    (hout : ¬(⟨command, s, answer, s₁⟩ : Called σ).TimesOut)
    (hempty : w.isEmpty localPath s₁ = false) :
    Rounds w client locator localPath command (left + 1) s [⟨⟨command, s, answer, s₁⟩, none⟩] false
      (w.notify [mounted locator localPath] (w.told client locator localPath left answer s₁)) where
  recorded past := run_attemptsIn_populated (run_call_recorded hcall)
    (saidBy_ne_timedOut hout) hempty
  run := run_attemptsIn_populated hcall (saidBy_ne_timedOut hout) hempty
  made := List.forall_mem_singleton.mpr hcall
  plan := List.forall_mem_singleton.mpr
    ⟨rfl, by rintro c ⟨⟩, by simp [World.Populated, hempty, hout]⟩
  decided := ⟨Nat.succ_le_succ left.zero_le, [], _, rfl, ⟨hout, hempty⟩,
    fun x hx => absurd hx List.not_mem_nil⟩
  linked := ⟨rfl, trivial⟩

end Rounds

theorem exists_rounds (hanswers : w.Answers [command, client.unmountOf localPath] ready)
    (hs : ready s) (left : Nat) :
    ∃ rounds r s', Rounds w client locator localPath command left s rounds r s' := by
  induction left generalizing s with
  | zero =>
    refine ⟨[], true, s, ?_, rfl, ?_, ?_, ⟨rfl, ?_⟩, trivial⟩
    · intro past
      rw [List.flatMap_nil, List.append_nil]
      rfl
    · exact fun c hc => absurd hc List.not_mem_nil
    · exact fun x hx => absurd hx List.not_mem_nil
    · exact fun x hx => absurd hx List.not_mem_nil
  | succ left ih =>
    obtain ⟨answer, s₁, hcall, hs₁⟩ := hanswers.call command List.mem_cons_self s hs
    have htold : ready (w.told client locator localPath left answer s₁) := hanswers.notify _ _ hs₁
    by_cases hout : (⟨command, s, answer, s₁⟩ : Called σ).TimesOut
    · obtain ⟨rounds, r, s', h⟩ := ih htold
      exact ⟨_, r, s', .timedOut hcall hout h⟩
    · cases hempty : w.isEmpty localPath s₁ with
      | false => exact ⟨_, false, _, .populated hcall hout hempty⟩
      | true =>
        obtain ⟨answer', s₂, hunmount, hs₂⟩ := hanswers.call (client.unmountOf localPath)
          (List.mem_cons_of_mem _ List.mem_cons_self) _ (hanswers.notify _ _ htold)
        obtain ⟨rounds, r, s', h⟩ := ih hs₂
        exact ⟨_, r, s', .empty hcall hout hempty rfl hunmount h⟩

end

/-! ## Mounting -/

section

variable {w : World σ} {client : MountClient} {credentials : Credentials} {credential : Credential}
  {locator : Locator} {localPath : String} {cache : MountCache} {s s₁ : σ}

/-- With credentials and the folders made, a mount is its attempts. -/
theorem run_mountIn (hcredential : credentials.lookup locator.bucket.profile = some credential)
    (hprepare : (prepareIn w localPath cache).run s = (.ok (), s₁)) :
    (mountIn w client credentials locator localPath cache).run s =
      (attemptsIn w client locator localPath
        (mountCommand client credential locator localPath cache) client.attempts).run s₁ := by
  unfold mountIn
  rw [hcredential]
  exact run_bind_of_ok hprepare _

theorem run_mountIn_of_missing (w : World σ) (client : MountClient) (localPath : String)
    (cache : MountCache) (hmissing : credentials.lookup locator.bucket.profile = none) (s : σ) :
    (mountIn w client credentials locator localPath cache).run s =
      (.ok true, w.notify [missingCredentials locator.bucket.profile locator] s) := by
  unfold mountIn
  rw [hmissing]
  rfl

/-- Without credentials for the profile a mount does nothing but say so. Otherwise, once its folders
    are made, it calls its client round by round: up to the first round in which the client does not
    time out and the folder holds something after it, or for as many rounds as there are attempts.
    It unmounts after each round that it goes on from, unless the client timed out. On a host,
    commands that cannot be started answer so every time; elsewhere they may do so at some attempts
    only. -/
theorem calls_of_mount (client : MountClient) (credentials : Credentials) (locator : Locator)
    (localPath : String) (cache : MountCache) :
    mount client credentials locator localPath cache =
        mountIn hostWorld client credentials locator localPath cache ∧
    ∀ (σ : Type) (w : World σ) (s : σ),
      (credentials.lookup locator.bucket.profile = none →
        (mountIn w client credentials locator localPath cache).run s =
          (.ok true, w.notify [missingCredentials locator.bucket.profile locator] s)) ∧
      ∀ credential command unmount s₁ (ready : σ → Prop),
        credentials.lookup locator.bucket.profile = some credential →
        command = mountCommand client credential locator localPath cache →
        unmount = client.unmountOf localPath →
        (prepareIn w localPath cache).run s = (.ok (), s₁) → ready s₁ →
        w.Answers [command, unmount] ready →
        ∃ rounds r s',
          (mountIn w client credentials locator localPath cache).run s = (.ok r, s') ∧
          (mountIn w.recorded client credentials locator localPath cache).run (s, []) =
            (.ok r, (s', rounds.flatMap Round.calls)) ∧
          (∀ x ∈ rounds, w.Plan localPath command unmount x) ∧
          w.Decided localPath client.attempts rounds r := by
  refine ⟨mount_eq_mountIn client credentials locator localPath cache, fun σ w s =>
    ⟨fun hmissing => run_mountIn_of_missing w client localPath cache hmissing s, ?_⟩⟩
  rintro credential command unmount s₁ ready hcredential rfl rfl hprepare hready hanswers
  obtain ⟨rounds, r, s', hrounds⟩ : ∃ rounds r s', Rounds w client locator localPath
      (mountCommand client credential locator localPath cache) client.attempts s₁ rounds r s' :=
    exists_rounds hanswers hready client.attempts
  refine ⟨rounds, r, s', ?_, ?_, hrounds.plan, hrounds.decided⟩
  · rw [run_mountIn hcredential hprepare]
    exact hrounds.run
  · rw [run_mountIn hcredential (run_prepareIn_recorded hprepare)]
    exact hrounds.recorded []

end

/-! ## A client in trouble -/

/-- A world that answers calls in turn; its state is the number of calls so far. -/
def scripted (answers : Nat → Except Fault Output) (empty : Nat → Bool) : World Nat where
  call _ := ExceptT.mk fun n => (.ok (answers n), n + 1)
  ensureDirectory _ := pure ()
  isEmpty _ n := empty n
  notify _ n := n
  isEmpty_notify _ _ _ := rfl

theorem answers_scripted (answers : Nat → Except Fault Output) (empty : Nat → Bool)
    (commands : List Command) : (scripted answers empty).Answers commands fun _ => True :=
  ⟨fun _ _ n _ => ⟨answers n, n + 1, rfl, trivial⟩, fun _ _ _ => trivial⟩

/-- The client times out and leaves something in the folder; it cannot be started; it fails; and
    then it says, of a timeout too, that there is a mount already, and the folder holds
    something. -/
def troubled : World Nat :=
  scripted (fun
    | 0 => .ok ⟨1, "", "TimeOut"⟩
    | 1 => .error (.io .notFound)
    | 3 => .ok ⟨1, "", "no such bucket"⟩
    | 5 => .ok ⟨1, "timeout", "already mounted"⟩
    | _ => .ok ⟨0, "", ""⟩) (fun n => n != 1 && n != 6)

/-- A mount of one bucket in this world, with so many attempts. -/
def troubledMount {σ : Type} (w : World σ) (attempts : Nat) : Act σ Bool :=
  mountIn w (.withAttempts .standard attempts) (.ring ⟨[("s3://b", ⟨"k", "s"⟩)]⟩)
    ⟨"s3://b/x", .s3 "b", "x"⟩ "/m" .none

/-- The command of its attempts. -/
def troubledCommand : Command :=
  mountCommand .standard ⟨"k", "s"⟩ ⟨"s3://b/x", .s3 "b", "x"⟩ "/m" .none

def troubledUnmount : Command := MountClient.standard.unmountOf "/m"

/-- Of five attempts four are made, and two of them are followed by unmounting; of three the last
    one is, too, and the folder is reported empty. -/
theorem calls_of_troubled :
    (∃ rounds, (troubledMount troubled 5).run 0 = (.ok false, 6) ∧
      (∀ x ∈ rounds, troubled.Plan "/m" troubledCommand troubledUnmount x) ∧
      troubled.Decided "/m" 5 rounds false ∧
      (rounds.flatMap Round.calls).map Called.command =
        [troubledCommand, troubledCommand, troubledUnmount, troubledCommand,
          troubledUnmount, troubledCommand]) ∧
    ∃ rounds, (troubledMount troubled 3).run 0 = (.ok true, 5) ∧
      (∀ x ∈ rounds, troubled.Plan "/m" troubledCommand troubledUnmount x) ∧
      troubled.Decided "/m" 3 rounds true ∧
      (rounds.flatMap Round.calls).map Called.command =
        [troubledCommand, troubledCommand, troubledUnmount, troubledCommand,
          troubledUnmount] := by
  have hcalls : ∀ attempts, ∃ rounds r s',
      (troubledMount troubled attempts).run 0 = (.ok r, s') ∧
      (troubledMount troubled.recorded attempts).run (0, []) =
        (.ok r, (s', rounds.flatMap Round.calls)) ∧
      (∀ x ∈ rounds, troubled.Plan "/m" troubledCommand troubledUnmount x) ∧
      troubled.Decided "/m" (max attempts 1) rounds r := fun attempts =>
    ((calls_of_mount (.withAttempts .standard attempts) (.ring ⟨[("s3://b", ⟨"k", "s"⟩)]⟩)
      ⟨"s3://b/x", .s3 "b", "x"⟩ "/m" .none).2 Nat troubled 0).2 ⟨"k", "s"⟩ _ _ 0
      (fun _ => True) (by decide) rfl rfl rfl trivial (answers_scripted _ _ _)
  constructor
  · obtain ⟨rounds, r, s', hrun, hrecorded, hplan, hdecided⟩ := hcalls 5
    have hfalse : (troubledMount troubled 5).run 0 = (.ok false, 6) := rfl
    obtain ⟨⟨⟩, rfl⟩ := Prod.ext_iff.mp (hrun.symm.trans hfalse)
    refine ⟨rounds, hfalse, hplan, hdecided, ?_⟩
    rw [← show _ = rounds.flatMap Round.calls from congrArg (·.2.2) hrecorded]
    decide +kernel
  · obtain ⟨rounds, r, s', hrun, hrecorded, hplan, hdecided⟩ := hcalls 3
    have htrue : (troubledMount troubled 3).run 0 = (.ok true, 5) := rfl
    obtain ⟨⟨⟩, rfl⟩ := Prod.ext_iff.mp (hrun.symm.trans htrue)
    refine ⟨rounds, htrue, hplan, hdecided, ?_⟩
    rw [← show _ = rounds.flatMap Round.calls from congrArg (·.2.2) hrecorded]
    decide +kernel

end DataStaging.Mounting
