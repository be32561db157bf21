import DataStaging.Proofs.Outcome
import DataStaging.Process.Run
import Mathlib.Data.List.Forall2

/-!
# Runs in step

Two hosts are *kin* if a computation cannot tell them apart, but for what it may pass on: the trees,
the starts and the notices of the one are related to those of the other, and so is what programs do
on either side. Two computations are *in step* if, on kin hosts, they come to related outcomes and
leave kin hosts. What a kinship relates is left open; the rules hold for each.

Results:
* `InStep.bind`, `InStep.get_bind`: computations in parts.
* `inStep_begin`, `inStep_once`: starting commands and running them.
* `inStep_streaming`: runs under the retry policy.
-/

namespace DataStaging

/-- What the trees, starts, notices and halts of two hosts have in common, and by how many
    milliseconds the wall clock of the second one is ahead. Directories are made in related trees
    alike, and the same names are in them. -/
structure Kinship where
  tree : FileTree → FileTree → Prop
  start : Start → Start → Prop
  line : String → String → Prop
  halt : Halt → Halt → Prop
  shift : Int
  ensureDirectory : ∀ {t t'}, tree t t' → ∀ folder path,
    (t'.ensureDirectory folder path).1 = (t.ensureDirectory folder path).1 ∧
      tree (t.ensureDirectory folder path).2 (t'.ensureDirectory folder path).2
  list : ∀ {t t'}, tree t t' → ∀ folder path, t'.list folder path = t.list folder path
  line_refl : ∀ l, line l l
  halt_refl : ∀ e, halt e e

namespace Kinship

variable (k : Kinship)

/-- What programs see at two starts. -/
structure Occasions (o o' : Occasion) : Prop where
  earlier : List.Forall₂ k.start o.earlier o'.earlier
  start : k.start o.start o'.start
  tree : k.tree o.tree o'.tree
  folder : o'.folder = o.folder

/-- What programs do: the same, but for the trees they leave. -/
structure Behaviours (b b' : Behaviour) : Prop where
  tree : k.tree b.tree b'.tree
  emissions : b'.emissions = b.emissions
  closing : b'.closing = b.closing
  lasting : b'.lasting = b.lasting
  ending : b'.ending = b.ending
  stopRequest : b'.stopRequest = b.stopRequest

/-- Programs that behave alike where they see alike. -/
def Programs (p p' : Program) : Prop := ∀ o o', k.Occasions o o' → k.Behaviours (p o) (p' o')

/-- Hosts that are kin. -/
structure Hosts (h h' : Host) : Prop where
  tree : k.tree h.tree h'.tree
  folder : h'.folder = h.folder
  env : h'.env = h.env
  programs : ∀ name, Option.Rel k.Programs (h.programs name) (h'.programs name)
  clock : h'.clock = h.clock
  epoch : h'.epoch = h.epoch + k.shift
  connection : h'.connection = h.connection
  jitter : h'.jitter = h.jitter
  stopAt : h'.stopAt = h.stopAt
  dropsOnStop : h'.dropsOnStop = h.dropsOnStop
  patience : h'.patience = h.patience
  starts : List.Forall₂ k.start h.starts h'.starts
  notices : List.Forall₂ k.line h.notices h'.notices

/-- Commands that can be started alike, with related starts. -/
structure Commands (c c' : Command) : Prop where
  program : c'.program = c.program
  unstartable : c'.isUnstartable = c.isUnstartable
  start : ∀ env, k.start ⟨c.program, c.args, Host.overlay env c.env⟩
    ⟨c'.program, c'.args, Host.overlay env c'.env⟩

/-- Labels whose notices and faults are related. -/
structure Labels (l l' : String) : Prop where
  exit : ∀ policy status count,
    k.line (Retry.exitNotice policy l status count) (Retry.exitNotice policy l' status count)
  silence : ∀ policy count,
    k.line (Retry.silenceNotice policy l count) (Retry.silenceNotice policy l' count)
  spent : ∀ policy, k.line (Retry.spentNotice policy l) (Retry.spentNotice policy l')
  halt : ∀ retries status,
    k.halt (.fault (.retriesExhausted l retries status))
      (.fault (.retriesExhausted l' retries status))

theorem lines_refl (lines : Notices) : List.Forall₂ k.line lines lines :=
  List.forall₂_same.mpr fun l _ => k.line_refl l

theorem commands_refl (hstart : ∀ s, k.start s s) (c : Command) : k.Commands c c where
  program := rfl
  unstartable := rfl
  start _ := hstart _

theorem labels_refl (l : String) : k.Labels l l where
  exit _ _ _ := k.line_refl _
  silence _ _ := k.line_refl _
  spent _ := k.line_refl _
  halt _ _ := k.halt_refl _

end Kinship

/-- Two outcomes: both have a value, and the values are related by `V`, or both have halted, related
    by `E`. -/
inductive Outcomes {α β : Type} (E : Halt → Halt → Prop) (V : α → β → Prop) :
    Except Halt α → Except Halt β → Prop where
  | ok {a : α} {b : β} : V a b → Outcomes E V (.ok a) (.ok b)
  | error {e e' : Halt} : E e e' → Outcomes E V (.error e) (.error e')

/-- On kin hosts, the computations come to related outcomes and leave kin hosts. -/
def InStep {α β : Type} (k : Kinship) (E : Halt → Halt → Prop) (V : α → β → Prop) (x : Act Host α)
    (y : Act Host β) : Prop :=
  ∀ h h', k.Hosts h h' →
    Outcomes E V (x.run h).1 (y.run h').1 ∧ k.Hosts (x.run h).2 (y.run h').2

variable {k : Kinship} {E : Halt → Halt → Prop} {α β γ δ : Type} {V : α → β → Prop}
  {W : γ → δ → Prop} {x : Act Host α} {y : Act Host β} {f : α → Act Host γ} {g : β → Act Host δ}

/-! ## Computations in parts -/

namespace InStep

theorem pure {a : α} {b : β} (h : V a b) : InStep k E V (Pure.pure a) (Pure.pure b) :=
  fun _ _ hk => ⟨.ok h, hk⟩

theorem throw {e e' : Halt} (h : E e e') :
    InStep k E V (MonadExcept.throw e) (MonadExcept.throw e') :=
  fun _ _ hk => ⟨.error h, hk⟩

theorem bind (hx : InStep k E V x y) (hf : ∀ a b, V a b → InStep k E W (f a) (g b)) :
    InStep k E W (x >>= f) (y >>= g) := by
  intro h h' hk
  obtain ⟨hout, hkin⟩ := hx h h' hk
  rcases hrun : x.run h with ⟨o, h₁⟩
  rcases hrun' : y.run h' with ⟨o', h₁'⟩
  rw [hrun, hrun'] at hout hkin
  cases hout with
  | ok hV =>
    rw [run_bind_of_ok hrun, run_bind_of_ok hrun']
    exact hf _ _ hV h₁ h₁' hkin
  | error hE =>
    rw [run_bind_of_error hrun, run_bind_of_error hrun']
    exact ⟨.error hE, hkin⟩

theorem get_bind {f : Host → Act Host γ} {g : Host → Act Host δ}
    (hf : ∀ h h', k.Hosts h h' → InStep k E W (f h) (g h')) :
    InStep k E W (get >>= f) (get >>= g) :=
  fun h h' hk => hf h h' hk h h' hk

theorem set {h h' : Host} (hk : k.Hosts h h') :
    InStep k E Eq (MonadStateOf.set h) (MonadStateOf.set h') :=
  fun _ _ _ => ⟨.ok rfl, hk⟩

theorem mono {E' : Halt → Halt → Prop} {V' : α → β → Prop} (hx : InStep k E V x y)
    (hE : ∀ e e', E e e' → E' e e') (hV : ∀ a b, V a b → V' a b) : InStep k E' V' x y := by
  intro h h' hk
  obtain ⟨hout, hkin⟩ := hx h h' hk
  refine ⟨?_, hkin⟩
  generalize (x.run h).1 = o, (y.run h').1 = o' at hout
  cases hout with
  | ok hab => exact .ok (hV _ _ hab)
  | error he => exact .error (hE _ _ he)

/-- What halts alike halts as the kinship allows. -/
theorem toHalt (hx : InStep k Eq V x y) : InStep k k.halt V x y :=
  hx.mono (fun e _ h => h ▸ k.halt_refl e) fun _ _ h => h

end InStep

/-! ## Time and notices -/

namespace Host

variable {h h' : Host}

theorem dropTime?_eq (hk : k.Hosts h h') : h'.dropTime? = h.dropTime? := by
  unfold dropTime?
  rw [hk.dropsOnStop, hk.stopAt]

theorem now_eq (hk : k.Hosts h h') : h'.now = h.now + k.shift := by
  unfold now
  rw [hk.epoch, hk.clock]
  exact Int.add_right_comm _ _ _

theorem advanceTo_kin (hk : k.Hosts h h') (target : Nat) :
    (h'.advanceTo target).1 = (h.advanceTo target).1 ∧
      k.Hosts (h.advanceTo target).2 (h'.advanceTo target).2 := by
  unfold advanceTo
  rw [dropTime?_eq hk]
  cases h.dropTime? with
  | none => exact ⟨rfl, { hk with clock := rfl }⟩
  | some t =>
    simp only [hk.clock]
    split_ifs
    · exact ⟨rfl, { hk with clock := rfl }⟩
    · exact ⟨rfl, { hk with clock := rfl }⟩

end Host

theorem inStep_moveTo (target : Nat) :
    InStep k Eq Eq (Host.moveTo target) (Host.moveTo target) := by
  refine .get_bind fun h h' hk => ?_
  obtain ⟨hdropped, hkin⟩ := Host.advanceTo_kin hk target
  generalize h.advanceTo target = p, h'.advanceTo target = p' at hdropped hkin
  obtain ⟨dropped, h₁⟩ := p
  obtain ⟨dropped', h₁'⟩ := p'
  obtain rfl : dropped' = dropped := hdropped
  refine .bind (.set hkin) fun _ _ _ => ?_
  split_ifs
  · exact .throw rfl
  · exact .pure rfl

theorem inStep_elapse (micros : Nat) : InStep k Eq Eq (Host.elapse micros) (Host.elapse micros) :=
  .get_bind fun _ _ hk => hk.clock ▸ inStep_moveTo _

theorem inStep_notify {lines lines' : Notices} (h : List.Forall₂ k.line lines lines') :
    InStep k Eq Eq (Host.notify lines) (Host.notify lines') :=
  fun _ _ hk => ⟨.ok rfl, { hk with notices := List.rel_append hk.notices h }⟩

theorem inStep_orFail {r : Except Fault α} : InStep k Eq Eq (Host.orFail r) (Host.orFail r) := by
  cases r with
  | ok value => exact .pure rfl
  | error fault => exact .throw rfl

theorem inStep_changeTree {change : FileTree → Location → Except IoFault Unit × FileTree}
    (hchange : ∀ {t t'}, k.tree t t' → ∀ folder, (change t' folder).1 = (change t folder).1 ∧
      k.tree (change t folder).2 (change t' folder).2) :
    InStep k Eq Eq (Host.changeTree change) (Host.changeTree change) := by
  refine .get_bind fun h h' hk => ?_
  obtain ⟨hout, htree⟩ := hchange hk.tree h.folder
  rw [hk.folder]
  generalize change h.tree h.folder = p, change h'.tree h.folder = p' at hout htree
  obtain ⟨r, t⟩ := p
  obtain ⟨r', t'⟩ := p'
  obtain rfl : r' = r := hout
  refine .bind (.set { hk with tree := htree, folder := rfl }) fun _ _ _ => ?_
  cases r' with
  | ok u => exact .pure rfl
  | error fault => exact .throw rfl

theorem inStep_ensureDirectory (path : String) :
    InStep k Eq Eq (Host.ensureDirectory path) (Host.ensureDirectory path) :=
  inStep_changeTree fun h folder => k.ensureDirectory h folder path

theorem inStep_awaitConnection : InStep k Eq Eq Host.awaitConnection Host.awaitConnection := by
  refine .get_bind fun h h' hk => ?_
  rw [hk.connection, hk.clock, Host.dropTime?_eq hk]
  cases h.connection.awaitGood h.clock with
  | ok t => exact inStep_moveTo t
  | error halt =>
    cases h.dropTime? with
    | none => exact .throw rfl
    | some t =>
      simp only
      split_ifs
      · exact inStep_moveTo t
      · exact .throw rfl

/-! ## Programs -/

theorem inStep_begin {c c' : Command} (hc : k.Commands c c') :
    InStep k Eq k.Behaviours (Host.begin c) (Host.begin c') := by
  refine .get_bind fun h h' hk => ?_
  rw [hc.unstartable, hc.program]
  split_ifs
  · exact .throw rfl
  have hprogram := hk.programs c.program
  generalize h.programs c.program = p, h'.programs c.program = p' at hprogram
  cases hprogram with
  | none => exact .throw rfl
  | @some p p' hp =>
    have hstart := hc.start h.env
    rw [hc.program] at hstart
    rw [hk.env, hk.clock]
    have hoccasion : k.Occasions
        ⟨h.starts, ⟨c.program, c.args, Host.overlay h.env c.env⟩, h.tree, h.folder⟩
        ⟨h'.starts, ⟨c.program, c'.args, Host.overlay h.env c'.env⟩, h'.tree, h'.folder⟩ :=
      ⟨hk.starts, hstart, hk.tree, hk.folder⟩
    have hb := hp _ _ hoccasion
    refine .bind (.set { hk with
      tree := hb.tree
      env := rfl
      clock := rfl
      starts := List.rel_append hk.starts (.cons hstart .nil)
      stopAt := by rw [hb.stopRequest, hk.stopAt] }) fun _ _ _ => ?_
    exact .pure hb

theorem ofBehaviour_eq {b b' : Behaviour} (hb : k.Behaviours b b') :
    Output.ofBehaviour b' = Output.ofBehaviour b := by
  unfold Output.ofBehaviour Behaviour.stream
  rw [hb.emissions, hb.ending]

theorem inStep_once {c c' : Command} (hc : k.Commands c c') :
    InStep k Eq Eq (Run.once c) (Run.once c') := by
  refine (inStep_begin hc).bind fun b b' hb => ?_
  have htotal : b'.total? = b.total? := by
    unfold Behaviour.total? Behaviour.emitting
    rw [hb.emissions, hb.closing, hb.lasting]
  rw [htotal]
  cases b.total? with
  | none => exact .throw rfl
  | some total => exact (inStep_elapse total).bind fun _ _ _ => .pure (ofBehaviour_eq hb).symm

theorem inStep_streamingAttempt {c c' : Command} (hc : k.Commands c c') (idle : Duration) :
    InStep k Eq Eq (Run.streamingAttempt c idle) (Run.streamingAttempt c' idle) := by
  refine (inStep_begin hc).bind fun b b' hb => ?_
  rw [hb.emissions, hb.closing, hb.lasting, hb.ending]
  cases Listening.listen idle (b.closing.or b.lasting) b.emissions .start with
  | silent lines elapsed =>
    exact (inStep_notify (k.lines_refl lines)).bind fun _ _ _ =>
      (inStep_elapse elapsed).bind fun _ _ _ => .pure rfl
  | closed lines elapsed =>
    refine (inStep_notify (k.lines_refl lines)).bind fun _ _ _ =>
      (inStep_elapse elapsed).bind fun _ _ _ => ?_
    cases b.lasting with
    | none => exact .throw rfl
    | some last =>
      simp only
      split_ifs
      · exact (inStep_elapse last).bind fun _ _ _ => .pure rfl
      · exact (inStep_elapse last).bind fun _ _ _ => .pure rfl
      · exact .pure rfl
      · exact .pure rfl

/-! ## Runs -/

theorem charge_kin {l l' notice notice' : String} (hl : k.Labels l l')
    (hnotice : k.line notice notice') (policy : RetryPolicy) (report : RunReport) :
    (Retry.charge (α := α) policy l' report notice').1 =
      (Retry.charge (α := α) policy l report notice).1 ∧
    List.Forall₂ k.line (Retry.charge (α := α) policy l report notice).2.1
      (Retry.charge (α := α) policy l' report notice').2.1 ∧
    (Retry.charge (α := α) policy l' report notice').2.2 =
      (Retry.charge (α := α) policy l report notice).2.2 := by
  unfold Retry.charge
  split_ifs
  · exact ⟨rfl, .cons hnotice (.cons (hl.spent policy) .nil), rfl⟩
  · exact ⟨rfl, .cons hnotice .nil, rfl⟩

/-- The label shows in the notices of an attempt only. -/
theorem advance_kin {l l' : String} (hl : k.Labels l l') (policy : RetryPolicy) (hasVariant : Bool)
    (jitter : Float) (report : RunReport) (o : Attempt α) :
    (Retry.advance policy l' hasVariant jitter report o).1 =
      (Retry.advance policy l hasVariant jitter report o).1 ∧
    List.Forall₂ k.line (Retry.advance policy l hasVariant jitter report o).2.1
      (Retry.advance policy l' hasVariant jitter report o).2.1 ∧
    (Retry.advance policy l' hasVariant jitter report o).2.2 =
      (Retry.advance policy l hasVariant jitter report o).2.2 := by
  cases o with
  | succeeded value => exact ⟨rfl, .nil, rfl⟩
  | timedOut => exact charge_kin hl (hl.silence policy _) policy _
  | exited status =>
    by_cases hservice : status = some ExitStatus.serviceUnreachable
    · simp only [Retry.advance, if_pos hservice]
      exact ⟨trivial, k.lines_refl _, trivial⟩
    by_cases hrate : status = some ExitStatus.rateLimited
    · simp only [Retry.advance, if_neg hservice, if_pos hrate]
      exact ⟨trivial, k.lines_refl _, trivial⟩
    · simp only [Retry.advance, if_neg hservice, if_neg hrate]
      exact charge_kin hl (hl.exit policy status _) policy _

/-- Runs are in step whose attempts are. -/
theorem inStep_run {attempt attempt' : Bool → Act Host (Attempt α)} {l l' : String}
    (hattempt : ∀ useVariant, InStep k Eq Eq (attempt useVariant) (attempt' useVariant))
    (hl : k.Labels l l') (policy : RetryPolicy) (hasVariant : Bool) (status : Int) (patience : Nat)
    (report : RunReport) :
    InStep k k.halt Eq (Retry.run (Run.means attempt) policy l hasVariant status patience report)
      (Retry.run (Run.means attempt') policy l' hasVariant status patience report) := by
  induction patience generalizing report with
  | zero => exact .throw (k.halt_refl _)
  | succ patience ih =>
    rw [Retry.run, Retry.run]
    refine inStep_awaitConnection.toHalt.bind fun _ _ _ => ?_
    refine (hattempt report.usedVariant).toHalt.bind fun o o' ho => ?_
    obtain rfl : o = o' := ho
    have hjitter : InStep k k.halt Eq (Run.means attempt).jitter (Run.means attempt').jitter :=
      .get_bind fun h h' hk => .pure hk.jitter.symm
    refine hjitter.bind fun jitter jitter' hj => ?_
    obtain rfl : jitter = jitter' := hj
    obtain ⟨hreport, hlines, hnext⟩ := advance_kin hl policy hasVariant jitter report o
    generalize Retry.advance policy l hasVariant jitter report o = p,
      Retry.advance policy l' hasVariant jitter report o = p' at hreport hlines hnext
    obtain ⟨report₁, lines, next⟩ := p
    obtain ⟨report₁', lines', next'⟩ := p'
    obtain rfl : report₁' = report₁ := hreport
    obtain rfl : next' = next := hnext
    refine (inStep_notify hlines).toHalt.bind fun _ _ _ => ?_
    cases next' with
    | done value => exact .pure rfl
    | awaitService =>
      have hwait : InStep k k.halt Eq (Run.means attempt).awaitService
          (Run.means attempt').awaitService :=
        .get_bind fun h h' hk => hk.connection ▸ (inStep_elapse _).toHalt
      exact hwait.bind fun _ _ _ => ih report₁'
    | awaitQuota delay => exact (inStep_elapse delay.micros).toHalt.bind fun _ _ _ => ih report₁'
    | again => exact ih report₁'
    | spent => exact .throw (hl.halt _ _)

/-- A run that passes lines on is in step with one of a related command and a related variant. -/
theorem inStep_streaming {c c' v v' : Command} (hc : k.Commands c c') (hv : k.Commands v v')
    (hl : k.Labels c.display c'.display) (policy : RetryPolicy) (status : Int) :
    InStep k k.halt Eq (Run.streaming policy c (some v) status)
      (Run.streaming policy c' (some v') status) := by
  refine .get_bind fun h h' hk => ?_
  rw [hk.patience]
  have hattempt : ∀ useVariant : Bool, InStep k Eq Eq
      (Run.streamingAttempt (if useVariant then (some v).getD c else c) policy.idleTimeout)
      (Run.streamingAttempt (if useVariant then (some v').getD c' else c') policy.idleTimeout) := by
    intro useVariant
    cases useVariant with
    | false => exact inStep_streamingAttempt hc policy.idleTimeout
    | true => exact inStep_streamingAttempt hv policy.idleTimeout
  refine (inStep_run hattempt hl policy true status h.patience .start).bind fun p p' hp => ?_
  obtain rfl : p = p' := hp
  exact .pure rfl

end DataStaging
