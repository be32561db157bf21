import DataStaging.Proofs.Mount.Areas
import DataStaging.Proofs.Mount.Mounted
import DataStaging.Proofs.Process.InStep
import DataStaging.Proofs.Staging.Serving

/-!
# Stagings in step

Where the commands that two stagers build are started alike, mounting and downloading go on in step,
and each row comes to be served the same way.

Results:
* `inStep_mount`, `inStep_download`: the two ways to serve a row.
* `inStep_serveAll`: rows with the same bases and areas.
-/

namespace DataStaging

variable {k : Kinship}

theorem InStep.tryCatch {E : Halt → Halt → Prop} {α β : Type} {V : α → β → Prop} {x : Act Host α}
    {y : Act Host β} {f : Halt → Act Host α} {g : Halt → Act Host β} (hx : InStep k Eq V x y)
    (hf : ∀ e, InStep k E V (f e) (g e)) : InStep k E V (tryCatch x f) (tryCatch y g) := by
  intro h h' hk
  obtain ⟨hout, hkin⟩ := hx h h' hk
  rcases hrun : x.run h with ⟨o, h₁⟩
  rcases hrun' : y.run h' with ⟨o', h₁'⟩
  rw [hrun, hrun'] at hout hkin
  cases hout with
  | ok hV =>
    rw [run_tryCatch_of_ok hrun, run_tryCatch_of_ok hrun']
    exact ⟨.ok hV, hkin⟩
  | @error e _ he =>
    subst he
    rw [run_tryCatch_of_error hrun, run_tryCatch_of_error hrun']
    exact hf e h₁ h₁' hkin

/-! ## Mounting -/

namespace Mounting

variable {c c' : Command}

theorem inStep_call (hc : k.Commands c c') : InStep k Eq Eq (call c) (call c') := by
  refine .tryCatch ((inStep_once hc).bind fun o o' ho => .pure (congrArg Except.ok ho)) fun e => ?_
  cases e with
  | fault fault => exact .pure rfl
  | interrupted | stuck | crash reason => exact .throw rfl

theorem inStep_callClient (hc : k.Commands c c') :
    InStep k Eq Eq (callClient c) (callClient c') := by
  refine (inStep_call hc).bind fun o o' ho => ?_
  obtain rfl : o = o' := ho
  cases o with
  | ok o => exact .pure rfl
  | error fault => exact .pure rfl

theorem inStep_isEmpty (localPath : String) :
    InStep k Eq Eq (isEmpty localPath) (isEmpty localPath) := by
  refine .get_bind fun h h' hk => ?_
  rw [hk.folder, k.list hk.tree]
  cases h.tree.list h.folder (Utf8.encode localPath) with
  | ok names => exact .pure rfl
  | error fault => exact .pure rfl

theorem inStep_attempts {client : MountClient} {localPath : String} (hc : k.Commands c c')
    (hunmount : k.Commands (client.unmountOf localPath) (client.unmountOf localPath))
    (locator : Locator) (left : Nat) :
    InStep k Eq Eq (attempts client locator localPath c left)
      (attempts client locator localPath c' left) := by
  induction left with
  | zero => exact .pure rfl
  | succ left ih =>
    refine (inStep_callClient hc).bind fun v v' hv => ?_
    obtain rfl : v = v' := hv
    refine (inStep_notify (k.lines_refl _)).bind fun _ _ _ => ?_
    split_ifs
    · exact ih
    refine (inStep_isEmpty localPath).bind fun empty empty' he => ?_
    obtain rfl : empty = empty' := he
    split_ifs
    · exact (inStep_notify (k.lines_refl _)).bind fun _ _ _ =>
        InStep.bind ((inStep_call hunmount).bind fun _ _ _ => .pure rfl) fun _ _ _ => ih
    · exact (inStep_notify (k.lines_refl _)).bind fun _ _ _ => .pure rfl

end Mounting

/-! ## Stagers -/

/-- Whenever a download starts, the commands that carry it out are related, with the time that each
    side has by then. -/
structure Kinship.Transfers (k : Kinship) (courier : Courier) (uri path : String) (now : Instant) :
    Prop where
  command : k.Commands
    (courier.command .download uri path (courier.mover.artifactPath? .download now) none)
    (courier.command .download uri path
      (courier.mover.artifactPath? .download (now + k.shift)) none)
  resumed : k.Commands
    ((courier.command .download uri path
      (courier.mover.artifactPath? .download now) none).withArg "--resume")
    ((courier.command .download uri path
      (courier.mover.artifactPath? .download (now + k.shift)) none).withArg "--resume")
  label : k.Labels
    (courier.command .download uri path (courier.mover.artifactPath? .download now) none).display
    (courier.command .download uri path
      (courier.mover.artifactPath? .download (now + k.shift)) none).display

/-- Stagers that have key pairs for the same profiles, and whose commands are related. -/
structure Kinship.Stagers (k : Kinship) (s s' : Stager) : Prop where
  client : s'.client = s.client
  cache : s'.cache = s.cache
  courier : s'.courier = s.courier
  mounts : ∀ profile, Option.Rel
    (fun c c' => ∀ locator localPath, k.Commands
      (Mounting.mountCommand s.client c locator localPath s.cache)
      (Mounting.mountCommand s.client c' locator localPath s.cache))
    (s.credentials.lookup profile) (s'.credentials.lookup profile)
  unmounts : ∀ localPath, k.Commands (s.client.unmountOf localPath) (s.client.unmountOf localPath)
  transfers : ∀ courier, s.courier = some courier → ∀ uri path now, k.Transfers courier uri path now

variable {s s' : Stager}

theorem inStep_mount (hs : k.Stagers s s') (locator : Locator) (localPath : String) :
    InStep k Eq Eq (Mounting.mount s.client s.credentials locator localPath s.cache)
      (Mounting.mount s'.client s'.credentials locator localPath s'.cache) := by
  unfold Mounting.mount
  rw [hs.client, hs.cache]
  have hkeys := hs.mounts locator.bucket.profile
  generalize s.credentials.lookup locator.bucket.profile = o,
    s'.credentials.lookup locator.bucket.profile = o' at hkeys
  cases hkeys with
  | none => exact (inStep_notify (k.lines_refl _)).bind fun _ _ _ => .pure rfl
  | some hc =>
    refine (inStep_ensureDirectory localPath).bind fun _ _ _ => ?_
    have hattempts := Mounting.inStep_attempts (hc locator localPath) (hs.unmounts localPath)
      locator s.client.attempts
    cases s.cache.enabled? with
    | none => exact hattempts
    | some p => exact (inStep_ensureDirectory p.1).bind fun _ _ _ => hattempts

theorem inStep_download {courier : Courier} {uri path : String}
    (h : ∀ now, k.Transfers courier uri path now) :
    InStep k k.halt Eq (courier.download uri path none) (courier.download uri path none) := by
  refine (inStep_ensureDirectory path).toHalt.bind fun _ _ _ => ?_
  refine inStep_orFail.toHalt.bind fun _ _ _ => ?_
  refine .get_bind fun h₁ h₁' hk => ?_
  obtain ⟨hcommand, hresumed, hlabel⟩ := h h₁.now
  rw [Host.now_eq hk]
  have hrun := inStep_streaming hcommand hresumed hlabel courier.policy
    Direction.download.failureStatus
  cases courier.mover.benchmarkFolder with
  | none => exact hrun
  | some folder => exact (inStep_ensureDirectory folder).toHalt.bind fun _ _ _ => hrun

namespace Stager

theorem inStep_serve (hs : k.Stagers s s') (root : String) {row row' : MountRow}
    (hrow : row.SameArea row') : InStep k k.halt Eq (s.serve root row) (s'.serve root row') := by
  have hfolder : mountFolder root row' = mountFolder root row := by
    unfold mountFolder
    rw [hrow.1]
  have hdownload : downloadFolder root row' = downloadFolder root row := by
    unfold downloadFolder
    rw [hrow.1]
  rw [serve_eq, serve_eq, hrow.2]
  refine inStep_orFail.toHalt.bind fun area area' ha => ?_
  obtain rfl : area = area' := ha
  unfold serveArea downloadNotice unstagedNotice
  simp only [hfolder, hdownload, hrow.1, hrow.2]
  refine (inStep_mount hs area (mountFolder root row)).toHalt.bind fun empty empty' he => ?_
  obtain rfl : empty = empty' := he
  split_ifs
  · exact .pure rfl
  rw [hs.courier]
  cases hcourier : s.courier with
  | none => exact (inStep_notify (k.lines_refl _)).toHalt.bind fun _ _ _ => .pure rfl
  | some courier =>
    refine (inStep_notify (k.lines_refl _)).toHalt.bind fun _ _ _ => ?_
    exact (inStep_download (hs.transfers courier hcourier _ _)).bind fun _ _ _ => .pure rfl

/-- Rows with the same bases and areas are served alike, whatever tables they are settled in. -/
theorem inStep_serveAll {R : MountTable → MountTable → Prop}
    (hsettle : ∀ {row row' : MountRow} {t t'} (v : Served), row.SameArea row' → R t t' →
      R (settle t row v) (settle t' row' v))
    (hs : k.Stagers s s') (root : String) {rows rows' : List MountRow}
    (hrows : List.Forall₂ MountRow.SameArea rows rows') (report : StagingReport) {t t' : MountTable}
    (ht : R t t') :
    InStep k k.halt (fun p p' => p'.1 = p.1 ∧ R p.2 p'.2) (s.serveAll root rows report t)
      (s'.serveAll root rows' report t') := by
  induction hrows generalizing report t t' with
  | nil => exact .pure ⟨rfl, ht⟩
  | cons hrow _ ih =>
    refine (inStep_serve hs root hrow).bind fun v v' hv => ?_
    obtain rfl : v = v' := hv
    exact ih (report.add v) (hsettle v hrow ht)

end Stager

end DataStaging
