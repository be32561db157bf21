import DataStaging.Mount.Mounting
import DataStaging.Proofs.Process.Starts

/-!
# A mount that holds something

What a run of the mount client leaves behind, and what makes a mount succeed at once: the client has
ended well and there is something in the folder.

Results:
* `run_mount`: a mount whose first attempt leaves something in the folder.
* `run_mount_of_objectClient`: a mount by a client that leaves one object.
-/

namespace DataStaging

open Utf8 (encode)

variable {h : Host} {command : Command} {program : Program} {total : Nat}

/-! ## Mounting -/

namespace Mounting

theorem run_call (hnul : command.isUnstartable = false)
    (hprogram : h.programs command.program = some program)
    (htotal : (program (h.occasion command)).total? = some total) (hdrops : h.dropsOnStop = false) :
    (call command).run h = (.ok (.ok (Output.ofBehaviour (program (h.occasion command)))),
      h.afterRun command (program (h.occasion command)) total) := by
  unfold call
  refine run_tryCatch_of_ok ?_ _
  rw [run_bind_of_ok (run_once hnul hprogram htotal hdrops)]
  rfl

theorem run_callClient (hnul : command.isUnstartable = false)
    (hprogram : h.programs command.program = some program)
    (htotal : (program (h.occasion command)).total? = some total) (hdrops : h.dropsOnStop = false) :
    (callClient command).run h =
      (.ok (verdict (Output.ofBehaviour (program (h.occasion command)))),
        h.afterRun command (program (h.occasion command)) total) := by
  unfold callClient
  rw [run_bind_of_ok (run_call hnul hprogram htotal hdrops)]
  rfl

theorem run_isEmpty {localPath : String} {names : List FileName}
    (hlist : h.tree.list h.folder (encode localPath) = .ok names) :
    (isEmpty localPath).run h = (.ok names.isEmpty, h) := by
  unfold isEmpty
  rw [run_get_bind, hlist]
  rfl

variable {client : MountClient} {credentials : Credentials} {credential : Credential}
  {locator : Locator} {localPath : String} {cache : MountCache} {tree : FileTree} {b : Behaviour}
  {names : List FileName}

/-- The command of each attempt to mount a locator. -/
def mountCommand (client : MountClient) (credential : Credential) (locator : Locator)
    (localPath : String) (cache : MountCache) : Command :=
  credential.env.foldl (fun c v => c.withEnv v.1 v.2) (client.mountOf locator localPath cache)

/-- A client that ends well and leaves something in the folder is not called again. -/
theorem run_attempts {left : Nat} (hnul : command.isUnstartable = false)
    (hprogram : h.programs command.program = some program)
    (hb : program (h.occasion command) = b) (htotal : b.total? = some total)
    (hended : b.ending = some 0) (hdrops : h.dropsOnStop = false)
    (hlist : b.tree.list h.folder (encode localPath) = .ok names) (hnames : names ≠ []) :
    ∃ h', (attempts client locator localPath command (left + 1)).run h = (.ok false, h') ∧
      h'.tree = b.tree ∧ h'.folder = h.folder ∧ h'.env = h.env ∧ h'.programs = h.programs ∧
      h'.dropsOnStop = false := by
  subst hb
  have hcall := run_callClient hnul hprogram htotal hdrops
  have hverdict : verdict (Output.ofBehaviour (program (h.occasion command))) = .succeeded := by
    unfold verdict
    rw [if_pos]
    simp [Output.succeeded, Output.ofBehaviour, hended]
  have hempty : names.isEmpty = false := by simp [hnames]
  rw [hverdict] at hcall
  let h₁ := h.afterRun command (program (h.occasion command)) total
  let h₂ := { h₁ with notices := h₁.notices ++ [] }
  let h₃ := { h₂ with notices := h₂.notices ++ [mounted locator localPath] }
  have hsilent : (Host.notify []).run h₁ = (.ok (), h₂) := rfl
  have hlisted : (isEmpty localPath).run h₂ = (.ok names.isEmpty, h₂) := run_isEmpty hlist
  refine ⟨h₃, ?_, rfl, rfl, rfl, rfl, hdrops⟩
  rw [attempts, run_bind_of_ok hcall]
  refine Eq.trans (run_bind_of_ok hsilent _) ?_
  rw [if_neg (by decide), run_bind_of_ok hlisted, hempty]
  rfl

/-- A mount whose first attempt leaves something in the folder. -/
theorem run_mount (hcredential : credentials.lookup locator.bucket.profile = some credential)
    (hcache : cache.enabled? = none) (hattempts : 1 ≤ client.attempts)
    (hdirectory : h.tree.ensureDirectory h.folder localPath = (.ok (), tree))
    (hcommand : mountCommand client credential locator localPath cache = command)
    (hnul : command.isUnstartable = false)
    (hprogram : h.programs command.program = some program)
    (hb : program ({ h with tree := tree }.occasion command) = b) (htotal : b.total? = some total)
    (hended : b.ending = some 0) (hdrops : h.dropsOnStop = false)
    (hlist : b.tree.list h.folder (encode localPath) = .ok names) (hnames : names ≠ []) :
    ∃ h', (mount client credentials locator localPath cache).run h = (.ok false, h') ∧
      h'.tree = b.tree ∧ h'.folder = h.folder ∧ h'.env = h.env ∧ h'.programs = h.programs ∧
      h'.dropsOnStop = false := by
  have hensure := Host.run_ensureDirectory hdirectory
  obtain ⟨left, hleft⟩ : ∃ left, client.attempts = left + 1 := ⟨client.attempts - 1, by omega⟩
  unfold mount
  rw [hcredential]
  simp only [hcache]
  rw [run_bind_of_ok hensure, hleft]
  unfold mountCommand at hcommand
  rw [hcommand]
  exact run_attempts (h := { h with tree := tree }) hnul hprogram hb htotal hended hdrops hlist
    hnames

/-! ## A client that leaves an object -/

/-- A mount client that leaves an empty object in the folder it is called for. -/
def objectClient : Program := fun o =>
  { tree := Script.orKeep o.tree
      (o.tree.writeFile o.folder (encode (Script.argument o.start.args 2 ++ "/object")) [])
    emissions := []
    closing := none
    lasting := some 0
    ending := some 0
    stopRequest := none }

/-- The host has the files `t` and such a client, and drops nothing. -/
structure Serves (h : Host) (t : FileTree) : Prop where
  tree_eq : h.tree = t
  folder_eq : h.folder = []
  client_eq : h.programs Defaults.mountProgram = some objectClient
  drops_eq : h.dropsOnStop = false

/-- A host with this client and a folder for mounts. -/
def clientHost : Host where
  tree := ⟨[([encode "mnt"], .directory)]⟩
  folder := []
  env := []
  programs name := if name = Defaults.mountProgram then some objectClient else none
  clock := 0
  epoch := 0
  connection := ⟨[], ⟨0⟩, none⟩
  reaches _ := true
  processors := 1
  jitter := 0
  stopAt := none
  dropsOnStop := false
  patience := 0
  starts := []
  notices := []

theorem argument_mountCommand (credential : Credential) (locator : Locator) (localPath : String)
    (cache : MountCache) :
    Script.argument (mountCommand .standard credential locator localPath cache).args 2 =
      localPath := rfl

/-- Where the object can be left, the folder is mounted. -/
theorem run_mount_of_objectClient {t t₂ : FileTree} (credential : Credential) (t₁ : FileTree)
    (names : List FileName) (hserves : Serves h t)
    (hcredential : credentials.lookup locator.bucket.profile = some credential)
    (hnul : (mountCommand .standard credential locator localPath .none).isUnstartable = false)
    (hdirectory : t.ensureDirectory [] localPath = (.ok (), t₁))
    (hobject : t₁.writeFile [] (encode (localPath ++ "/object")) [] = .ok t₂)
    (hlist : t₂.list [] (encode localPath) = .ok names) (hnames : names ≠ []) :
    ∃ h', (mount .standard credentials locator localPath .none).run h = (.ok false, h') ∧
      Serves h' t₂ := by
  obtain ⟨htree, hfolder, hclient, hdrops⟩ := hserves
  subst htree
  rw [← hfolder] at hdirectory hobject hlist
  let command := mountCommand .standard credential locator localPath .none
  have hleft : (objectClient ({ h with tree := t₁ }.occasion command)).tree = t₂ := by
    unfold objectClient Host.occasion
    simp only [command, argument_mountCommand, hobject]
    rfl
  obtain ⟨h', hrun, htree', hfolder', -, hprograms', hdrops'⟩ := run_mount hcredential rfl
    (by decide) hdirectory rfl hnul hclient rfl rfl rfl hdrops (by rw [hleft]; exact hlist) hnames
  refine ⟨h', hrun, ?_, ?_, ?_, hdrops'⟩
  · rw [htree']
    exact hleft
  · rw [hfolder', hfolder]
  · rw [hprograms', hclient]

end Mounting

end DataStaging
