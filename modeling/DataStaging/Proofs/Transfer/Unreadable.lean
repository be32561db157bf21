import DataStaging.Proofs.Files.Additions
import DataStaging.Proofs.Process.Accounting
import DataStaging.Transfer.Transfer

/-!
# Transfers with a locator that cannot be read

Such a transfer starts no program. An upload reads its locator before it does anything and leaves
the host as it was. A download makes its folder before that. So the folder is left behind, with
those above it; and where it cannot be made, the fault that shows is that of the files and not that
of the locator.

Results:
* `run_of_unreadable`: what either transfer comes to, and exactly when a download has no effect.
-/

namespace DataStaging.Courier

variable {uri : String} {flaw : LocatorFlaw}

/-- A transfer reads its locator before it looks at anything else. -/
theorem run_move_of_unreadable (hflaw : Locator.read uri = .error flaw) (courier : Courier)
    (direction : Direction) (path : String) (pattern : Option String) (h : Host) :
    (courier.move direction uri path pattern).run h =
      (.error (.fault (.invalidLocator uri flaw.message)), h) := by
  have hparse : Locator.parse uri = .error (.invalidLocator uri flaw.message) := by
    rw [Locator.parse, hflaw]
    rfl
  unfold move
  rw [hparse]
  rfl

/-- The fault of a download with an unreadable locator, where making its folder comes to this. -/
def downloadFault (uri : String) (flaw : LocatorFlaw) : Except IoFault Unit → Fault
  | .ok () => .invalidLocator uri flaw.message
  | .error fault => .io fault

theorem run_download_of_unreadable (hflaw : Locator.read uri = .error flaw) (courier : Courier)
    (path : String) (pattern : Option String) (h : Host) :
    (courier.download uri path pattern).run h =
      (.error (.fault (downloadFault uri flaw (h.tree.ensureDirectory h.folder path).1)),
        { h with tree := (h.tree.ensureDirectory h.folder path).2 }) := by
  unfold download
  rcases hmade : h.tree.ensureDirectory h.folder path with ⟨made, tree⟩
  cases made with
  | ok u =>
    rw [run_bind_of_ok (Host.run_ensureDirectory hmade)]
    exact run_move_of_unreadable hflaw courier .download path pattern _
  | error fault =>
    unfold Host.ensureDirectory Host.changeTree
    rw [bind_assoc, run_get_bind]
    simp only [hmade]
    rfl

/-- Where the locator cannot be read, an upload fails for that reason and leaves the host as it was.
    A download changes the files only, to which it adds directories; and it fails for the same
    reason and leaves the host as it was exactly where its path is empty or leads to a directory. -/
theorem run_of_unreadable (hflaw : Locator.read uri = .error flaw) (courier : Courier)
    (path : String) (pattern : Option String) (h : Host) :
    let refusal := Fault.invalidLocator uri flaw.message
    let made := h.tree.ensureDirectory h.folder path
    refusal.exitStatus = 2 ∧
      (courier.upload path uri pattern).run h = (.error (.fault refusal), h) ∧
      (courier.download uri path pattern).run h =
        (.error (.fault (downloadFault uri flaw made.1)), { h with tree := made.2 }) ∧
      FileTree.Adds (· = .directory) h.tree made.2 ∧
      ((courier.download uri path pattern).run h = (.error (.fault refusal), h) ↔
        path = "" ∨ h.tree.isDirectory h.folder (Utf8.encode path) = true) := by
  have hdownload := run_download_of_unreadable hflaw courier path pattern h
  refine ⟨rfl, run_move_of_unreadable hflaw courier .upload path pattern h, hdownload,
    FileTree.adds_ensureDirectory h.tree h.folder path, ?_⟩
  rw [hdownload, ← FileTree.ensureDirectory_eq_self_iff]
  rcases h.tree.ensureDirectory h.folder path with ⟨fault | _, tree⟩
  · -- the folder cannot be made
    constructor
    · intro hsame
      have hfault : (.error (.fault (.io fault)) : Except Halt RunReport) =
        .error (.fault (.invalidLocator uri flaw.message)) := congrArg Prod.fst hsame
      cases hfault
    · intro hsame
      cases hsame
  · constructor
    · intro hsame
      exact Prod.ext rfl (congrArg (fun r => r.2.tree) hsame)
    · intro hsame
      cases hsame
      rfl

/-! ## Downloads from nowhere -/

/-- A host without files whose programs succeed, and one where a file has the name `in`. -/
def emptyHost : Host := Retry.stage fun _ => .succeeded ()

def blockedHost : Host := { emptyHost with tree := ⟨[([Utf8.encode "in"], .file [])]⟩ }

/-- A download from nowhere leaves its folder behind; and behind a file of the folder's name, it
    fails for another reason and with another status. -/
theorem unreadable_download_leaves_folder :
    Locator.read "nope://x" = .error (.unsupportedScheme "nope") ∧
      (download ⟨.standard 2, .standard⟩ "nope://x" "in" none).run emptyHost =
        (.error (.fault (.invalidLocator "nope://x" "unsupported scheme 'nope'")),
          { emptyHost with tree := ⟨[([Utf8.encode "in"], .directory)]⟩ }) ∧
      (download ⟨.standard 2, .standard⟩ "nope://x" "in" none).run blockedHost =
        (.error (.fault (.io .exists)), blockedHost) ∧
      (Fault.io .exists).exitStatus = 1 := by
  have hflaw : Locator.read "nope://x" = .error (.unsupportedScheme "nope") := by decide +kernel
  refine ⟨hflaw, ?_, ?_, rfl⟩
  · have hmade : emptyHost.tree.ensureDirectory emptyHost.folder "in" =
        (.ok (), ⟨[([Utf8.encode "in"], .directory)]⟩) := by decide +kernel
    obtain ⟨-, -, hdownload, -⟩ :=
      run_of_unreadable hflaw ⟨.standard 2, .standard⟩ "in" none emptyHost
    rw [hdownload, hmade]
    rfl
  · have hmade : blockedHost.tree.ensureDirectory blockedHost.folder "in" =
        (.error .exists, blockedHost.tree) := by decide +kernel
    obtain ⟨-, -, hdownload, -⟩ :=
      run_of_unreadable hflaw ⟨.standard 2, .standard⟩ "in" none blockedHost
    rw [hdownload, hmade]
    rfl

end DataStaging.Courier
