import DataStaging.Proofs.Mount.Mounted
import Mathlib.Tactic.Common

/-!
# Mounting anywhere

What mounting needs from outside: commands that are called and answer, directories that are made, a
look into a folder, and notices. On a host a command either can be started or cannot; elsewhere it
may be missing at one attempt and there at the next.

Results:
* `mount_eq_mountIn`: mounting on a host is mounting in the world of that host.
* `run_attemptsIn_timedOut`, `run_attemptsIn_empty`, `run_attemptsIn_populated`: the three ways in
  which an attempt goes.
-/

namespace DataStaging.Mounting

open Utf8 (encode)

variable {σ : Type}

/-- What mounting finds outside. A command that cannot be started is answered with a fault. -/
structure World (σ : Type) where
  call : Command → Act σ (Except Fault Output)
  ensureDirectory : String → Act σ Unit
  isEmpty : String → σ → Bool
  notify : Notices → σ → σ
  isEmpty_notify : ∀ path lines s, isEmpty path (notify lines s) = isEmpty path s

/-! ## Mounting -/

/-- What the mount client said by its answer. -/
def saidBy : Except Fault Output → ClientVerdict
  | .ok o => verdict o
  | .error fault => .notStarted fault.message

/-- Makes the local folder, and the folder of the cache if there is one. -/
def prepareIn (w : World σ) (localPath : String) (cache : MountCache) : Act σ Unit := do
  w.ensureDirectory localPath
  match cache.enabled? with
  | some (folder, _) => w.ensureDirectory folder
  | none => pure ()

/-- Makes the attempts that are left. Gives whether the folder is empty. -/
def attemptsIn (w : World σ) (client : MountClient) (locator : Locator) (localPath : String)
    (command : Command) : Nat → Act σ Bool
  | 0 => return true
  | left + 1 => do
    let attempt := client.attempts - left
    let v := saidBy (← w.call command)
    modify (w.notify (verdictNotice locator localPath attempt client.attempts v))
    if v = .timedOut then attemptsIn w client locator localPath command left
    else if w.isEmpty localPath (← get) then
      modify (w.notify [stillEmpty locator attempt client.attempts])
      let _ ← w.call (client.unmountOf localPath)
      attemptsIn w client locator localPath command left
    else
      modify (w.notify [mounted locator localPath])
      return false

/-- Mounts a locator on a local folder. Gives whether the folder is empty afterwards. -/
def mountIn (w : World σ) (client : MountClient) (credentials : Credentials) (locator : Locator)
    (localPath : String) (cache : MountCache) : Act σ Bool := do
  match credentials.lookup locator.bucket.profile with
  | none =>
    modify (w.notify [missingCredentials locator.bucket.profile locator])
    return true
  | some credential =>
    prepareIn w localPath cache
    attemptsIn w client locator localPath
      (mountCommand client credential locator localPath cache) client.attempts

/-! ## The world of a host -/

/-- Whether a folder of a host has nothing in it. -/
def hasNothing (localPath : String) (h : Host) : Bool :=
  match h.tree.list h.folder (encode localPath) with
  | .ok names => names.isEmpty
  | .error _ => true

/-- The world of a host. -/
def hostWorld : World Host where
  call := call
  ensureDirectory := Host.ensureDirectory
  isEmpty := hasNothing
  notify lines h := { h with notices := h.notices ++ lines }
  isEmpty_notify _ _ _ := rfl

variable {client : MountClient} {locator : Locator} {localPath : String} {command : Command}

theorem run_isEmpty_eq (localPath : String) (h : Host) :
    (isEmpty localPath).run h = (.ok (hasNothing localPath h), h) := by
  unfold isEmpty hasNothing
  rw [run_get_bind]
  cases h.tree.list h.folder (encode localPath) <;> rfl

theorem run_callClient_eq (command : Command) (h : Host) : (callClient command).run h =
    (((call command).run h).1.map saidBy, ((call command).run h).2) := by
  unfold callClient
  rcases hrun : (call command).run h with ⟨o, h₁⟩
  cases o with
  | error halt =>
    rw [run_bind_of_error hrun]
    rfl
  | ok answer =>
    rw [run_bind_of_ok hrun]
    cases answer <;> rfl

theorem attempts_eq_attemptsIn (client : MountClient) (locator : Locator) (localPath : String)
    (command : Command) (left : Nat) : attempts client locator localPath command left =
      attemptsIn hostWorld client locator localPath command left := by
  induction left with
  | zero => rfl
  | succ left ih =>
    funext h
    change (attempts client locator localPath command (left + 1)).run h =
      (attemptsIn hostWorld client locator localPath command (left + 1)).run h
    have hclient := run_callClient_eq command h
    rw [attempts, attemptsIn]
    rcases hrun : (call command).run h with ⟨o, h₁⟩
    rw [hrun] at hclient
    have hcall : (hostWorld.call command).run h = (o, h₁) := hrun
    have hnotify : ∀ lines h, (Host.notify lines).run h = (.ok (), hostWorld.notify lines h) :=
      fun _ _ => rfl
    cases o with
    | error halt => rw [run_bind_of_error hclient, run_bind_of_error hcall]
    | ok answer =>
      rw [run_bind_of_ok hclient, run_bind_of_ok hcall]
      refine (run_bind_of_ok (hnotify _ _) _).trans ?_
      rw [run_modify_bind]
      split_ifs with hv
      · rw [ih]
      · rw [run_bind_of_ok (run_isEmpty_eq localPath _), run_get_bind]
        have hlook : ∀ h, hostWorld.isEmpty localPath h = hasNothing localPath h := fun _ => rfl
        rw [hlook]
        split_ifs with hempty
        · refine (run_bind_of_ok (hnotify _ _) _).trans ?_
          rw [run_modify_bind, ih]
          exact congrArg (fun x : Act Host Bool => x.run _) (bind_assoc _ _ _)
        · rfl

/-- Mounting on a host is mounting in its world. -/
theorem mount_eq_mountIn (client : MountClient) (credentials : Credentials) (locator : Locator)
    (localPath : String) (cache : MountCache) : mount client credentials locator localPath cache =
      mountIn hostWorld client credentials locator localPath cache := by
  unfold mount mountIn
  cases credentials.lookup locator.bucket.profile with
  | none => rfl
  | some credential =>
    simp only [attempts_eq_attemptsIn, prepareIn, bind_assoc]
    cases cache.enabled? <;> rfl

/-! ## Attempts -/

section

variable {w : World σ} {left : Nat} {s s₁ s₂ : σ} {answer answer' : Except Fault Output}

/-- The world after the notice about an answer of the client. -/
def World.told (w : World σ) (client : MountClient) (locator : Locator) (localPath : String)
    (left : Nat) (answer : Except Fault Output) (s : σ) : σ :=
  w.notify (verdictNotice locator localPath (client.attempts - left) client.attempts
    (saidBy answer)) s

theorem run_attemptsIn_timedOut (hcall : (w.call command).run s = (.ok answer, s₁))
    (hsaid : saidBy answer = .timedOut) :
    (attemptsIn w client locator localPath command (left + 1)).run s =
      (attemptsIn w client locator localPath command left).run
        (w.told client locator localPath left answer s₁) := by
  rw [attemptsIn, run_bind_of_ok hcall, run_modify_bind, if_pos hsaid]
  rfl

theorem run_attemptsIn_empty (hcall : (w.call command).run s = (.ok answer, s₁))
    (hsaid : saidBy answer ≠ .timedOut) (hempty : w.isEmpty localPath s₁ = true)
    (hunmount : (w.call (client.unmountOf localPath)).run
      (w.notify [stillEmpty locator (client.attempts - left) client.attempts]
        (w.told client locator localPath left answer s₁)) = (.ok answer', s₂)) :
    (attemptsIn w client locator localPath command (left + 1)).run s =
      (attemptsIn w client locator localPath command left).run s₂ := by
  rw [attemptsIn, run_bind_of_ok hcall, run_modify_bind, if_neg hsaid, run_get_bind,
    w.isEmpty_notify, if_pos hempty, run_modify_bind]
  exact run_bind_of_ok hunmount _

theorem run_attemptsIn_populated (hcall : (w.call command).run s = (.ok answer, s₁))
    (hsaid : saidBy answer ≠ .timedOut) (hempty : w.isEmpty localPath s₁ = false) :
    (attemptsIn w client locator localPath command (left + 1)).run s =
      (.ok false, w.notify [mounted locator localPath]
        (w.told client locator localPath left answer s₁)) := by
  rw [attemptsIn, run_bind_of_ok hcall, run_modify_bind, if_neg hsaid, run_get_bind,
    w.isEmpty_notify, hempty, if_neg Bool.false_ne_true, run_modify_bind]
  rfl

end

end DataStaging.Mounting
