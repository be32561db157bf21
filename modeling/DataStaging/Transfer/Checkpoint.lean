import DataStaging.Process.Retry

/-!
# Checkpoints

A folder is uploaded at regular intervals until a stop is seen, and once more after that. A periodic
upload that fails is forgotten; the last one decides.
-/

namespace DataStaging.Checkpoint

/-- Whether an upload succeeded; only a fault may be forgotten. -/
def attempt (upload : Act σ Unit) : Act σ Bool :=
  tryCatch (do upload; return true) (fun
    | .fault _ => return false
    | halt => throw halt)

/-- Sleeps and uploads until `sleep` sees a stop, for at most `rounds` rounds, then uploads once
    more. Gives how many uploads succeeded, `uploads` before this; in all they are fewer than
    `2 ^ 32`. -/
def run (sleep : Act σ Bool) (upload : Act σ Unit) : Nat → Nat → Act σ Nat
  | 0, _ => throw .stuck
  | rounds + 1, uploads => do
    if ← sleep then
      upload
      return uploads + 1
    else if ← attempt upload then run sleep upload rounds (uploads + 1)
    else run sleep upload rounds uploads

end DataStaging.Checkpoint
