import DataStaging.Proofs.Files.Likeness
import DataStaging.Proofs.Process.InStep
import DataStaging.Transfer.Transfer
import Mathlib.Data.Nat.Digits.Defs

/-!
# Downloads at two times

The name of a benchmark artifact holds the time at which its download began. Where the clocks of two
hosts differ, so do these names, and with them the arguments of downloads, and the notices and the
fault that show a download's command. Nothing else does.

Results:
* `apart_zero`: texts are the same where the clocks are.
* `commands_download`, `labels_download`: the commands of one download at two times.
-/

namespace DataStaging

/-- The texts are the same, but for the name of an artifact, which may be by `shift` later in the
    second one. -/
def Apart (artifact : Instant → Option String) (shift : Int) (s s' : String) : Prop :=
  s = s' ∨ ∃ now p p' before after, artifact now = some p ∧ artifact (now + shift) = some p' ∧
    s = before ++ p ++ after ∧ s' = before ++ p' ++ after

/-- The starts are the same, but for the name of an artifact among the arguments. -/
structure StartsApart (artifact : Instant → Option String) (shift : Int) (s s' : Start) : Prop where
  program : s'.program = s.program
  env : s'.env = s.env
  args : s.args = s'.args ∨ ∃ now p p' front back, artifact now = some p ∧
    artifact (now + shift) = some p' ∧ s.args = front ++ "--benchmark-out" :: p :: back ∧
    s'.args = front ++ "--benchmark-out" :: p' :: back

/-- The halts are the same, but for the name of an artifact in the label of a run. -/
def HaltsApart (artifact : Instant → Option String) (shift : Int) (e e' : Halt) : Prop :=
  e = e' ∨ ∃ l l' retries status, e = .fault (.retriesExhausted l retries status) ∧
    e' = .fault (.retriesExhausted l' retries status) ∧ Apart artifact shift l l'

variable {artifact : Instant → Option String} {shift : Int} {s s' : String}

/-! ## Texts -/

namespace Apart

theorem append_left (h : Apart artifact shift s s') (t : String) :
    Apart artifact shift (t ++ s) (t ++ s') := by
  rcases h with rfl | ⟨now, p, p', before, after, hp, hp', rfl, rfl⟩
  · exact Or.inl rfl
  · refine Or.inr ⟨now, p, p', t ++ before, after, hp, hp', ?_, ?_⟩ <;>
      simp only [String.append_assoc]

theorem append_right (h : Apart artifact shift s s') (t : String) :
    Apart artifact shift (s ++ t) (s' ++ t) := by
  rcases h with rfl | ⟨now, p, p', before, after, hp, hp', rfl, rfl⟩
  · exact Or.inl rfl
  · refine Or.inr ⟨now, p, p', before, after ++ t, hp, hp', ?_, ?_⟩ <;>
      simp only [String.append_assoc]

end Apart

theorem apart_zero : Apart artifact 0 s s' ↔ s = s' := by
  refine ⟨?_, Or.inl⟩
  rintro (rfl | ⟨now, p, p', before, after, hp, hp', rfl, rfl⟩)
  · rfl
  · rw [Int.add_zero, hp] at hp'
    rw [Option.some.inj hp']

theorem startsApart_zero {s s' : Start} (h : StartsApart artifact 0 s s') : s = s' := by
  obtain ⟨hprogram, henv, hargs⟩ := h
  have hsame : s.args = s'.args := by
    rcases hargs with hsame | ⟨now, p, p', front, back, hp, hp', hargs, hargs'⟩
    · exact hsame
    · rw [Int.add_zero, hp] at hp'
      rw [hargs, hargs', Option.some.inj hp']
  obtain ⟨program, args, env⟩ := s
  obtain ⟨program', args', env'⟩ := s'
  simp_all

/-- A text between two others, where texts are joined. -/
theorem exists_intercalate (sep : String) (front back : List String) :
    ∃ before after, ∀ p, sep.intercalate (front ++ p :: back) = before ++ p ++ after := by
  induction front with
  | nil =>
    cases back with
    | nil => exact ⟨"", "", fun p => by simp⟩
    | cons next back =>
      refine ⟨"", sep ++ sep.intercalate (next :: back), fun p => ?_⟩
      rw [List.nil_append, String.intercalate_cons_cons, String.append_assoc, String.empty_append]
  | cons first front ih =>
    obtain ⟨before, after, hjoin⟩ := ih
    refine ⟨first ++ sep ++ before, after, fun p => ?_⟩
    rw [List.cons_append, String.intercalate_cons_of_ne_nil (by simp), hjoin]
    simp only [String.append_assoc]

theorem Command.withArgs_nil (c : Command) : c.withArgs [] = c := by
  unfold withArgs
  rw [List.append_nil]

/-- The displays of two commands that differ in the name of an artifact. -/
theorem apart_display {c c' : Command}
    (h : StartsApart artifact shift ⟨c.program, c.args, []⟩ ⟨c'.program, c'.args, []⟩) :
    Apart artifact shift c.display c'.display := by
  unfold Command.display
  rw [show c'.program = c.program from h.program]
  rcases h.args with hsame | ⟨now, p, p', front, back, hp, hp', hargs, hargs'⟩
  · rw [show c.args = c'.args from hsame]
    exact Or.inl rfl
  · obtain ⟨before, after, hjoin⟩ :=
      exists_intercalate " " (c.program :: (front ++ ["--benchmark-out"])) back
    refine Or.inr ⟨now, p, p', before, after, hp, hp', ?_, ?_⟩
    · rw [show c.args = _ from hargs, ← hjoin]
      simp
    · rw [show c'.args = _ from hargs', ← hjoin]
      simp

/-! ## Names of artifacts -/

theorem hasNul_append (s s' : String) :
    Command.hasNul (s ++ s') = (Command.hasNul s || Command.hasNul s') := by
  unfold Command.hasNul
  rw [String.toList_append, List.any_append]

theorem hasNul_repr (n : Nat) : Command.hasNul n.repr = false := by
  unfold Command.hasNul
  rw [Nat.toList_repr, List.any_eq_false]
  intro c hc
  have hdigit := Nat.isDigit_of_mem_toDigits (by decide) (by decide) hc
  simp only [Char.isDigit, Bool.and_eq_true, decide_eq_true_eq] at hdigit
  have hle : 48 ≤ c.toNat := hdigit.1
  simp only [decide_eq_true_eq]
  omega

theorem hasNul_int (now : Int) : Command.hasNul (toString now) = false := by
  cases now with
  | ofNat n => exact hasNul_repr n
  | negSucc n =>
    show Command.hasNul ("-" ++ (n + 1).repr) = false
    rw [hasNul_append, hasNul_repr]
    decide

/-- Whether the name of an artifact holds a NUL character does not depend on its time. -/
theorem hasNul_name (operation : String) (now : Int) :
    Command.hasNul (Artifact.name operation now) = Command.hasNul operation := by
  have hbar : Command.hasNul "_" = false := by decide
  have hend : Command.hasNul "_benchmark.json" = false := by decide
  unfold Artifact.name
  rw [hasNul_append, hasNul_append, hasNul_append, hasNul_int, hbar, hend]
  simp

theorem hasNul_join {folder name : String} (h : name.toList.head? ≠ some '/') :
    Command.hasNul (Path.join folder name) = (Command.hasNul folder || Command.hasNul name) := by
  unfold Command.hasNul Path.join Path.joinChars
  rw [if_neg h]
  split_ifs <;> simp

/-! ## Hosts with two clocks -/

/-- Hosts whose clocks differ, and the contents of some files. -/
def Kinship.apart (but : Location → Prop) (artifact : Instant → Option String) (shift : Int) :
    Kinship where
  tree := FileTree.SameBut but
  start := StartsApart artifact shift
  line := Apart artifact shift
  halt := HaltsApart artifact shift
  shift := shift
  ensureDirectory h folder path := FileTree.ensureDirectory_sameBut h folder path
  list h _ _ := FileTree.list_eq h
  line_refl _ := Or.inl rfl
  halt_refl _ := Or.inl rfl

variable {but : Location → Prop}

theorem commands_self (c : Command) : (Kinship.apart but artifact shift).Commands c c :=
  (Kinship.apart but artifact shift).commands_refl (fun _ => ⟨rfl, rfl, Or.inl rfl⟩) c

theorem labels_of_apart {l l' : String} (h : Apart artifact shift l l') :
    (Kinship.apart but artifact shift).Labels l l' where
  exit _ _ _ := ((((h.append_left _).append_right _).append_right _).append_right _).append_right _
  silence _ _ :=
    ((((h.append_left _).append_right _).append_right _).append_right _).append_right _
  spent _ := (((h.append_left _).append_right _).append_right _).append_right _
  halt retries status := Or.inr ⟨l, l', retries, status, rfl, rfl, h⟩

/-- The artifact of a download that begins at a time. -/
def Courier.artifact? (courier : Courier) (now : Instant) : Option String :=
  courier.mover.artifactPath? .download now

theorem hasNul_artifact (folder : String) (now : Instant) :
    Command.hasNul (Path.join folder (Artifact.name Direction.download.name now)) =
      (Command.hasNul folder || Command.hasNul Direction.download.name) := by
  rw [hasNul_join, hasNul_name]
  simp [Artifact.name, Direction.name]

/-- The arguments of a download before the name of its artifact. -/
def Courier.front (courier : Courier) (uri path : String) : List String :=
  courier.mover.command.args ++
    ["data", Direction.download.name, uri, path, "--processes", toString courier.mover.processes]

theorem args_of_none {courier : Courier} {now : Instant} (h : courier.artifact? now = none)
    (uri path : String) :
    (courier.command .download uri path (courier.artifact? now) none).args =
      courier.front uri path := by
  simp [Courier.command, Courier.front, Command.withArgs, Mover.arguments, h]

theorem args_of_some {courier : Courier} {now : Instant} {p : String}
    (h : courier.artifact? now = some p) (uri path : String) :
    (courier.command .download uri path (courier.artifact? now) none).args =
      courier.front uri path ++ ["--benchmark-out", p] := by
  simp [Courier.command, Courier.front, Command.withArgs, Mover.arguments, h]

/-- One download at two times, with some arguments behind its own. -/
theorem startsApart_download (courier : Courier) (uri path : String) (now : Instant) (shift : Int)
    (more : List String) (env : List (String × String)) :
    StartsApart courier.artifact? shift
      ⟨courier.mover.command.program,
        (courier.command .download uri path (courier.artifact? now) none).args ++ more, env⟩
      ⟨courier.mover.command.program,
        (courier.command .download uri path (courier.artifact? (now + shift)) none).args ++ more,
        env⟩ := by
  refine ⟨rfl, rfl, ?_⟩
  cases hfolder : courier.mover.benchmarkFolder with
  | none =>
    have hnone : ∀ now, courier.artifact? now = none := fun now => by
      simp [Courier.artifact?, Mover.artifactPath?, hfolder]
    left
    simp only [args_of_none (hnone _)]
  | some folder =>
    have hsome : ∀ now, courier.artifact? now =
        some (Path.join folder (Artifact.name Direction.download.name now)) := fun now => by
      simp [Courier.artifact?, Mover.artifactPath?, hfolder]
    refine Or.inr ⟨now, _, _, courier.front uri path, more, hsome now, hsome (now + shift), ?_, ?_⟩
    · rw [args_of_some (hsome now)]
      simp
    · rw [args_of_some (hsome (now + shift))]
      simp

theorem any_hasNul_download (courier : Courier) (uri path : String) (now : Instant) :
    (courier.command .download uri path (courier.artifact? now) none).args.any Command.hasNul =
      ((courier.front uri path).any Command.hasNul ||
        courier.mover.benchmarkFolder.any fun folder => Command.hasNul "--benchmark-out" ||
          (Command.hasNul folder || Command.hasNul Direction.download.name)) := by
  cases hfolder : courier.mover.benchmarkFolder with
  | none =>
    rw [args_of_none (by simp [Courier.artifact?, Mover.artifactPath?, hfolder])]
    simp
  | some folder =>
    have hsome : courier.artifact? now =
        some (Path.join folder (Artifact.name Direction.download.name now)) := by
      simp [Courier.artifact?, Mover.artifactPath?, hfolder]
    rw [args_of_some hsome, List.any_append, List.any_cons, List.any_cons, hasNul_artifact,
      List.any_nil, Bool.or_false, Option.any_some]

theorem isUnstartable_download (courier : Courier) (uri path : String) (now : Instant)
    (more : List String) :
    ((courier.command .download uri path
        (courier.artifact? now) none).withArgs more).isUnstartable =
      (Command.hasNul courier.mover.command.program ||
        ((courier.front uri path).any Command.hasNul ||
          (courier.mover.benchmarkFolder.any fun folder => Command.hasNul "--benchmark-out" ||
            (Command.hasNul folder || Command.hasNul Direction.download.name)) ||
          more.any Command.hasNul) ||
        courier.mover.command.env.any fun p => Command.hasNul p.1 || Command.hasNul p.2) := by
  rw [← any_hasNul_download courier uri path now, ← List.any_append]
  rfl

theorem commands_download (courier : Courier) (uri path : String) (now : Instant)
    (more : List String) : (Kinship.apart but courier.artifact? shift).Commands
      ((courier.command .download uri path (courier.artifact? now) none).withArgs more)
      ((courier.command .download uri path (courier.artifact? (now + shift)) none).withArgs more)
    where
  program := Eq.refl courier.mover.command.program
  unstartable := by rw [isUnstartable_download, isUnstartable_download]
  start env := startsApart_download courier uri path now shift more
    (Host.overlay env courier.mover.command.env)

theorem labels_download (courier : Courier) (uri path : String) (now : Instant) :
    (Kinship.apart but courier.artifact? shift).Labels
      (courier.command .download uri path (courier.artifact? now) none).display
      (courier.command .download uri path (courier.artifact? (now + shift)) none).display := by
  refine labels_of_apart (apart_display ?_)
  have hstarts := startsApart_download courier uri path now shift [] []
  rwa [List.append_nil, List.append_nil] at hstarts

end DataStaging
