import DataStaging.Proofs.Staging.Errands
import DataStaging.Proofs.Staging.InStep
import DataStaging.Proofs.Staging.Offers

/-!
# Where key pairs go, and where they do not show

A key pair is handed to the mount client of the rows whose profile it is kept for. Nothing that the
agent writes, and nothing that a program is called with, is made from one. So stagings that differ
in their key pairs alone cannot be told apart by what is left of them, if no program looks at its
variables.

Results:
* `stagers_withRing`: stagers with other pairs for the same profiles start their commands alike.
* `exists_stages_withRing`, `serves_alike_withRing`: what shows of their stagings is the same.
* `secrets_of_stages`: where the key pairs of a staging go, and that they do not show.
-/

namespace DataStaging

open Utf8 (encode)

/-! ## What shows without variables -/

/-- Starts of the same program with the same arguments. -/
def Start.SameCall (s s' : Start) : Prop := s'.program = s.program ∧ s'.args = s.args

/-- Hosts that differ in nothing but the variables with which programs were started. -/
def Kinship.hushed : Kinship where
  tree := Eq
  start := Start.SameCall
  line := Eq
  halt := Eq
  shift := 0
  ensureDirectory := by
    rintro t _ rfl folder path
    exact ⟨rfl, rfl⟩
  list := by
    rintro t _ rfl folder path
    rfl
  line_refl _ := rfl
  halt_refl _ := rfl

/-- The program does the same, with whatever variables it and those before it were started. -/
def Program.IgnoresVariables (p : Program) : Prop :=
  ∀ o o', Kinship.hushed.Occasions o o' → p o = p o'

/-- What is left on two hosts is the same: the files, the notices, and the programs that were
    started, with their arguments. -/
structure Host.LooksLike (h h' : Host) : Prop where
  tree : h'.tree = h.tree
  notices : h'.notices = h.notices
  starts : List.Forall₂ Start.SameCall h.starts h'.starts

variable {h h' : Host}

theorem hosts_hushed (h : Host) (hignore : ∀ name, ∀ p ∈ h.programs name, p.IgnoresVariables) :
    Kinship.hushed.Hosts h h where
  tree := rfl
  folder := rfl
  env := rfl
  programs name := by
    cases hp : h.programs name with
    | none => exact .none
    | some p =>
      refine .some fun o o' ho => ?_
      rw [hignore name p hp o o' ho]
      exact ⟨rfl, rfl, rfl, rfl, rfl, rfl⟩
  clock := rfl
  epoch := (Int.add_zero _).symm
  connection := rfl
  jitter := rfl
  stopAt := rfl
  dropsOnStop := rfl
  patience := rfl
  starts := List.forall₂_same.mpr fun _ _ => ⟨rfl, rfl⟩
  notices := List.forall₂_same.mpr fun _ _ => rfl

theorem looksLike_of_hosts (hk : Kinship.hushed.Hosts h h') : h.LooksLike h' where
  tree := hk.tree.symm
  notices := by
    have hsame : List.Forall₂ Eq h.notices h'.notices := hk.notices
    rw [List.forall₂_eq_eq_eq] at hsame
    exact hsame.symm
  starts := hk.starts

/-! ## Key rings -/

namespace KeyRing

/-- No key pair of the ring holds a NUL character. -/
def NulFree (ring : KeyRing) : Prop :=
  ∀ profile, ∀ pair ∈ ring.lookup profile,
    Command.hasNul pair.keyId = false ∧ Command.hasNul pair.secret = false

/-- The rings have key pairs for the same profiles, and none with a NUL character. -/
structure Alike (ring ring' : KeyRing) : Prop where
  profiles : ∀ profile, (ring'.lookup profile).isSome = (ring.lookup profile).isSome
  nulFree : ring.NulFree
  nulFree' : ring'.NulFree

end KeyRing

/-- A key pair without NUL characters keeps no mount from being started. -/
theorem Mounting.isUnstartable_mountCommand {pair : Credential}
    (hpair : Command.hasNul pair.keyId = false ∧ Command.hasNul pair.secret = false)
    (client : MountClient) (locator : Locator) (localPath : String) (cache : MountCache) :
    (mountCommand client pair locator localPath cache).isUnstartable =
      (client.mountOf locator localPath cache).isUnstartable := by
  have hkey : Command.hasNul Credential.keyVariable = false := by decide
  have hsecret : Command.hasNul Credential.secretVariable = false := by decide
  simp [mountCommand, Credential.env, Command.withEnv, Command.isUnstartable, hpair, hkey, hsecret]

namespace Stager

/-- The stager with these key pairs. -/
def withRing (stager : Stager) (ring : KeyRing) : Stager :=
  { stager with credentials := .ring ring }

variable {stager : Stager} {ring ring' : KeyRing} {a : Assignment} {h₁ : Host}
  {served : Option MountTable} {r : Except Halt StagingReport}

theorem stagers_withRing (halike : ring.Alike ring') :
    Kinship.hushed.Stagers (stager.withRing ring) (stager.withRing ring') where
  client := rfl
  cache := rfl
  courier := rfl
  mounts profile := by
    have hsome := halike.profiles profile
    have hclean := halike.nulFree profile
    have hclean' := halike.nulFree' profile
    show Option.Rel _ (ring.lookup profile) (ring'.lookup profile)
    generalize ring.lookup profile = o, ring'.lookup profile = o' at hsome hclean hclean'
    cases o with
    | none =>
      obtain rfl : o' = none := by simpa using hsome
      exact .none
    | some pair =>
      obtain ⟨pair', rfl⟩ := Option.isSome_iff_exists.mp hsome
      refine .some fun locator localPath => ⟨rfl, ?_, fun _ => ⟨rfl, rfl⟩⟩
      rw [Mounting.isUnstartable_mountCommand (hclean pair rfl),
        Mounting.isUnstartable_mountCommand (hclean' pair' rfl)]
  unmounts _ := Kinship.hushed.commands_refl (fun _ => ⟨rfl, rfl⟩) _
  transfers courier _ uri path now := by
    have hnow : now + Kinship.hushed.shift = now := Int.add_zero now
    refine ⟨?_, ?_, ?_⟩ <;> rw [hnow]
    · exact Kinship.hushed.commands_refl (fun _ => ⟨rfl, rfl⟩) _
    · exact Kinship.hushed.commands_refl (fun _ => ⟨rfl, rfl⟩) _
    · exact Kinship.hushed.labels_refl _

theorem inStep_withRing (halike : ring.Alike ring') (root : String) (table : MountTable) :
    InStep Kinship.hushed Eq Eq ((stager.withRing ring).serveTable root table)
      ((stager.withRing ring').serveTable root table) := by
  have hsettle : ∀ {row row' : MountRow} {t t' : MountTable} (v : Served), row.SameArea row' →
      t = t' → settle t row v = settle t' row' v := by
    rintro row row' t _ v ⟨hbase, -⟩ rfl
    unfold settle
    rw [hbase]
  refine (inStep_serveAll hsettle (stagers_withRing halike) root
    (List.forall₂_same.mpr fun _ _ => ⟨rfl, rfl⟩) _ rfl).mono (fun _ _ he => he) ?_
  rintro ⟨report, served⟩ ⟨report', served'⟩ ⟨hreport, hserved⟩
  exact Prod.ext hreport.symm hserved

/-- With either ring the rows are served to the same outcome. -/
theorem run_withRing (halike : ring.Alike ring')
    (hignore : ∀ name, ∀ p ∈ h.programs name, p.IgnoresVariables) {root : String}
    {table : MountTable} {o : Except Halt (StagingReport × MountTable)}
    (hrun : ((stager.withRing ring).serveTable root table).run h = (o, h₁)) :
    ∃ h₁', ((stager.withRing ring').serveTable root table).run h = (o, h₁') ∧
      Kinship.hushed.Hosts h₁ h₁' := by
  have hinStep : InStep Kinship.hushed Eq Eq ((stager.withRing ring).serveTable root table)
      ((stager.withRing ring').serveTable root table) := inStep_withRing halike root table
  obtain ⟨hout, hkin⟩ := hinStep h h (hosts_hushed h hignore)
  rcases hrun' : ((stager.withRing ring').serveTable root table).run h with ⟨o', h₁'⟩
  rw [hrun, hrun'] at hout hkin
  cases hout with
  | ok hsame | error hsame =>
    subst hsame
    exact ⟨h₁', rfl, hkin⟩

/-! ## Stagings -/

/-- The second pass depends on the files and the folder only. -/
theorem links_congr {table : MountTable} {o : Except Fault LinkReport} {tree : FileTree}
    (htree : h'.tree = h.tree) (hfolder : h'.folder = h.folder) (hlinks : a.Links h table o tree) :
    a.Links h' table o tree := by
  unfold Assignment.Links Assignment.linkJob Assignment.listing at *
  rwa [htree, hfolder]

/-- What a staging comes to with one ring, it may come to with the other, and it looks the same. -/
theorem exists_stages_withRing (halike : ring.Alike ring')
    (hignore : ∀ name, ∀ p ∈ h.programs name, p.IgnoresVariables)
    (hstages : (stager.withRing ring).Stages a h served r h₁) :
    ∃ h₁', (stager.withRing ring').Stages a h served r h₁' ∧ h₁.LooksLike h₁' := by
  cases hstages with
  | refused hans => exact ⟨h, .refused hans, looksLike_of_hosts (hosts_hushed h hignore)⟩
  | halted hans hserve =>
    obtain ⟨h₁', hserve', hkin⟩ := run_withRing halike hignore hserve
    exact ⟨h₁', .halted hans hserve', looksLike_of_hosts hkin⟩
  | @linked _ _ _ h₂ _ tree hans hserve hlinks =>
    obtain ⟨h₂', hserve', hkin⟩ := run_withRing halike hignore hserve
    have hlinks' := links_congr hkin.tree.symm hkin.folder hlinks
    refine ⟨_, .linked hans hserve' hlinks', looksLike_of_hosts ?_⟩
    exact { hkin with tree := rfl }

/-- Whatever the orders of their steps, stagings with either ring write the same notices, start the
    same programs with the same arguments, and come to their second pass with the same table, if
    they come to it. -/
theorem serves_alike_withRing {r' : Except Halt StagingReport} {served' : Option MountTable}
    {h₁' : Host} (halike : ring.Alike ring')
    (hignore : ∀ name, ∀ p ∈ h.programs name, p.IgnoresVariables)
    (hstages : (stager.withRing ring).Stages a h served r h₁)
    (hstages' : (stager.withRing ring').Stages a h served' r' h₁') :
    served' = served ∧ h₁'.notices = h₁.notices ∧
      List.Forall₂ Start.SameCall h₁.starts h₁'.starts := by
  rcases serve_of_stages hstages with
    ⟨fault, hans, rfl, rfl⟩ | ⟨table, o, h₂, hans, hserve, rfl, hh⟩
  · rcases serve_of_stages hstages' with ⟨-, -, rfl, rfl⟩ | ⟨table, -, -, hans', -⟩
    · exact ⟨rfl, rfl, (looksLike_of_hosts (hosts_hushed h₁' hignore)).starts⟩
    · cases Assignment.answer_unique hans' hans
  · obtain ⟨o', h₂', hserve', rfl, hh'⟩ := serve_of_answers hans hstages'
    obtain ⟨h₂'', hserve'', hkin⟩ := run_withRing halike hignore hserve
    obtain ⟨rfl, rfl⟩ := Prod.ext_iff.mp (hserve'.symm.trans hserve'')
    rw [hh, hh']
    exact ⟨rfl, (looksLike_of_hosts hkin).notices, hkin.starts⟩

/-- Key pairs go to mount clients, and they do not show.

    A staging starts programs while it visits rows of its table, each row once, and every one of
    them on an errand that is due for the row. The mount client is started only if there is a pair
    for the row's profile, which is that of every entry of its base, and it sees this pair. The
    program that unmounts and the data mover are handed no pair: of every variable they see what
    their configured commands set, and else what the agent does.

    With other pairs for the same profiles, where no pair holds a NUL character and no program looks
    at its variables, a staging may come to the same result, and then leaves the same files and
    notices and has started the same programs with the same arguments. In whatever order the workers
    of either take their steps, the notices and the calls are the same. -/
theorem secrets_of_stages (hstages : (stager.withRing ring).Stages a h served r h₁) :
    (∃ visits h₂, (stager.withRing ring).Visits a.root h visits h₂ ∧
      h₁ = { h₂ with tree := h₁.tree } ∧
      h₁.starts = h.starts ++ visits.flatMap (·.started) ∧
      (visits = [] ∨ ∃ table, a.Answers h (.ok table) ∧ visits.map (·.row) <+: table.rows) ∧
      ∀ v ∈ visits, ∀ s ∈ v.started, ∃ errand, (stager.withRing ring).Due v.row errand ∧
        s = (errand.command (stager.withRing ring) a.root).startWith h.env ∧
        errand.Sees (stager.withRing ring) (a.listing h).1 h.env s) ∧
    ∀ ring', ring.Alike ring' → (∀ name, ∀ p ∈ h.programs name, p.IgnoresVariables) →
      (∃ h₁', (stager.withRing ring').Stages a h served r h₁' ∧ h₁.LooksLike h₁') ∧
      ∀ served' r' h₁', (stager.withRing ring').Stages a h served' r' h₁' →
        served' = served ∧ h₁'.notices = h₁.notices ∧
        List.Forall₂ Start.SameCall h₁.starts h₁'.starts := by
  refine ⟨?_, fun ring' halike hignore => ⟨exists_stages_withRing halike hignore hstages,
    fun served' r' h₁' => serves_alike_withRing halike hignore hstages⟩⟩
  obtain ⟨visits, h₂, hvisits, hhost, hrows⟩ := visits_of_stages hstages
  have hstarts := starts_of_visits hvisits
  refine ⟨visits, h₂, hvisits, hhost, ?_, hrows, fun v hv s hs => ?_⟩
  · rw [hhost]
    exact hstarts
  · obtain ⟨errand, hdue, rfl⟩ := sent_of_visits hvisits v hv s hs
    exact ⟨errand, hdue, rfl, sees_of_due (described_of_visits hrows v hv) hdue (a.listing h).1⟩

/-- Another pair for the first bucket. -/
def otherStager : Stager := pairStager.withRing ⟨[("s3://b", ⟨"other", "t"⟩)]⟩

/-- The client that leaves an object does not look at its variables. -/
theorem ignoresVariables_objectClient : Mounting.objectClient.IgnoresVariables := by
  intro o o' ho
  unfold Mounting.objectClient
  rw [ho.start.2, ho.folder, show o'.tree = o.tree from ho.tree.symm]

theorem nulFree_single (profile : String) {pair : Credential}
    (hpair : Command.hasNul pair.keyId = false ∧ Command.hasNul pair.secret = false) :
    KeyRing.NulFree ⟨[(profile, pair)]⟩ := by
  intro name found hfound
  unfold KeyRing.lookup at hfound
  rw [List.find?_singleton] at hfound
  split_ifs at hfound
  · cases hfound
    exact hpair
  · cases hfound

theorem alike_rings :
    KeyRing.Alike ⟨[("s3://b", ⟨"k", "s"⟩)]⟩ ⟨[("s3://b", ⟨"other", "t"⟩)]⟩ where
  profiles profile := by
    unfold KeyRing.lookup
    simp only [List.find?_singleton]
    split_ifs <;> rfl
  nulFree := nulFree_single "s3://b" (by decide)
  nulFree' := nulFree_single "s3://b" (by decide)

theorem secrets_of_two_rings : ∃ served h₁ h₁',
    pairStager.Stages pairAssignment (manifestHost (encode pairText)) served
      (.ok ⟨2, 1, 0, 1, ⟨1, 1, 0⟩⟩) h₁ ∧
    otherStager.Stages pairAssignment (manifestHost (encode pairText)) served
      (.ok ⟨2, 1, 0, 1, ⟨1, 1, 0⟩⟩) h₁' ∧
    h₁.LooksLike h₁' := by
  obtain ⟨served, h₁, hstages⟩ := stages_pairStager
  have hpair : pairStager = pairStager.withRing ⟨[("s3://b", ⟨"k", "s"⟩)]⟩ := rfl
  obtain ⟨-, hrings⟩ := secrets_of_stages (hpair ▸ hstages)
  have hignore : ∀ name, ∀ p ∈ (manifestHost (encode pairText)).programs name,
      p.IgnoresVariables := by
    intro name p hp
    unfold manifestHost Mounting.clientHost at hp
    simp only at hp
    split_ifs at hp
    · cases hp
      exact ignoresVariables_objectClient
    · cases hp
  obtain ⟨⟨h₁', hstages', hlooks⟩, -⟩ := hrings _ alike_rings hignore
  exact ⟨served, h₁, h₁', hstages, hstages', hlooks⟩

/-! ## Variables of the agent -/

/-- A program that ends at once. -/
def idleProgram : Program := fun o => ⟨o.tree, [], none, some 0, some 0, none⟩

/-- A host whose agent has an access key among its own variables. -/
def keyedHost (contents : Bytes) : Host :=
  { manifestHost contents with
    env := [(Credential.keyVariable, "ambient")]
    programs := fun name =>
      if name = Defaults.mountProgram ∨ name = Defaults.unmountProgram then some idleProgram
      else none }

/-- A stager that tries each mount once. -/
def onceStager : Stager := { pairStager with client := MountClient.standard.withAttempts 1 }

/-- A client that leaves the folder empty is followed by the program that unmounts. -/
theorem run_attempts_of_idle {client : MountClient} {command : Command} {localPath : String}
    (locator : Locator) (hnul : command.isUnstartable = false)
    (hunmount : (client.unmountOf localPath).isUnstartable = false)
    (hprogram : h.programs command.program = some idleProgram)
    (hprogram' : h.programs client.unmountCommand.program = some idleProgram)
    (hdrops : h.dropsOnStop = false) (hempty : h.tree.list h.folder (encode localPath) = .ok []) :
    ∃ h', (Mounting.attempts client locator localPath command 1).run h = (.ok true, h') ∧
      h'.starts = h.starts ++ [command.startWith h.env] ++
        [(client.unmountOf localPath).startWith h.env] := by
  have hcall : (Mounting.callClient command).run h =
      (.ok .succeeded, h.afterRun command (idleProgram (h.occasion command)) 0) :=
    Mounting.run_callClient hnul hprogram rfl hdrops
  let notice := Mounting.stillEmpty locator (client.attempts - 0) client.attempts
  let h₁ := h.afterRun command (idleProgram (h.occasion command)) 0
  let h₂ := { h₁ with notices := h₁.notices ++ [] }
  let h₃ := { h₂ with notices := h₂.notices ++ [notice] }
  let h₄ := h₃.afterRun (client.unmountOf localPath)
    (idleProgram (h₃.occasion (client.unmountOf localPath))) 0
  have hsilent : (Host.notify []).run h₁ = (.ok (), h₂) := rfl
  have hlisted : (Mounting.isEmpty localPath).run h₂ = (.ok true, h₂) :=
    Mounting.run_isEmpty (h := h₂) hempty
  have hnotice : (Host.notify [notice]).run h₂ = (.ok (), h₃) := rfl
  have hunmounted : (Mounting.unmount client localPath).run h₃ = (.ok (), h₄) :=
    run_bind_of_ok (Mounting.run_call (h := h₃) hunmount hprogram' rfl hdrops) _
  refine ⟨h₄, ?_, rfl⟩
  rw [Mounting.attempts, run_bind_of_ok hcall]
  refine Eq.trans (run_bind_of_ok hsilent _) ?_
  rw [if_neg (by decide), run_bind_of_ok hlisted, if_pos rfl]
  refine Eq.trans (run_bind_of_ok hnotice _) ?_
  rw [run_bind_of_ok hunmounted]
  rfl

theorem run_mount_keyedHost (contents : Bytes) : ∃ h₁,
    (Mounting.mount onceStager.client onceStager.credentials ⟨"s3://b/", .s3 "b", ""⟩ "/mnt/s3_b"
      .none).run (keyedHost contents) = (.ok true, h₁) ∧
    (onceStager.client.unmountOf "/mnt/s3_b").startWith [(Credential.keyVariable, "ambient")] ∈
      h₁.starts := by
  let t := (manifestTree contents).put [encode "mnt", encode "s3_b"] .directory
  have hdirectory : (keyedHost contents).tree.ensureDirectory [] "/mnt/s3_b" = (.ok (), t) := by rfl
  have hpair : onceStager.credentials.lookup (Bucket.s3 "b").profile = some ⟨"k", "s"⟩ := rfl
  let command :=
    Mounting.mountCommand onceStager.client ⟨"k", "s"⟩ ⟨"s3://b/", .s3 "b", ""⟩ "/mnt/s3_b" .none
  have hnul : command.isUnstartable = false := by decide +kernel
  have hunmount : (onceStager.client.unmountOf "/mnt/s3_b").isUnstartable = false := rfl
  obtain ⟨h₁, hrun, hstarts⟩ := run_attempts_of_idle (h := { keyedHost contents with tree := t })
    ⟨"s3://b/", .s3 "b", ""⟩ hnul hunmount rfl rfl rfl (by rfl)
  refine ⟨h₁, ?_, ?_⟩
  · unfold Mounting.mount
    simp only [hpair]
    rw [run_bind_of_ok (Host.run_ensureDirectory hdirectory)]
    exact hrun
  · rw [hstarts]
    exact List.mem_append_right _ List.mem_cons_self

/-- The first bucket is unmounted again. -/
theorem exists_unmount_keyedHost (contents : Bytes) : ∃ s ∈
    ((onceStager.serveTable "/mnt" pairTable).run (keyedHost contents)).2.starts,
      s.program = Defaults.unmountProgram ∧
        s.env.lookup Credential.keyVariable = some "ambient" := by
  obtain ⟨h₁, hmount, hstart⟩ := run_mount_keyedHost contents
  have hserve : (onceStager.serve "/mnt" ⟨"s3://b", none, "s3://b/object"⟩).run
      (keyedHost contents) = _ := run_serve_of_empty rfl (by decide +kernel) hmount
  have hall : (onceStager.serveTable "/mnt" pairTable).run (keyedHost contents) = _ :=
    run_serveAll_cons _ _ hserve
  rcases hrun : (onceStager.serveTable "/mnt" pairTable).run (keyedHost contents) with ⟨o, h₂⟩
  obtain ⟨visits, hvisits, -⟩ := visits_of_serveAll (hall.symm.trans hrun)
  rw [starts_of_visits hvisits]
  exact ⟨_, List.mem_append_left _ hstart, rfl, rfl⟩

/-- The program that unmounts sees the agent's own access key, though its command sets nothing. -/
theorem ambient_key_of_unmount :
    onceStager = onceStager.withRing ⟨[("s3://b", ⟨"k", "s"⟩)]⟩ ∧
    onceStager.client.unmountCommand = ⟨Defaults.unmountProgram, ["-u"], []⟩ ∧
    (keyedHost (encode pairText)).starts = [] ∧
    ∃ served r h₁, onceStager.Stages pairAssignment (keyedHost (encode pairText)) served r h₁ ∧
      ∃ s ∈ h₁.starts, s.program = Defaults.unmountProgram ∧
        s.env.lookup Credential.keyVariable = some "ambient" := by
  obtain ⟨served, hstages⟩ :=
    stages_of_stage onceStager pairAssignment (keyedHost (encode pairText))
  have hanswers : pairAssignment.Answers (keyedHost (encode pairText)) (.ok pairTable) :=
    survey_pairText ▸ pairAssignment.answers_survey
  obtain ⟨o, h₂, hserve, -, hhost⟩ := serve_of_answers hanswers hstages
  obtain ⟨s, hs, hprogram, hkey⟩ := exists_unmount_keyedHost (encode pairText)
  refine ⟨rfl, rfl, rfl, served, _, _, hstages, s, ?_, hprogram, hkey⟩
  rw [show pairAssignment.root = "/mnt" from rfl] at hserve
  rw [hserve] at hs
  rw [hhost]
  exact hs

end Stager

end DataStaging
