import DataStaging.Proofs.Mount.Mounted
import DataStaging.Proofs.Process.Started
import DataStaging.Proofs.Staging.Serving
import DataStaging.Proofs.Staging.Sources
import DataStaging.Proofs.Staging.Stages

/-!
# What programs are started for

A staging starts programs on errands for the rows of its table: the mount client, with the key pair
of the row's profile, the program that unmounts, and the data mover. A key pair is handed to the
mount client of a row only.

Results:
* `lookup_overlay`: what a program sees of a variable.
* `starts_mount`, `starts_download`, `starts_serve`: the errands of a row.
* `sent_of_visits`, `visits_of_stages`: the programs that a staging starts.
* `sees_of_due`: what the programs see that are sent on an errand.
-/

namespace DataStaging

/-! ## Variables -/

namespace Host

theorem lookup_setting (env : List (String × String)) (key value name : String) :
    (env.filter (fun p => p.1 != key) ++ [(key, value)]).lookup name =
      ([(key, value)].lookup name).or (env.lookup name) := by
  rw [List.lookup_append]
  by_cases hname : name = key
  · subst hname
    have hgone : (env.filter (fun p => p.1 != name)).lookup name = none := by
      rw [List.lookup_eq_none_iff]
      intro p hp
      rw [bne_comm]
      exact (List.mem_filter.mp hp).2
    rw [hgone, Option.none_or, List.lookup_cons, beq_self_eq_true]
    rfl
  · have hne : (name == key) = false := by simpa using hname
    have hother : [(key, value)].lookup name = none := by
      rw [List.lookup_cons, hne]
      rfl
    rw [hother, Option.or_none, Option.none_or]
    induction env with
    | nil => rfl
    | cons p env ih =>
      obtain ⟨k, v⟩ := p
      by_cases hk : k = key
      · rw [List.filter_cons_of_neg (by simp [hk]), List.lookup_cons, hk, hne]
        exact ih
      · rw [List.filter_cons_of_pos (by simpa using hk), List.lookup_cons, List.lookup_cons, ih]

/-- What a program sees of a variable is the last setting of its command, and else the agent's. -/
theorem lookup_overlay (env changes : List (String × String)) (name : String) :
    (overlay env changes).lookup name = (changes.reverse.lookup name).or (env.lookup name) := by
  induction changes generalizing env with
  | nil => simp [overlay]
  | cons c rest ih =>
    rw [List.reverse_cons, List.lookup_append, Option.or_assoc, ← lookup_setting, ← ih]
    rfl

end Host

/-- The mount client sees the pair that it is handed, whatever its command or the agent has set. -/
theorem Mounting.lookup_mountCommand (client : MountClient) (pair : Credential) (locator : Locator)
    (localPath : String) (cache : MountCache) (env : List (String × String)) (p : String × String)
    (hp : pair.env.reverse.lookup p.1 = some p.2) :
    (Host.overlay env (mountCommand client pair locator localPath cache).env).lookup p.1 =
      some p.2 := by
  have henv : (mountCommand client pair locator localPath cache).env =
      client.mountCommand.env ++ pair.env := by
    simp [mountCommand, Credential.env, Command.withEnv, MountClient.mountOf, Command.withArgs]
  rw [Host.lookup_overlay, henv, List.reverse_append, List.lookup_append, hp]
  rfl

/-! ## Errands -/

/-- What a program is started for. -/
inductive Errand
  /-- An area is mounted with a key pair. -/
  | mount (row : MountRow) (area : Locator) (pair : Credential)
  | unmount (row : MountRow)
  /-- The area is downloaded; the transfer began at a time. -/
  | transfer (courier : Courier) (row : MountRow) (now : Instant) (resumes : Bool)

namespace Errand

/-- The command of a transfer, or the one that goes on with it. -/
def transferCommand (courier : Courier) (uri path : String) (now : Instant) (resumes : Bool) :
    Command :=
  let command :=
    courier.command .download uri path (courier.mover.artifactPath? .download now) none
  if resumes then command.withArg "--resume" else command

/-- The command that is started on an errand. -/
def command (stager : Stager) (root : String) : Errand → Command
  | mount row area pair =>
    Mounting.mountCommand stager.client pair area (Stager.mountFolder root row) stager.cache
  | unmount row => stager.client.unmountOf (Stager.mountFolder root row)
  | transfer courier row now resumes =>
    transferCommand courier row.area (Stager.downloadFolder root row) now resumes

/-- The program sees of every variable the last setting in `own`, and else what the agent does. -/
def Inherits (own env : List (String × String)) (s : Start) : Prop :=
  ∀ name, s.env.lookup name = (own.reverse.lookup name).or (env.lookup name)

/-- What the program on an errand sees of the key pairs, where the manifest has these entries. The
    mount client sees the pair that is kept for the profile of every entry of the row's base.
    Another program sees what its configured command sets, and else what the agent does. -/
def Sees (stager : Stager) (entries : List ManifestEntry) (env : List (String × String))
    (s : Start) : Errand → Prop
  | mount row _ pair => s.env.lookup Credential.keyVariable = some pair.keyId ∧
      s.env.lookup Credential.secretVariable = some pair.secret ∧
      ∀ e ∈ entries, ∀ l, Locator.parse e.storagePath = .ok l → l.base = row.base →
        stager.credentials.lookup l.bucket.profile = some pair
  | unmount _ => Inherits stager.client.unmountCommand.env env s
  | transfer courier _ _ _ => Inherits courier.mover.command.env env s

end Errand

/-- The errands that are due for a row: it is mounted and unmounted only with a key pair for its
    profile, and downloaded only by a courier. -/
inductive Stager.Due (stager : Stager) (row : MountRow) : Errand → Prop where
  | mount {area : Locator} {pair : Credential} : Locator.parse row.area = .ok area →
      stager.credentials.lookup area.bucket.profile = some pair →
      Due stager row (.mount row area pair)
  | unmount {area : Locator} {pair : Credential} : Locator.parse row.area = .ok area →
      stager.credentials.lookup area.bucket.profile = some pair → Due stager row (.unmount row)
  | transfer {courier : Courier} (now : Instant) (resumes : Bool) :
      stager.courier = some courier → Due stager row (.transfer courier row now resumes)

/-- The program is started on an errand that is due for a row. -/
def Stager.Sent (stager : Stager) (root : String) (env : List (String × String)) (row : MountRow)
    (s : Start) : Prop :=
  ∃ errand, stager.Due row errand ∧ s = (errand.command stager root).startWith env

/-- A visit to a row: the hosts before and after it was served, and the programs started
    meanwhile. -/
structure Visit where
  row : MountRow
  before : Host
  after : Host
  started : List Start

variable {env : List (String × String)} {P : Start → Prop}

/-! ## Mounting and downloading -/

namespace Mounting

theorem starts_call {c : Command} (hc : P (c.startWith env)) : Starts env P (call c) := by
  refine .tryCatch ((starts_once hc).bind fun _ => .pure _) fun e => ?_
  cases e with
  | fault fault => exact .pure _
  | interrupted | stuck | crash reason => exact .throw _

theorem starts_callClient {c : Command} (hc : P (c.startWith env)) :
    Starts env P (callClient c) := by
  refine (starts_call hc).bind fun o => ?_
  cases o with
  | ok o => exact .pure _
  | error fault => exact .pure _

theorem starts_isEmpty (localPath : String) : Starts env P (isEmpty localPath) := by
  refine .get_bind fun h => ?_
  split
  · exact .pure _
  · exact .pure _

theorem starts_attempts {client : MountClient} {localPath : String} {c : Command}
    (hc : P (c.startWith env)) (hunmount : P ((client.unmountOf localPath).startWith env))
    (locator : Locator) (left : Nat) :
    Starts env P (attempts client locator localPath c left) := by
  induction left with
  | zero => exact .pure _
  | succ left ih =>
    refine (starts_callClient hc).bind fun v => (starts_notify _).bind fun _ => ?_
    split_ifs
    · exact ih
    refine (starts_isEmpty localPath).bind fun empty => ?_
    split_ifs
    · exact (starts_notify _).bind fun _ =>
        Starts.bind ((starts_call hunmount).bind fun _ => .pure _) fun _ => ih
    · exact (starts_notify _).bind fun _ => .pure _

/-- Mounting an area starts nothing without a key pair for its profile. -/
theorem starts_mount {client : MountClient} {credentials : Credentials} {locator : Locator}
    {localPath : String} {cache : MountCache}
    (hmount : ∀ pair, credentials.lookup locator.bucket.profile = some pair →
      P ((mountCommand client pair locator localPath cache).startWith env) ∧
        P ((client.unmountOf localPath).startWith env)) :
    Starts env P (mount client credentials locator localPath cache) := by
  unfold mount
  cases hpair : credentials.lookup locator.bucket.profile with
  | none => exact (starts_notify _).bind fun _ => .pure _
  | some pair =>
    obtain ⟨hcommand, hunmount⟩ := hmount pair hpair
    have hattempts := starts_attempts hcommand hunmount locator client.attempts
    refine (starts_ensureDirectory localPath).bind fun _ => ?_
    cases cache.enabled? with
    | none => exact hattempts
    | some p => exact (starts_ensureDirectory p.1).bind fun _ => hattempts

end Mounting

theorem Courier.starts_download {courier : Courier} {uri path : String}
    (h : ∀ now resumes, P ((Errand.transferCommand courier uri path now resumes).startWith env)) :
    Starts env P (courier.download uri path none) := by
  refine (starts_ensureDirectory path).bind fun _ => (starts_orFail _).bind fun _ => ?_
  refine .get_bind fun host => ?_
  have hrun := starts_streaming (h host.now false) (h host.now true) courier.policy
    Direction.download.failureStatus
  cases courier.mover.benchmarkFolder with
  | none => exact hrun
  | some folder => exact (starts_ensureDirectory folder).bind fun _ => hrun

/-! ## Rows -/

namespace Stager

variable {stager : Stager} {root : String}

theorem starts_serveArea {row : MountRow} {area : Locator}
    (hparse : Locator.parse row.area = .ok area) :
    Starts env (stager.Sent root env row) (stager.serveArea root row area) := by
  refine (Mounting.starts_mount fun pair hpair => ?_).bind fun empty => ?_
  · exact ⟨⟨.mount row area pair, .mount hparse hpair, rfl⟩,
      ⟨.unmount row, .unmount hparse hpair, rfl⟩⟩
  split_ifs
  · exact .pure _
  cases hcourier : stager.courier with
  | none => exact (starts_notify _).bind fun _ => .pure _
  | some courier =>
    have hsent : ∀ now resumes, stager.Sent root env row ((Errand.transferCommand courier row.area
        (downloadFolder root row) now resumes).startWith env) := fun now resumes =>
      ⟨.transfer courier row now resumes, .transfer now resumes hcourier, rfl⟩
    exact (starts_notify _).bind fun _ => (Courier.starts_download hsent).bind fun _ => .pure _

theorem starts_serve (row : MountRow) :
    Starts env (stager.Sent root env row) (stager.serve root row) := by
  rw [serve_eq]
  cases hparse : Locator.parse row.area with
  | error fault => exact fun h _ => .refl h
  | ok area => exact starts_serveArea hparse

/-! ## Visits -/

/-- Rows are visited one after another, until one of them halts. -/
inductive Visits (stager : Stager) (root : String) : Host → List Visit → Host → Prop where
  | done (h : Host) : Visits stager root h [] h
  | more {v : Visit} {rest : List Visit} {s : Served} {h' : Host} :
      (stager.serve root v.row).run v.before = (.ok s, v.after) →
      v.after.starts = v.before.starts ++ v.started →
      Visits stager root v.after rest h' → Visits stager root v.before (v :: rest) h'
  | last {v : Visit} {halt : Halt} :
      (stager.serve root v.row).run v.before = (.error halt, v.after) →
      v.after.starts = v.before.starts ++ v.started → Visits stager root v.before [v] v.after

variable {h h' h₁ : Host} {visits : List Visit}

/-- What is started while a row is served is on errands that are due for it. -/
theorem grows_of_serve {row : MountRow} {o : Except Halt Served}
    (hserve : (stager.serve root row).run h = (o, h₁)) :
    h.Grows (stager.Sent root h.env row) h₁ := by
  have hgrows : h.Grows (stager.Sent root h.env row) ((stager.serve root row).run h).2 :=
    starts_serve row h rfl
  rwa [hserve] at hgrows

theorem sent_of_serve {row : MountRow} {o : Except Halt Served} {started : List Start}
    (hserve : (stager.serve root row).run h = (o, h₁))
    (hstarted : h₁.starts = h.starts ++ started) :
    h₁.env = h.env ∧ ∀ s ∈ started, stager.Sent root h.env row s := by
  obtain ⟨henv, new, hnew, hall⟩ := grows_of_serve hserve
  obtain rfl : new = started := List.append_cancel_left (hnew.symm.trans hstarted)
  exact ⟨henv, hall⟩

theorem sent_of_visits (hvisits : stager.Visits root h visits h') :
    ∀ v ∈ visits, ∀ s ∈ v.started, stager.Sent root h.env v.row s := by
  induction hvisits with
  | done h => exact fun v hv => absurd hv List.not_mem_nil
  | @more v rest _ _ hserve hstarted _ ih =>
    obtain ⟨henv, hsent⟩ := sent_of_serve hserve hstarted
    rw [henv] at ih
    exact List.forall_mem_cons.mpr ⟨hsent, ih⟩
  | last hserve hstarted =>
    exact List.forall_mem_singleton.mpr (sent_of_serve hserve hstarted).2

/-- Nothing is started but in a visit. -/
theorem starts_of_visits (hvisits : stager.Visits root h visits h') :
    h'.starts = h.starts ++ visits.flatMap (·.started) := by
  induction hvisits with
  | done h => simp
  | more _ hstarted _ ih => rw [ih, hstarted, List.flatMap_cons, List.append_assoc]
  | last _ hstarted => rw [hstarted, List.flatMap_singleton]

/-- Serving rows visits them in their order. -/
theorem visits_of_serveAll {rows : List MountRow} {report : StagingReport} {table : MountTable}
    {o : Except Halt (StagingReport × MountTable)}
    (hrun : (stager.serveAll root rows report table).run h = (o, h')) :
    ∃ visits, stager.Visits root h visits h' ∧ visits.map (·.row) <+: rows := by
  induction rows generalizing report table h with
  | nil =>
    obtain rfl : h = h' := congrArg Prod.snd hrun
    exact ⟨[], .done h, List.prefix_rfl⟩
  | cons row rest ih =>
    rcases hserve : (stager.serve root row).run h with ⟨o', h₁⟩
    obtain ⟨-, started, hstarted, -⟩ := grows_of_serve hserve
    cases o' with
    | error halt =>
      rw [serveAll, run_bind_of_error hserve] at hrun
      obtain rfl : h₁ = h' := congrArg Prod.snd hrun
      exact ⟨[⟨row, h, h₁, started⟩], .last (v := ⟨row, h, h₁, started⟩) hserve hstarted,
        List.cons_prefix_cons.mpr ⟨rfl, List.nil_prefix⟩⟩
    | ok s =>
      rw [run_serveAll_cons _ _ hserve] at hrun
      obtain ⟨visits, hvisits, hrows⟩ := ih hrun
      exact ⟨⟨row, h, h₁, started⟩ :: visits,
        .more (v := ⟨row, h, h₁, started⟩) hserve hstarted hvisits,
        List.cons_prefix_cons.mpr ⟨rfl, hrows⟩⟩

/-! ## What is seen -/

/-- Locators with one base name one profile. -/
theorem profile_eq_of_base {text text' : String} {l l' : Locator}
    (hl : Locator.parse text = .ok l) (hl' : Locator.parse text' = .ok l') (h : l.base = l'.base) :
    l.bucket.profile = l'.bucket.profile := by
  have hwf := Locator.wellFormed_of_read (Locator.parse_eq_ok_iff.mp hl)
  have hwf' := Locator.wellFormed_of_read (Locator.parse_eq_ok_iff.mp hl')
  exact congrArg Bucket.profile (Bucket.base_injective hwf hwf' h)

theorem sees_of_due {row : MountRow} {errand : Errand} (hrow : row.Described)
    (hdue : stager.Due row errand) (entries : List ManifestEntry) :
    errand.Sees stager entries env ((errand.command stager root).startWith env) := by
  cases hdue with
  | @mount area pair hparse hpair =>
    obtain ⟨area', hparse', -, -, hbase, -⟩ := MountRow.area_spec hrow
    obtain rfl : area = area' := Except.ok.inj (hparse.symm.trans hparse')
    refine ⟨?_, ?_, fun e _ l hl hlbase => ?_⟩
    · exact Mounting.lookup_mountCommand _ pair _ _ _ env (Credential.keyVariable, pair.keyId) rfl
    · exact Mounting.lookup_mountCommand _ pair _ _ _ env
        (Credential.secretVariable, pair.secret) rfl
    · rw [profile_eq_of_base hl hparse (hlbase.trans hbase.symm), hpair]
  | unmount hparse hpair => exact Host.lookup_overlay env stager.client.unmountCommand.env
  | @transfer courier now resumes hcourier =>
    cases resumes with
    | false => exact Host.lookup_overlay env courier.mover.command.env
    | true => exact Host.lookup_overlay env courier.mover.command.env

/-! ## Stagings -/

variable {a : Assignment} {served : Option MountTable} {r : Except Halt StagingReport}

/-- A staging starts programs while it visits rows of its table, and at no other time. -/
theorem visits_of_stages (hstages : stager.Stages a h served r h₁) :
    ∃ visits h₂, stager.Visits a.root h visits h₂ ∧ h₁ = { h₂ with tree := h₁.tree } ∧
      (visits = [] ∨ ∃ table, a.Answers h (.ok table) ∧ visits.map (·.row) <+: table.rows) := by
  rcases serve_of_stages hstages with ⟨fault, -, -, rfl⟩ | ⟨table, o, h₂, hans, hserve, -, hhost⟩
  · exact ⟨[], h₁, .done h₁, rfl, Or.inl rfl⟩
  · obtain ⟨visits, hvisits, hrows⟩ := visits_of_serveAll hserve
    exact ⟨visits, h₂, hvisits, hhost, Or.inr ⟨table, hans, hrows⟩⟩

/-- The rows that a staging visits are those that its first pass has recorded. -/
theorem described_of_visits
    (hrows : visits = [] ∨ ∃ table, a.Answers h (.ok table) ∧ visits.map (·.row) <+: table.rows) :
    ∀ v ∈ visits, v.row.Described := by
  intro v hv
  rcases hrows with rfl | ⟨table, hans, hvisited⟩
  · cases hv
  · have hsurveyed := Manifest.surveyed_of_surveys (Assignment.surveys_of_answers hans)
    exact hsurveyed.1.described v.row (hvisited.subset (List.mem_map_of_mem hv))

end Stager

end DataStaging
