import DataStaging.Proofs.Pool.Atomic
import DataStaging.Proofs.Pool.Verdict
import Mathlib.Data.List.Nodup

/-!
# Workers that do not get in each other's way

The handling of an entry relies on what the other workers leave alone, and guarantees the same to
them. Where what each entry guarantees is what every other entry relies on, the handling of an entry
can be followed by itself, step after step, with any number of changes by others in between; and in
every pool all entries are handled so, to their last step.

Results:
* `reliant_of_runs`: in every pool each task goes on as its entry promises.
* `ended_of_protocol`: a pool that has its result has handled every entry, and without a fault.
-/

namespace DataStaging

namespace Task

variable {σ : Type} {R G F : σ → σ → Prop} {task : Task σ} {s s' : σ}

/-- Begun in the state `s`, while others make changes of `R`, the task makes changes of `G`, and as
    its last one a change of `F`, after which it is done without a fault. -/
def Does (R G F : σ → σ → Prop) : Task σ → σ → Prop
  | done _, _ => False
  | act change next, s => ∀ s', R s s' →
      (next s' = .done (.ok ()) ∧ F s' (change s')) ∨
        (G s' (change s') ∧ (next s').Does R G F (change s'))

theorem does_act {change : σ → σ} {next : σ → Task σ}
    (h : ∀ s', R s s' → G s' (change s') ∧ (next s').Does R G F (change s')) :
    (act change next).Does R G F s := fun s' hs => Or.inr (h s' hs)

/-- Changes that others may make before a task begins may as well be made beforehand. -/
theorem does_of_rely (htrans : ∀ {a b c : σ}, R a b → R b c → R a c) (h : task.Does R G F s)
    (hs : R s s') : task.Does R G F s' := by
  cases task with
  | done o => exact h
  | act change next => exact fun s'' hs' => h s'' (htrans hs hs')

end Task

namespace Pool

variable {σ : Type} {job : Job σ} {n : Nat} {s s' : Pool σ}

theorem heldOk?_of_does {R G F : σ → σ → Prop} {e : ManifestEntry} {task : Task σ} {shared : σ}
    (h : task.Does R G F shared) : heldOk? (.handling e task) = none := by
  cases task with
  | done o => cases h
  | act change next => rfl

/-- What the handling of each entry relies on (`R`), what it guarantees of its changes (`G`) and of
    the last one (`F`), and what the entries whose last change was made have made of the shared
    state, whatever else was changed (`Φ`). -/
structure Protocol (job : Job σ) (R G F : ManifestEntry → σ → σ → Prop)
    (Φ : List ManifestEntry → σ → Prop) : Prop where
  nodup : job.entries.Nodup
  refl : ∀ e s, R e s s
  trans : ∀ e {a b c : σ}, R e a b → R e b c → R e a c
  guarantee : ∀ {e e'}, e ∈ job.entries → e' ∈ job.entries → e' ≠ e →
    ∀ {a b : σ}, G e a b ∨ F e a b → R e' a b
  keeps : ∀ {e}, e ∈ job.entries → ∀ {order a b}, Φ order a → G e a b → Φ order b
  settles : ∀ {e}, e ∈ job.entries → ∀ {order a b}, Φ order a → F e a b → Φ (order ++ [e]) b

/-- What a pool under a protocol has kept so far. -/
structure Reliant (job : Job σ) (R G F : ManifestEntry → σ → σ → Prop)
    (Φ : List ManifestEntry → σ → Prop) (s : Pool σ) : Prop where
  held : ∀ e task, .handling e task ∈ s.workers →
    task = .done (.ok ()) ∨ task.Does (R e) (G e) (F e) s.shared
  waiting : ∀ e ∈ job.entries, e ∉ s.taken → (job.handle e).Does (R e) (G e) (F e) s.shared
  ended : ∀ x ∈ s.ended, x.2 = .ok ()
  settled : ∃ order, order.Perm s.settled ∧ Φ order s.shared

section Protocol

variable {R G F : ManifestEntry → σ → σ → Prop} {Φ : List ManifestEntry → σ → Prop}

/-! ## Other entries -/

/-- The entries taken are all different. -/
theorem nodup_taken (hp : Protocol job R G F Φ) (ho : InOrder job s) : s.taken.Nodup := by
  obtain ⟨ahead, hall, -⟩ := ho
  have hnodup := hp.nodup
  rw [← hall, List.append_assoc] at hnodup
  exact (List.nodup_append.mp hnodup).1

/-- Two workers never have the same entry in hand. -/
theorem ne_of_handling (hp : Protocol job R G F Φ) (acc : Account job n s)
    {before after : List (Worker σ)} {e e' : ManifestEntry} {task task' : Task σ}
    (hw : s.workers = before ++ .handling e task :: after)
    (hw' : .handling e' task' ∈ before ++ after) : e' ≠ e := by
  have hnodup := acc.handledOnce.nodup_iff.mpr (nodup_taken hp acc.inOrder)
  rw [hw, List.filterMap_append, List.filterMap_cons] at hnodup
  replace hnodup := (List.nodup_append.mp hnodup).2.1
  have hmem : e' ∈ before.filterMap Worker.entry? ++ after.filterMap Worker.entry? := by
    rw [← List.filterMap_append]
    exact List.mem_filterMap.mpr ⟨_, hw', rfl⟩
  rintro rfl
  exact (List.nodup_cons.mp (List.nodup_middle.mp hnodup)).1 hmem

/-- An entry in the queue has not been taken. -/
theorem not_mem_taken_of_queue (hp : Protocol job R G F Φ) (acc : Account job n s)
    {e : ManifestEntry} (he : e ∈ s.queue) : e ∉ s.taken := by
  obtain ⟨ahead, hall, -⟩ := acc.inOrder
  have hnodup := hp.nodup
  rw [← hall] at hnodup
  exact fun htaken => (List.nodup_append.mp (List.nodup_append.mp hnodup).1).2.2 e htaken e he rfl

/-! ## Steps -/

/-- A change by one entry lets every other entry go on as before. -/
theorem reliant_act (hp : Protocol job R G F Φ) (acc : Account job n s)
    {before after : List (Worker σ)} {e : ManifestEntry} {change : σ → σ} {next : σ → Task σ}
    (hw : s.workers = before ++ .handling e (.act change next) :: after)
    (hs : Reliant job R G F Φ s) :
    Reliant job R G F Φ { s with
      workers := before ++ .handling e (next s.shared) :: after
      shared := change s.shared } := by
  have hmem : .handling e (.act change next) ∈ s.workers := hw ▸ List.mem_append_cons_self
  have htaken := mem_taken_of_held acc hmem
  have he := mem_entries_of_taken acc htaken
  have hdoes := (hs.held e _ hmem).resolve_left (by simp) s.shared (hp.refl e _)
  have hchange : G e s.shared (change s.shared) ∨ F e s.shared (change s.shared) := by
    rcases hdoes with ⟨-, hlast⟩ | ⟨hmore, -⟩
    · exact Or.inr hlast
    · exact Or.inl hmore
  have hothers : ∀ e' task, .handling e' task ∈ before ++ after →
      task = .done (.ok ()) ∨ task.Does (R e') (G e') (F e') (change s.shared) := by
    intro e' task hw'
    have hmem' : .handling e' task ∈ s.workers := by
      rw [hw, List.mem_append, List.mem_cons]
      rcases List.mem_append.mp hw' with hb | ha
      · exact Or.inl hb
      · exact Or.inr (Or.inr ha)
    refine (hs.held e' task hmem').imp_right fun h => Task.does_of_rely (hp.trans e') h ?_
    exact hp.guarantee he (mem_entries_of_taken acc (mem_taken_of_held acc hmem'))
      (ne_of_handling hp acc hw hw') hchange
  obtain ⟨order, hperm, hΦ⟩ := hs.settled
  have hsettled := settled_act hw
  refine ⟨?_, ?_, hs.ended, ?_⟩
  · intro e' task hw'
    rw [List.mem_append, List.mem_cons] at hw'
    rcases hw' with hb | heq | ha
    · exact hothers e' task (List.mem_append_left _ hb)
    · obtain ⟨rfl, rfl⟩ := Worker.handling.inj heq
      exact hdoes.imp (fun h => h.1) (fun h => h.2)
    · exact hothers e' task (List.mem_append_right _ ha)
  · intro e' he' hwaits
    refine Task.does_of_rely (hp.trans e') (hs.waiting e' he' hwaits)
      (hp.guarantee he he' ?_ hchange)
    rintro rfl
    exact hwaits htaken
  · rcases hdoes with ⟨hdone, hlast⟩ | ⟨hmore, hgoes⟩
    · rw [hdone] at hsettled ⊢
      exact ⟨order ++ [e], (hperm.append_right [e]).trans hsettled.symm, hp.settles he hΦ hlast⟩
    · rw [heldOk?_of_does hgoes] at hsettled
      exact ⟨order, hperm.trans (hsettled.trans (.of_eq (List.append_nil _))).symm,
        hp.keeps he hΦ hmore⟩

theorem reliant_step (hp : Protocol job R G F Φ) (acc : Account job n s) (h : Step job s s')
    (hs : Reliant job R G F Φ s) : Reliant job R G F Φ s' := by
  have hqueued : ∀ e ∈ s.queue, (job.handle e).Does (R e) (G e) (F e) s.shared := fun e he =>
    hs.waiting e (mem_entries_of_queue acc.inOrder he) (not_mem_taken_of_queue hp acc he)
  rcases quiet_or_act h with hquiet | ⟨before, after, e, change, next, hw, rfl⟩
  · refine ⟨fun e task hw => ?_, fun e he hwaits => ?_, fun x hx => ?_, ?_⟩
    · rw [hquiet.shared]
      rcases hquiet.held e task hw with hw | ⟨he, rfl⟩
      · exact hs.held e task hw
      · exact Or.inr (hqueued e he)
    · rw [hquiet.shared]
      exact hs.waiting e he fun hm => hwaits (hquiet.taken hm)
    · rcases hquiet.ended x hx with hx | hx
      · exact hs.ended x hx
      · rcases hs.held _ _ hx with hdone | hdoes
        · exact Task.done.inj hdone
        · cases hdoes
    · obtain ⟨order, hperm, hΦ⟩ := hs.settled
      rw [hquiet.shared]
      refine ⟨order, hperm.trans (hquiet.settled fun e he => ?_).symm, hΦ⟩
      exact heldOk?_of_does (hqueued e he)
  · exact reliant_act hp acc hw hs

/-- In every pool each task goes on as its entry promises. -/
theorem reliant_of_runs (hp : Protocol job R G F Φ) {shared : σ} (hnone : Φ [] shared)
    (hjob : ∀ e ∈ job.entries, (job.handle e).Does (R e) (G e) (F e) shared)
    (h : Runs job (start job n shared) s) : Reliant job R G F Φ s := by
  induction h with
  | refl =>
    exact ⟨held_start _ shared, fun e he _ => hjob e he, fun x hx => (by cases hx),
      [], .of_eq (settled_start shared).symm, hnone⟩
  | tail hruns hstep ih => exact reliant_step hp (account_of_runs hruns) hstep ih

/-- A pool that has its result has handled every entry as promised, in some order of their last
    changes, and its result is how the reading ended. -/
theorem ended_of_protocol (hp : Protocol job R G F Φ) {shared : σ} (hnone : Φ [] shared)
    (hjob : ∀ e ∈ job.entries, (job.handle e).Does (R e) (G e) (F e) shared)
    (h : Runs job (start job n shared) s) {r : Except Fault Unit} (hr : s.result = some r) :
    r = job.ending.map (fun _ => ()) ∧ ∃ order, order.Perm job.entries ∧ Φ order s.shared := by
  obtain ⟨-, -, hended, order, hperm, hΦ⟩ := reliant_of_runs hp hnone hjob h
  obtain ⟨hall, hresult⟩ := ended_of_result h hr hended
  rw [settled_of_result h hr hended] at hperm
  exact ⟨hresult, order, hperm.trans hall, hΦ⟩

end Protocol

end Pool

end DataStaging
