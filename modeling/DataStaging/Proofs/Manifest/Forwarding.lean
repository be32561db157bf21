import DataStaging.Manifest.Survey
import DataStaging.Proofs.Manifest.Grammar
import Mathlib.Logic.Relation

/-!
# Entries are forwarded while they are read

A manifest is read entry by entry, and the reader waits until there is room in the queue before it
goes on. So how far it reads depends on the consumer of the queue: one that drains it, or one that
leaves while the reader is at work. A reader that is turned away stands in the middle of the list,
where what follows looks like a flaw; once the consumer has left, nothing is wrong any more.

The reader with its queue and its consumer is a transition system. A consumer that drains the queue
takes entries at any time and never leaves; `leave` is the moment at which a consumer leaves.

Results:
* `drained_iff`: what a consumer that drains the queue receives, and what the reading comes to.
* `eq_of_deserted`: what comes of a reading whose consumer leaves.
* `readPath_of_drained`, `exists_readPath_of_deserted`: both, as the reading of a path gives them.
* `forwarded_of_runs`: both, in terms of what the file holds.
-/

namespace DataStaging.Manifest

open Json (Cursor Problem)
open Json.Reader

/-! ## The system -/

/-- Where the reader of a manifest stands. -/
inductive Stage where
  | opening
  /-- About to read the next element. -/
  | asking (first : Bool) (c : Cursor)
  /-- Holds an entry for which there must be room in the queue. -/
  | offering (e : ManifestEntry) (c : Cursor)
  /-- Has read what it reads of the file. -/
  | judging (outcome : Except Problem Unit)
  | finished (result : Except Fault Nat)

/-- A manifest, and a queue for its entries. -/
structure Feed where
  path : String
  bytes : Bytes
  /-- The depth asked for; the queue has room for one entry at least. -/
  depth : Nat

/-- A reader, its queue and the consumer of the queue. -/
structure Forwarding where
  stage : Stage
  /-- The entries put into the queue and not received, the oldest first. -/
  queue : List ManifestEntry
  /-- The entries that the consumer has received, in order. -/
  received : List ManifestEntry
  /-- How many entries the reader has put into the queue. -/
  forwarded : Nat
  /-- Whether the consumer has left. -/
  left : Bool

namespace Stage

/-- Where the reader stands after the first byte that is no blank. -/
def afterOpening (bytes : Bytes) : Stage :=
  match peekPastBlanks.run (.ofStream bytes) with
  | (.ok (some 0x5B), c) => asking true c.advance
  | (.ok (some _), c) => judging (result (refuse "a JSON array of manifest entries") c)
  | (.ok none, c) => judging (.error ⟨.endInValue, some c.ahead⟩)
  | (.error problem, _) => judging (.error problem)

/-- Where the reader stands after the next element. -/
def afterElement (first : Bool) (c : Cursor) : Stage :=
  match (element first).run c with
  | (.ok (some e), c) => offering e c
  | (.ok none, c) => judging (verdict (.ok ()) c)
  | (.error problem, c) => judging (verdict (.error problem) c)

end Stage

/-- What the reader returns: a flaw counts only as long as the consumer is there. -/
def judgement (path : String) (forwarded : Nat) (left : Bool) :
    Except Problem Unit → Except Fault Nat
  | .ok () => .ok forwarded
  | .error problem => if left then .ok forwarded else .error (.manifest path problem.text)

namespace Forwarding

def start : Forwarding := ⟨.opening, [], [], 0, false⟩

/-- The consumer leaves, and what is in the queue is lost. -/
def leave (s : Forwarding) : Forwarding := { s with left := true }

/-- One step of the reader or of the consumer: `stream_manifest` (`manifest/reader`, lines 68–91),
    which hands entries to a channel as its `EntryForwarder` visits them. -/
inductive Step (feed : Feed) (s : Forwarding) : Forwarding → Prop where
  | openFile : s.stage = .opening →
      Step feed s { s with stage := .afterOpening feed.bytes }
  | ask {first : Bool} {c : Cursor} : s.stage = .asking first c →
      Step feed s { s with stage := .afterElement first c }
  /-- The reader puts its entry into the queue, where there is room. -/
  | send {e : ManifestEntry} {c : Cursor} : s.stage = .offering e c → s.left = false →
      s.queue.length < max feed.depth 1 →
      Step feed s { s with
        stage := .asking false c
        queue := s.queue ++ [e]
        forwarded := s.forwarded + 1 }
  /-- The reader is turned away in the middle of the list. -/
  | turnAway {e : ManifestEntry} {c : Cursor} : s.stage = .offering e c → s.left = true →
      Step feed s { s with stage := .judging (verdict (.ok ()) c) }
  | judge {outcome : Except Problem Unit} : s.stage = .judging outcome →
      Step feed s { s with stage := .finished (judgement feed.path s.forwarded s.left outcome) }
  /-- The consumer receives the oldest entry. -/
  | receive {e : ManifestEntry} {rest : List ManifestEntry} : s.queue = e :: rest →
      s.left = false → Step feed s { s with queue := rest, received := s.received ++ [e] }

/-- Any number of steps. -/
def Runs (feed : Feed) : Forwarding → Forwarding → Prop := Relation.ReflTransGen (Step feed)

end Forwarding

/-! ## Steps are taken, and come to an end -/

namespace Stage

/-- The steps that the reader may still take, when a byte allows three. -/
def toDo (bytes : Bytes) : Stage → Nat
  | .opening => 3 * bytes.length + 4
  | .asking _ c => 3 * c.rest.length + 3
  | .offering _ c => 3 * c.rest.length + 5
  | .judging _ => 1
  | .finished _ => 0

theorem toDo_afterOpening_lt (bytes : Bytes) :
    (afterOpening bytes).toDo bytes < 3 * bytes.length + 4 := by
  have hlt := length_opening_lt bytes
  unfold afterOpening
  rw [run_opening]
  split
  · rename_i heq
    obtain ⟨-, rfl⟩ := Prod.mk.inj heq
    simp only [toDo]
    omega
  all_goals
    simp only [toDo]
    omega

theorem toDo_afterElement_lt (bytes : Bytes) (first : Bool) (c : Cursor) :
    (afterElement first c).toDo bytes < 3 * c.rest.length + 3 := by
  unfold afterElement
  rcases hrun : (element first).run c with ⟨problem | _ | e, c₁⟩
  · simp only [toDo]
    omega
  · simp only [toDo]
    omega
  · have hlt := length_lt_of_element hrun
    simp only [toDo]
    omega

end Stage

namespace Forwarding

variable {feed : Feed} {s s' : Forwarding}

/-- A reader that has not finished takes a step, unless the queue is full. -/
theorem exists_step_of_stage (hroom : s.left = false → s.queue = [])
    (h : ∀ result, s.stage ≠ .finished result) : ∃ s', Step feed s s' := by
  cases hstage : s.stage with
  | opening => exact ⟨_, .openFile hstage⟩
  | asking first c => exact ⟨_, .ask hstage⟩
  | offering e c =>
    cases hleft : s.left with
    | true => exact ⟨_, .turnAway hstage hleft⟩
    | false =>
      refine ⟨_, .send hstage hleft ?_⟩
      rw [hroom hleft]
      exact Nat.lt_of_lt_of_le Nat.zero_lt_one (Nat.le_max_right _ _)
  | judging outcome => exact ⟨_, .judge hstage⟩
  | finished result => exact absurd hstage (h result)

/-- No run goes on without end, whether the consumer leaves or not. -/
theorem wellFounded_step (feed : Feed) : WellFounded (fun s' s => Step feed s s') := by
  refine Subrelation.wf (fun {s' s} h => ?_)
    (InvImage.wf (fun s : Forwarding => s.stage.toDo feed.bytes + s.queue.length) Nat.lt_wfRel.wf)
  change s'.stage.toDo feed.bytes + s'.queue.length < s.stage.toDo feed.bytes + s.queue.length
  cases h with
  | openFile hstage =>
    have hlt := Stage.toDo_afterOpening_lt feed.bytes
    simp only [hstage, Stage.toDo] at hlt ⊢
    omega
  | @ask first c hstage =>
    have hlt := Stage.toDo_afterElement_lt feed.bytes first c
    simp only [hstage, Stage.toDo] at hlt ⊢
    omega
  | send hstage _ _ =>
    simp only [hstage, Stage.toDo, List.length_append, List.length_singleton]
    omega
  | turnAway hstage _ | judge hstage =>
    simp only [hstage, Stage.toDo]
    omega
  | receive hqueue _ =>
    simp only [hqueue, List.length_cons]
    omega

/-- Every run can be taken to its end. -/
theorem exists_end (feed : Feed) (s : Forwarding) :
    ∃ s', Runs feed s s' ∧ ¬ ∃ s'', Step feed s' s'' := by
  induction s using (wellFounded_step feed).induction with
  | _ s ih =>
    by_cases h : ∃ s', Step feed s s'
    · obtain ⟨s₁, hstep⟩ := h
      obtain ⟨s', hruns, hend⟩ := ih s₁ hstep
      exact ⟨s', .head hstep hruns, hend⟩
    · exact ⟨s, .refl, h⟩

/-! ## What has been forwarded -/

/-- The reader's count is that of the entries in and behind the queue, which has its depth. -/
structure Counted (feed : Feed) (s : Forwarding) : Prop where
  forwarded_eq : s.forwarded = s.received.length + s.queue.length
  length_le : s.queue.length ≤ max feed.depth 1

theorem counted_start : Counted feed start := ⟨rfl, Nat.zero_le _⟩

theorem counted_step (h : Step feed s s') (hs : Counted feed s) : Counted feed s' := by
  obtain ⟨hforwarded, hlength⟩ := hs
  cases h with
  | send _ _ hroom =>
    constructor
    · simp only [hforwarded, List.length_append, List.length_singleton]
      omega
    · simp only [List.length_append, List.length_singleton]
      omega
  | receive hqueue _ =>
    rw [hqueue, List.length_cons] at hforwarded hlength
    constructor
    · simp only [hforwarded, List.length_append, List.length_singleton]
      omega
    · exact Nat.le_of_succ_le hlength
  | openFile _ | ask _ | turnAway _ _ | judge _ => exact ⟨hforwarded, hlength⟩

/-- What a reading comes to that nobody leaves. -/
def result (feed : Feed) : Except Fault Nat :=
  (read feed.bytes).count.mapError fun problem => .manifest feed.path problem.text

/-- The entries that the reader will still put into the queue if nobody leaves. -/
def Leads (feed : Feed) : Stage → List ManifestEntry → Prop
  | .opening, es => es = (read feed.bytes).entries
  | .asking first c, es => ∃ outcome c', Ahead first c es outcome c' ∧
      verdict outcome c' = (read feed.bytes).outcome
  | .offering e c, es => ∃ es' outcome c', es = e :: es' ∧ Ahead false c es' outcome c' ∧
      verdict outcome c' = (read feed.bytes).outcome
  | .judging outcome, es => es = [] ∧ outcome = (read feed.bytes).outcome
  | .finished r, es => es = [] ∧ r = result feed

theorem afterOpening_of_bracket {bytes : Bytes} (h : (opening bytes).rest.head? = some 0x5B) :
    Stage.afterOpening bytes = .asking true (opening bytes).advance := by
  simp only [Stage.afterOpening, run_opening, h]

theorem afterOpening_of_no_bracket {bytes : Bytes} (h : (opening bytes).rest.head? ≠ some 0x5B) :
    Stage.afterOpening bytes = .judging (read bytes).outcome := by
  simp only [Stage.afterOpening, read, readFor, run_opening]
  cases hb : (opening bytes).rest.head? with
  | none => rfl
  | some b =>
    have hne : b ≠ 0x5B := fun heq => h (by rw [hb, heq])
    simp only

theorem leads_afterOpening (feed : Feed) :
    Leads feed (.afterOpening feed.bytes) (read feed.bytes).entries := by
  by_cases h : (opening feed.bytes).rest.head? = some 0x5B
  · obtain ⟨es, outcome, c', ha⟩ := exists_ahead true (opening feed.bytes).advance
    rw [afterOpening_of_bracket h, read_of_ahead h ha]
    refine ⟨outcome, c', ha, ?_⟩
    rw [read_of_ahead h ha]
  · rw [afterOpening_of_no_bracket h]
    exact ⟨(readFor_of_no_bracket none h).1, rfl⟩

theorem afterOpening_ne_finished (bytes : Bytes) (r : Except Fault Nat) :
    Stage.afterOpening bytes ≠ .finished r := by
  unfold Stage.afterOpening
  split <;> exact nofun

theorem afterElement_ne_finished (first : Bool) (c : Cursor) (r : Except Fault Nat) :
    Stage.afterElement first c ≠ .finished r := by
  unfold Stage.afterElement
  split <;> exact nofun

theorem leads_afterElement {first : Bool} {c : Cursor} {es : List ManifestEntry}
    (h : Leads feed (.asking first c) es) : Leads feed (.afterElement first c) es := by
  obtain ⟨outcome, c', ha, hverdict⟩ := h
  unfold Stage.afterElement
  cases ha with
  | ended hrun =>
    rw [hrun]
    exact ⟨rfl, hverdict⟩
  | flawed hrun =>
    rw [hrun]
    exact ⟨rfl, hverdict⟩
  | entry hrun hrest =>
    rw [hrun]
    exact ⟨_, _, _, rfl, hrest, hverdict⟩

/-- The consumer is there, and nothing is lost of what the file holds. -/
structure Faithful (feed : Feed) (s : Forwarding) : Prop where
  stays : s.left = false
  exists_leads : ∃ es, Leads feed s.stage es ∧
    s.received ++ s.queue ++ es = (read feed.bytes).entries

theorem faithful_start : Faithful feed start := ⟨rfl, _, rfl, rfl⟩

theorem faithful_step (h : Step feed s s') (hcounted : Counted feed s) (hs : Faithful feed s) :
    Faithful feed s' := by
  obtain ⟨hstays, es, hleads, hentries⟩ := hs
  cases h with
  | openFile hstage =>
    rw [hstage] at hleads
    obtain rfl := hleads
    exact ⟨hstays, _, leads_afterOpening feed, hentries⟩
  | ask hstage =>
    rw [hstage] at hleads
    exact ⟨hstays, es, leads_afterElement hleads, hentries⟩
  | send hstage _ _ =>
    rw [hstage] at hleads
    obtain ⟨es', outcome, c', rfl, ha, hverdict⟩ := hleads
    refine ⟨hstays, es', ⟨outcome, c', ha, hverdict⟩, ?_⟩
    rw [← hentries]
    simp only [List.append_assoc, List.singleton_append]
  | turnAway _ hleft => exact absurd (hstays.symm.trans hleft) Bool.false_ne_true
  | judge hstage =>
    rw [hstage] at hleads
    obtain ⟨rfl, rfl⟩ := hleads
    refine ⟨hstays, [], ⟨rfl, ?_⟩, hentries⟩
    rw [List.append_nil] at hentries
    rw [hstays, hcounted.forwarded_eq, ← List.length_append, hentries, result, Reading.count]
    cases (read feed.bytes).outcome <;> rfl
  | receive hqueue _ =>
    refine ⟨hstays, es, hleads, ?_⟩
    rw [← hentries, hqueue]
    simp only [List.append_assoc, List.cons_append, List.nil_append]

theorem faithful_of_runs (h : Runs feed start s) : Counted feed s ∧ Faithful feed s := by
  induction h with
  | refl => exact ⟨counted_start, faithful_start⟩
  | tail _ hstep ih => exact ⟨counted_step hstep ih.1, faithful_step hstep ih.1 ih.2⟩

/-! ## A consumer that drains the queue -/

/-- The consumer has received these entries, there is no other one to come, and the reader has
    returned. -/
def Drained (feed : Feed) (received : List ManifestEntry) (result : Except Fault Nat) : Prop :=
  ∃ s, Runs feed start s ∧ s.stage = .finished result ∧ s.queue = [] ∧ s.received = received

/-- As long as the consumer has not received all, there is a step to take. -/
theorem exists_step_of_runs (h : Runs feed start s) :
    (∃ s', Step feed s s') ∨ ∃ r, s.stage = .finished r ∧ s.queue = [] := by
  have hstays := (faithful_of_runs h).2.stays
  cases hqueue : s.queue with
  | cons e rest => exact .inl ⟨_, .receive hqueue hstays⟩
  | nil =>
    by_cases hfinished : ∃ r, s.stage = .finished r
    · obtain ⟨r, hr⟩ := hfinished
      exact .inr ⟨r, hr, rfl⟩
    · exact .inl (exists_step_of_stage (fun _ => hqueue) fun r hr => hfinished ⟨r, hr⟩)

/-- Who drains the queue receives the entries of the file, and the reading comes to what the file
    comes to. -/
theorem drained_iff {received : List ManifestEntry} {r : Except Fault Nat} :
    Drained feed received r ↔ received = (read feed.bytes).entries ∧ r = result feed := by
  have hdrained : ∀ s r, Runs feed start s → s.stage = .finished r → s.queue = [] →
      s.received = (read feed.bytes).entries ∧ r = result feed := by
    intro s r hruns hstage hqueue
    obtain ⟨-, -, es, hleads, hentries⟩ := faithful_of_runs hruns
    rw [hstage] at hleads
    obtain ⟨rfl, hr⟩ := hleads
    rw [hqueue, List.append_nil, List.append_nil] at hentries
    exact ⟨hentries, hr⟩
  constructor
  · rintro ⟨s, hruns, hstage, hqueue, rfl⟩
    exact hdrained s r hruns hstage hqueue
  · rintro ⟨rfl, rfl⟩
    obtain ⟨s, hruns, hend⟩ := exists_end feed start
    obtain ⟨r, hstage, hqueue⟩ := (exists_step_of_runs hruns).resolve_left hend
    obtain ⟨hreceived, rfl⟩ := hdrained s r hruns hstage hqueue
    exact ⟨s, hruns, hstage, hqueue, hreceived⟩

/-! ## A consumer that leaves -/

/-- The consumer had received these entries when it left, the reader was at work, and later it
    returned. -/
def Deserted (feed : Feed) (received : List ManifestEntry) (result : Except Fault Nat) : Prop :=
  ∃ s s', Runs feed start s ∧ (∀ r, s.stage ≠ .finished r) ∧ s.received = received ∧
    Runs feed s.leave s' ∧ s'.stage = .finished result

/-- Nothing is forwarded or received once the consumer of `s` has left, and nothing is wrong. -/
structure LeftFrom (s s' : Forwarding) : Prop where
  left : s'.left = true
  forwarded_eq : s'.forwarded = s.forwarded
  received_eq : s'.received = s.received
  eq_ok : ∀ r, s'.stage = .finished r → r = .ok s.forwarded

theorem leftFrom_step {s₁ : Forwarding} (h : Step feed s' s₁) (hs : LeftFrom s s') :
    LeftFrom s s₁ := by
  obtain ⟨hleft, hforwarded, hreceived, -⟩ := hs
  cases h with
  | openFile _ =>
    exact ⟨hleft, hforwarded, hreceived, fun r hr => absurd hr (afterOpening_ne_finished _ r)⟩
  | ask _ =>
    exact ⟨hleft, hforwarded, hreceived, fun r hr => absurd hr (afterElement_ne_finished _ _ r)⟩
  | send _ hstays _ => exact absurd (hstays.symm.trans hleft) Bool.false_ne_true
  | turnAway _ _ => exact ⟨hleft, hforwarded, hreceived, nofun⟩
  | @judge outcome hstage =>
    refine ⟨hleft, hforwarded, hreceived, fun r hr => ?_⟩
    obtain rfl := Stage.finished.inj hr
    rw [← hforwarded, hleft]
    cases outcome <;> rfl
  | receive _ hstays => exact absurd (hstays.symm.trans hleft) Bool.false_ne_true

theorem leftFrom_of_runs (hworks : ∀ r, s.stage ≠ .finished r) (h : Runs feed s.leave s') :
    LeftFrom s s' := by
  induction h with
  | refl => exact ⟨rfl, rfl, rfl, fun r hr => absurd hr (hworks r)⟩
  | tail _ hstep ih => exact leftFrom_step hstep ih

theorem left_of_runs (h : Runs feed s s') : s'.left = s.left := by
  induction h with
  | refl => rfl
  | tail _ hstep ih =>
    rw [← ih]
    cases hstep <;> rfl

/-- As long as the reader has not returned, there is a step to take. -/
theorem exists_step_of_left (h : s.left = true) :
    (∃ s', Step feed s s') ∨ ∃ r, s.stage = .finished r := by
  by_cases hfinished : ∃ r, s.stage = .finished r
  · exact .inr hfinished
  · exact .inl (exists_step_of_stage (fun hstays => absurd (hstays.symm.trans h) Bool.false_ne_true)
      fun r hr => hfinished ⟨r, hr⟩)

/-- A reader whose consumer has left returns. -/
theorem exists_finished_of_left (h : s.left = true) :
    ∃ s' r, Runs feed s s' ∧ s'.stage = .finished r := by
  obtain ⟨s', hruns, hend⟩ := exists_end feed s
  obtain ⟨r, hstage⟩ := (exists_step_of_left ((left_of_runs hruns).trans h)).resolve_left hend
  exact ⟨s', r, hruns, hstage⟩

/-- The reader returns how many entries it has put into the queue, which are the first ones of the
    file: those received, and those that were in the queue when the consumer left. -/
theorem eq_of_deserted {received : List ManifestEntry} {r : Except Fault Nat}
    (h : Deserted feed received r) : ∃ lost : List ManifestEntry,
      r = .ok (received.length + lost.length) ∧ lost.length ≤ max feed.depth 1 ∧
        received ++ lost <+: (read feed.bytes).entries := by
  obtain ⟨s, s', hruns, hworks, rfl, hleft, hstage⟩ := h
  obtain ⟨⟨hforwarded, hlength⟩, -, es, -, hentries⟩ := faithful_of_runs hruns
  refine ⟨s.queue, ?_, hlength, es, hentries⟩
  rw [← hforwarded]
  exact (leftFrom_of_runs hworks hleft).eq_ok r hstage

/-! ## The manifest of a path -/

section

variable {t : FileTree} {folder l : Location} {received : List ManifestEntry} {r : Except Fault Nat}

/-- Reading a path is reading for a consumer that drains the queue. -/
theorem readPath_of_drained
    (hfind : t.find folder (Utf8.encode feed.path) = .ok (l, .file feed.bytes))
    (h : Drained feed received r) : readPath t folder feed.path none = (received, r) := by
  obtain ⟨rfl, rfl⟩ := drained_iff.mp h
  unfold readPath
  rw [hfind]
  rfl

/-- Reading a path for a queue that is closed is reading for a consumer that has left. -/
theorem exists_readPath_of_deserted
    (hfind : t.find folder (Utf8.encode feed.path) = .ok (l, .file feed.bytes))
    (h : Deserted feed received r) : ∃ lost, lost.length ≤ max feed.depth 1 ∧
      readPath t folder feed.path (some (received ++ lost).length) = (received ++ lost, r) := by
  obtain ⟨lost, rfl, hlength, hprefix⟩ := eq_of_deserted h
  refine ⟨lost, hlength, ?_⟩
  have htake : (readFor (some (received ++ lost).length) feed.bytes).entries =
      received ++ lost := by
    rw [entries_readFor, ← List.prefix_iff_eq_take.mp hprefix]
  unfold readPath
  rw [hfind]
  simp only [htake, Option.isSome_some, if_true]
  rw [List.length_append]

end

/-! ## What is forwarded of a file -/

theorem result_of_lists {es : List ManifestEntry} (h : Lists feed.bytes es) :
    es = (read feed.bytes).entries ∧ result feed = .ok (read feed.bytes).entries.length := by
  obtain ⟨hes, houtcome⟩ := lists_iff.mp h
  refine ⟨hes, ?_⟩
  rw [result, Reading.count, houtcome]
  rfl

theorem result_of_not_lists (h : ¬ ∃ es, Lists feed.bytes es) :
    ∃ text, result feed = .error (.manifest feed.path text) := by
  rw [result, Reading.count]
  cases houtcome : (read feed.bytes).outcome with
  | ok u => exact absurd ⟨_, lists_iff.mpr ⟨rfl, houtcome⟩⟩ h
  | error problem => exact ⟨_, rfl⟩

/-- A consumer that drains the queue receives the entries that the file begins with, as many as
    there are, and the reading succeeds if the file is one list of them. If the consumer leaves
    while the reader is at work, the reading succeeds whatever the file is, and counts at most a
    queue more than was received. To read a path is to read its file for a consumer of the one or
    the other kind. -/
theorem forwarded_of_runs (feed : Feed) :
    WellFounded (fun s' s => Step feed s s') ∧
    (∀ s, Runs feed start s → (∃ s', Step feed s s') ∨ ∃ r, s.stage = .finished r ∧ s.queue = []) ∧
    (∃ received r, Drained feed received r) ∧
    (∀ received r, Drained feed received r →
      (∀ es, (∃ rest, Opens feed.bytes es rest) ↔
        (∃ rest, Opens feed.bytes [] rest) ∧ es <+: received) ∧
      ((¬ ∃ rest, Opens feed.bytes [] rest) → received = []) ∧
      (∀ es, Lists feed.bytes es → es = received ∧ r = .ok received.length) ∧
      ((¬ ∃ es, Lists feed.bytes es) → ∃ text, r = .error (.manifest feed.path text))) ∧
    (∀ s, s.left = true → (∃ s', Step feed s s') ∨ ∃ r, s.stage = .finished r) ∧
    (∀ s, Runs feed start s → (∀ r, s.stage ≠ .finished r) → ∃ r, Deserted feed s.received r) ∧
    (∀ received r, Deserted feed received r →
      ∃ m, r = .ok m ∧ received.length ≤ m ∧ m ≤ received.length + max feed.depth 1) ∧
    ∀ t folder l, t.find folder (Utf8.encode feed.path) = .ok (l, .file feed.bytes) →
      (∀ received r, Drained feed received r →
        readPath t folder feed.path none = (received, r)) ∧
      ∀ received r, Deserted feed received r → ∃ lost, lost.length ≤ max feed.depth 1 ∧
        readPath t folder feed.path (some (received ++ lost).length) = (received ++ lost, r) := by
  refine ⟨wellFounded_step feed, fun s => exists_step_of_runs, ⟨_, _, drained_iff.mpr ⟨rfl, rfl⟩⟩,
    fun received r h => ?_, fun s => exists_step_of_left, fun s hruns hworks => ?_,
    fun received r h => ?_, fun t folder l hfind => ⟨fun _ _ => readPath_of_drained hfind,
      fun _ _ => exists_readPath_of_deserted hfind⟩⟩
  · obtain ⟨rfl, rfl⟩ := drained_iff.mp h
    exact ⟨fun es => opens_iff_isPrefix, entries_read_of_not_opens, fun es => result_of_lists,
      result_of_not_lists⟩
  · obtain ⟨s', r, hleft, hstage⟩ := exists_finished_of_left (s := s.leave) rfl
    exact ⟨r, s, s', hruns, hworks, rfl, hleft, hstage⟩
  · obtain ⟨lost, rfl, hlength, -⟩ := eq_of_deserted h
    exact ⟨_, rfl, Nat.le_add_right _ _, Nat.add_le_add_left hlength _⟩

end Forwarding

end DataStaging.Manifest
