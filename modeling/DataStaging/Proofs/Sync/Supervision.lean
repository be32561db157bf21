import DataStaging.Sync.Session
import Mathlib.Data.List.Basic
import Mathlib.Logic.Relation

/-!
# A session, its command and its listener

While a session lives, it reports at regular times that it is alive; its command may end, a stop may
be raised, and the listener may read, lag or leave, all at any time. Whichever of command and stop
the session sees first ends it. Then it offers its last report, for as long as it waits between two
others: it is over once that report was taken, or once nobody is there to take it, or once the time
is up and the queue has still no room.

A command that has ended counts as alive until the session has seen its end.

Results:
* `account_step`: what one step keeps.
* `account_of_runs`: what was offered, what of it came to the listener's side, what ended the
  session, and how its last report was lost, if it was.
-/

namespace DataStaging

/-- Where a session stands. -/
inductive SupervisorStage
  /-- It reports next when this time has come. -/
  | watching (due : Nat)
  /-- It was ended, and its last report is offered up to a time. -/
  | offering (finish : SessionEnd) (deadline : Nat)
  | done (finish : SessionEnd) (outcome : Except Fault Unit)

/-- A session with its clock, its command and its queue. -/
structure Supervised where
  clock : Nat
  stopRaised : Bool
  /-- The status of the command, or that it died of a signal, if it has ended. -/
  exit : Option (Option Int)
  queue : ReportQueue
  /-- The reports that were offered so far, whether they were taken or not. -/
  offered : List Bool
  stage : SupervisorStage

namespace Supervised

/-- Before the first step, with an empty queue. -/
def start (capacity : Nat) : Supervised :=
  ⟨0, false, none, .ofCapacity capacity, [], .watching 0⟩

/-- One step of the clock, the command, the listener or the session, which reports every
    `interval`: the loop of `SyncSessionSupervisor::run` (`sync`, lines 71–124), whose branches
    may be taken in any order, and the last report with its time limit. -/
inductive Step (interval : Nat) (s : Supervised) : Supervised → Prop where
  | pass {time : Nat} : s.clock ≤ time → Step interval s { s with clock := time }
  | raise : Step interval s { s with stopRaised := true }
  | exit (status : Option Int) : s.exit = none → Step interval s { s with exit := some status }
  | read : Step interval s { s with queue := s.queue.read }
  | leave : Step interval s { s with queue := s.queue.leave }
  /-- The session reports that it is alive. -/
  | tick {due : Nat} : s.stage = .watching due → due ≤ s.clock → Step interval s { s with
      queue := s.queue.offer true
      offered := s.offered ++ [true]
      stage := .watching (due + interval) }
  /-- The session sees the stop, and begins to offer its last report. -/
  | seeStop {due : Nat} : s.stage = .watching due → s.stopRaised = true → Step interval s { s with
      offered := s.offered ++ [false]
      stage := .offering .stopped (s.clock + interval) }
  /-- The session sees the end of its command, and begins to offer its last report. -/
  | seeExit {due : Nat} {status : Option Int} : s.stage = .watching due → s.exit = some status →
      Step interval s { s with
        offered := s.offered ++ [false]
        stage := .offering (.exited status) (s.clock + interval) }
  /-- The last report is taken. -/
  | handOver {finish : SessionEnd} {deadline : Nat} : s.stage = .offering finish deadline →
      s.queue.hasRoom = true → Step interval s { s with
        queue := s.queue.offer false
        stage := .done finish (Session.outcome finish) }
  /-- Nobody is there to take the last report. -/
  | desert {finish : SessionEnd} {deadline : Nat} : s.stage = .offering finish deadline →
      s.queue.heard = false →
      Step interval s { s with stage := .done finish (Session.outcome finish) }
  /-- There is no room for the last report, and the time is up. -/
  | giveUp {finish : SessionEnd} {deadline : Nat} : s.stage = .offering finish deadline →
      s.queue.heard = true → s.queue.hasRoom = false → deadline ≤ s.clock →
      Step interval s { s with stage := .done finish (Session.outcome finish) }

/-- Any number of steps. -/
def Runs (interval : Nat) : Supervised → Supervised → Prop := Relation.ReflTransGen (Step interval)

/-- The listener is there and has left no room in the queue. -/
def Full (s : Supervised) : Prop := s.queue.heard = true ∧ s.queue.hasRoom = false

/-- A number of steps during all of which the queue is full. -/
def StaysFull (interval : Nat) (s s' : Supervised) : Prop :=
  s.Full ∧ Relation.ReflTransGen (fun u v => Step interval u v ∧ v.Full) s s'

end Supervised

/-! ## The queue -/

namespace ReportQueue

variable {q : ReportQueue}

/-- The reports that came to the listener's side and are not lost, the oldest first. -/
def arrived (q : ReportQueue) : List Bool := q.received ++ q.waiting

theorem arrived_read (q : ReportQueue) : q.read.arrived = q.arrived := by
  unfold read arrived
  split
  · rfl
  · rename_i report rest hwaiting
    simp [hwaiting]

theorem arrived_leave (q : ReportQueue) : q.leave.arrived = q.received := List.append_nil _

theorem arrived_offer_sublist (q : ReportQueue) (report : Bool) :
    (q.offer report).arrived.Sublist (q.arrived ++ [report]) := by
  unfold offer
  split
  · rw [arrived, ← List.append_assoc]
    exact List.Sublist.refl _
  · exact List.sublist_append_left _ _

theorem mem_arrived_offer (report : Bool) (h : q.hasRoom = true) :
    report ∈ (q.offer report).arrived := by
  rw [offer, if_pos h, arrived]
  simp

theorem heard_read (q : ReportQueue) : q.read.heard = q.heard := by
  unfold read
  split <;> rfl

/-- Reading makes room, or at least leaves it. -/
theorem hasRoom_read (h : q.hasRoom = true) : q.read.hasRoom = true := by
  unfold read
  split
  · exact h
  · rename_i report rest hwaiting
    simp only [hasRoom, hwaiting, List.length_cons, Bool.and_eq_true, decide_eq_true_eq] at h ⊢
    exact ⟨h.1, Nat.lt_of_succ_lt h.2⟩

end ReportQueue

/-! ## What is kept -/

namespace SupervisorStage

/-- What has ended the session, if it was ended. -/
def finish? : SupervisorStage → Option SessionEnd
  | watching _ => none
  | offering finish _ | done finish _ => some finish

/-- The last report, once it is offered. -/
def lastOffered : SupervisorStage → List Bool
  | watching _ => []
  | offering _ _ | done _ _ => [false]

/-- The last report, once it can have been taken. -/
def lastTaken : SupervisorStage → List Bool
  | watching _ | offering _ _ => []
  | done _ _ => [false]

end SupervisorStage

namespace Supervised

variable {interval capacity : Nat} {s s' : Supervised}

/-- What has ended the session has happened. -/
def Seen (s : Supervised) : SessionEnd → Prop
  | .stopped => s.stopRaised = true
  | .exited status => s.exit = some status

/-- The last report was offered for a whole interval during which the queue was full. -/
def LeftFull (interval capacity : Nat) (s : Supervised) : Prop :=
  ∃ a b finish, Runs interval (start capacity) a ∧
    a.stage = .offering finish (a.clock + interval) ∧ StaysFull interval a b ∧
    b.stage = a.stage ∧ a.clock + interval ≤ b.clock ∧ Runs interval b s

/-- Reports that the session is alive come first and the last one after them, among those offered
    as well as among those that arrived; and a queue that is full while the last report is offered
    has been so since that began. -/
structure Account (interval capacity : Nat) (s : Supervised) : Prop where
  reports : ∃ n, s.offered = List.replicate n true ++ s.stage.lastOffered ∧
    s.queue.arrived.Sublist (List.replicate n true ++ s.stage.lastTaken)
  seen : ∀ finish, s.stage.finish? = some finish → s.Seen finish
  full : ∀ finish deadline, s.stage = .offering finish deadline → s.Full →
    ∃ a, Runs interval (start capacity) a ∧ a.stage = .offering finish deadline ∧
      StaysFull interval a s ∧ a.clock + interval = deadline
  fate : ∀ finish outcome, s.stage = .done finish outcome → outcome = Session.outcome finish ∧
    (false ∈ s.queue.arrived ∨ s.queue.heard = false ∨ LeftFull interval capacity s)

theorem account_start (interval capacity : Nat) : Account interval capacity (start capacity) where
  reports := ⟨0, rfl, List.Sublist.refl _⟩
  seen := by rintro finish ⟨⟩
  full := by rintro finish deadline ⟨⟩
  fate := by rintro finish outcome ⟨⟩

/-- A step of the clock, the command or the listener. -/
structure Idle (s s' : Supervised) : Prop where
  stage : s'.stage = s.stage
  offered : s'.offered = s.offered
  seen : ∀ finish, s.Seen finish → s'.Seen finish
  arrived : s'.queue.arrived.Sublist s.queue.arrived
  kept : false ∈ s.queue.arrived → false ∈ s'.queue.arrived ∨ s'.queue.heard = false
  heard : s.queue.heard = false → s'.queue.heard = false
  full : s'.Full → s.Full

/-- A step of the clock or the command. -/
theorem idle_of_seen {clock : Nat} {stopRaised : Bool} {exit : Option (Option Int)}
    (hseen : ∀ finish, s.Seen finish →
      Seen { s with clock := clock, stopRaised := stopRaised, exit := exit } finish) :
    Idle s { s with clock := clock, stopRaised := stopRaised, exit := exit } where
  stage := rfl
  offered := rfl
  seen := hseen
  arrived := List.Sublist.refl _
  kept := Or.inl
  heard := id
  full := id

theorem idle_read (s : Supervised) : Idle s { s with queue := s.queue.read } where
  stage := rfl
  offered := rfl
  seen := by
    rintro (status | _) h <;> exact h
  arrived := by rw [ReportQueue.arrived_read]
  kept := fun h => Or.inl (s.queue.arrived_read ▸ h)
  heard := fun h => (s.queue.heard_read).trans h
  full := by
    rintro ⟨hheard, hfull⟩
    refine ⟨(s.queue.heard_read).symm.trans hheard, Bool.eq_false_iff.mpr fun hroom => ?_⟩
    rw [ReportQueue.hasRoom_read hroom] at hfull
    cases hfull

theorem idle_leave (s : Supervised) : Idle s { s with queue := s.queue.leave } where
  stage := rfl
  offered := rfl
  seen := by
    rintro (status | _) h <;> exact h
  arrived := by
    rw [ReportQueue.arrived_leave]
    exact List.sublist_append_left _ _
  kept := fun _ => Or.inr rfl
  heard := fun _ => rfl
  full := by
    rintro ⟨⟨⟩, -⟩

/-- The steps of the clock, the command and the listener keep the account. -/
theorem Idle.account (h : Idle s s') (hstep : Step interval s s')
    (acc : Account interval capacity s) : Account interval capacity s' where
  reports := by
    obtain ⟨n, hoffered, harrived⟩ := acc.reports
    rw [h.stage, h.offered]
    exact ⟨n, hoffered, h.arrived.trans harrived⟩
  seen := fun finish hfinish => h.seen finish (acc.seen finish (h.stage ▸ hfinish))
  full := by
    intro finish deadline hstage hfull
    obtain ⟨a, ha, hoffering, ⟨hfrom, hstays⟩, hdeadline⟩ :=
      acc.full finish deadline (h.stage.symm.trans hstage) (h.full hfull)
    exact ⟨a, ha, hoffering, ⟨hfrom, hstays.tail ⟨hstep, hfull⟩⟩, hdeadline⟩
  fate := by
    intro finish outcome hstage
    obtain ⟨houtcome, hfate⟩ := acc.fate finish outcome (h.stage.symm.trans hstage)
    refine ⟨houtcome, ?_⟩
    rcases hfate with harrived | hleft | ⟨a, b, final, ha, hoffering, hab, hsame, hlong, hb⟩
    · exact (h.kept harrived).imp_right Or.inl
    · exact Or.inr (Or.inl (h.heard hleft))
    · exact Or.inr (Or.inr ⟨a, b, final, ha, hoffering, hab, hsame, hlong, hb.tail hstep⟩)

theorem Account.tick (acc : Account interval capacity s) {due : Nat}
    (hstage : s.stage = .watching due) : Account interval capacity { s with
      queue := s.queue.offer true
      offered := s.offered ++ [true]
      stage := .watching (due + interval) } where
  reports := by
    obtain ⟨n, hoffered, harrived⟩ := acc.reports
    rw [hstage, SupervisorStage.lastOffered, List.append_nil] at hoffered
    rw [hstage, SupervisorStage.lastTaken, List.append_nil] at harrived
    refine ⟨n + 1, ?_, ?_⟩
    · rw [hoffered, List.replicate_succ']
      exact (List.append_nil _).symm
    · rw [List.replicate_succ', SupervisorStage.lastTaken, List.append_nil]
      exact (s.queue.arrived_offer_sublist true).trans (harrived.append (List.Sublist.refl _))
  seen := by rintro finish ⟨⟩
  full := by rintro finish deadline ⟨⟩
  fate := by rintro finish outcome ⟨⟩

/-- When the session sees its end, what it offers last comes after all other reports. -/
theorem Account.see (acc : Account interval capacity s) {due : Nat} {finish : SessionEnd}
    (hstage : s.stage = .watching due) (hseen : s.Seen finish) (hruns : Runs interval
      (start capacity) { s with
        offered := s.offered ++ [false]
        stage := .offering finish (s.clock + interval) }) :
    Account interval capacity { s with
      offered := s.offered ++ [false]
      stage := .offering finish (s.clock + interval) } where
  reports := by
    obtain ⟨n, hoffered, harrived⟩ := acc.reports
    rw [hstage] at hoffered harrived
    refine ⟨n, ?_, harrived⟩
    rw [hoffered, SupervisorStage.lastOffered, List.append_nil]
    rfl
  seen := by
    rintro finish' ⟨⟩
    cases finish <;> exact hseen
  full := by
    rintro finish' deadline ⟨⟩ hfull
    exact ⟨_, hruns, rfl, ⟨hfull, .refl⟩, rfl⟩
  fate := by rintro finish' outcome ⟨⟩

/-- The session is over once its last report was taken or need not be offered any more. -/
theorem Account.finish (acc : Account interval capacity s) {finish : SessionEnd} {deadline : Nat}
    (hstage : s.stage = .offering finish deadline) {queue : ReportQueue}
    (hqueue : queue.arrived.Sublist (s.queue.arrived ++ [false]))
    (hfate : false ∈ queue.arrived ∨ queue.heard = false ∨ LeftFull interval capacity
      { s with queue := queue, stage := .done finish (Session.outcome finish) }) :
    Account interval capacity
      { s with queue := queue, stage := .done finish (Session.outcome finish) } where
  reports := by
    obtain ⟨n, hoffered, harrived⟩ := acc.reports
    rw [hstage] at hoffered harrived
    rw [SupervisorStage.lastTaken, List.append_nil] at harrived
    exact ⟨n, hoffered, hqueue.trans (harrived.append (List.Sublist.refl _))⟩
  seen := by
    rintro finish' ⟨⟩
    have hseen := acc.seen finish (by rw [hstage]; rfl)
    cases finish <;> exact hseen
  full := by rintro finish' deadline ⟨⟩
  fate := by
    rintro finish' outcome ⟨⟩
    exact ⟨rfl, hfate⟩

theorem account_step (hs : Runs interval (start capacity) s) (h : Step interval s s')
    (acc : Account interval capacity s) : Account interval capacity s' := by
  have hruns : Runs interval (start capacity) s' := hs.tail h
  have hstep := h
  cases h with
  | @pass time _ =>
    have hidle : Idle s { s with clock := time } :=
      idle_of_seen (by rintro (status | _) hseen <;> exact hseen)
    exact hidle.account hstep acc
  | raise =>
    have hidle : Idle s { s with stopRaised := true } := by
      refine idle_of_seen ?_
      rintro (status | _) hseen
      · exact hseen
      · rfl
    exact hidle.account hstep acc
  | exit status hnone =>
    have hidle : Idle s { s with exit := some status } := by
      refine idle_of_seen ?_
      rintro (status' | _) hseen
      · cases hnone.symm.trans hseen
      · exact hseen
    exact hidle.account hstep acc
  | read => exact (idle_read s).account hstep acc
  | leave => exact (idle_leave s).account hstep acc
  | tick hstage _ => exact acc.tick hstage
  | seeStop hstage hstop => exact acc.see hstage hstop hruns
  | seeExit hstage hexit => exact acc.see hstage hexit hruns
  | handOver hstage hroom =>
    exact acc.finish hstage (s.queue.arrived_offer_sublist false)
      (Or.inl (ReportQueue.mem_arrived_offer false hroom))
  | desert hstage hleft =>
    exact acc.finish hstage (List.sublist_append_left _ _) (Or.inr (Or.inl hleft))
  | giveUp hstage hheard hroom htime =>
    refine acc.finish hstage (List.sublist_append_left _ _) (Or.inr (Or.inr ?_))
    obtain ⟨a, ha, hoffering, hstays, rfl⟩ := acc.full _ _ hstage ⟨hheard, hroom⟩
    exact ⟨a, s, _, ha, hoffering, hstays, hstage.trans hoffering.symm, htime, .single hstep⟩

theorem account_of_runs (h : Runs interval (start capacity) s) : Account interval capacity s := by
  induction h with
  | refl => exact account_start interval capacity
  | tail hs hstep ih => exact account_step hs hstep ih

end Supervised

end DataStaging
