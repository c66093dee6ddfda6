/-
**The steps of one worker.**

What the worker of a slot does next is settled by its queue and by where it stands, as long as the
pool is open and its job is not blocked.  Nobody else's queue and worker are touched.

Main definitions:

* `Pool.Worker.isReady`, `Pool.Worker.isActive` — workers without a job, and workers that have not
  been stopped;
* `Pool.Working` — **the steps of one worker** of an open pool;
* `Pool.Worked` — a step of the pool that is such a step.

Main results:

* `Pool.worked_of_transition` — every step of a worker of an open pool is one of the listed ones;
* `Pool.isSome_work` — a worker whose job is not blocked can go on;
* `Pool.Working.keepsJobs` — no job is lost.
-/

import Offload.Proofs.Pool.Custody
import Offload.Proofs.Pool.Running

set_option autoImplicit false
set_option relaxedAutoImplicit false

namespace Offload.Pool

variable {ρ S : Type}

/-- The worker has no job, and nothing has stopped it. -/
def Worker.isReady : Worker ρ → Bool
  | .starting | .looking | .doubting => true
  | _ => false

/-- Nothing has stopped the worker. -/
def Worker.isActive : Worker ρ → Bool
  | .stopping | .stopped | .died _ => false
  | _ => true

theorem Worker.isActive_of_isReady {w : Worker ρ} (hw : w.isReady = true) : w.isActive = true := by
  cases w <;> first | rfl | cases hw

theorem Worker.hand_of_isReady {w : Worker ρ} (hw : w.isReady = true) : w.hand = [] := by
  cases w <;> first | rfl | cases hw

/-- What a worker of an open pool does next: its queue and where it stands, before and after, with
what it shows and the state that the jobs share. -/
inductive Working (exec : Executor ρ S) (slot : Nat) (shared : S) :
    List Job → Worker ρ → List Job → Worker ρ → Option Event → S → Prop
  | start (queue : List Job) (line : String) :
      Working exec slot shared queue .starting queue .looking none (exec.note .debug line shared)
  | miss : Working exec slot shared [] .looking [] .doubting none shared
  | find (job : Job) (queue : List Job) :
      Working exec slot shared (job :: queue) .looking queue (.holding job) none shared
  | begin (queue : List Job) (job : Job) :
      Working exec slot shared queue (.holding job) queue
        (.running job (exec.begin slot job.input shared).1) (some (.begun job slot))
        (exec.begin slot job.input shared).2
  | goOn (queue : List Job) (job : Job) (run run' : ρ) (shared' : S)
      (hstep : exec.step slot run shared = .continues run' shared') :
      Working exec slot shared queue (.running job run) queue (.running job run') none shared'
  | return (queue : List Job) (job : Job) (run : ρ) (outcome : Outcome Bytes) (shared' : S)
      (hstep : exec.step slot run shared = .returned outcome shared') :
      Working exec slot shared queue (.running job run) queue (.finishing (.begin job outcome))
        (some (.returned job slot outcome)) shared'
  | die (queue : List Job) (job : Job) (run : ρ) (shared' : S)
      (hstep : exec.step slot run shared = .died shared') :
      Working exec slot shared queue (.running job run) queue (.died job) (some (.died job slot))
        shared'
  | finish (queue : List Job) (f : Finish) (f' : Option Finish) (e : Option Event)
      (change : Nat → Nat) (hf : LaneFinish slot f f' e change) :
      Working exec slot shared queue (.finishing f) queue (.afterFinish f') e shared
  | doubt (queue : List Job) : Working exec slot shared queue .doubting queue .looking none shared
  | stop (queue : List Job) (line : String) :
      Working exec slot shared queue .stopping queue .stopped none (exec.note .debug line shared)

/-- A step of the pool that is a step of the worker of one slot. -/
structure Worked (exec : Executor ρ S) (slot : Nat) (s s' : Scheduler ρ S) (e : Option Event)
    (lane lane' : Lane ρ) : Prop where
  before : s.pool.lanes[slot]? = some lane
  after : s'.pool.lanes[slot]? = some lane'
  working : Working exec slot s.shared lane.queue lane.worker lane'.queue lane'.worker e s'.shared
  others : ∀ i, i ≠ slot → s'.pool.lanes[i]? = s.pool.lanes[i]?
  size : s'.pool.size = s.pool.size
  closed : s'.pool.closed = s.pool.closed

variable {exec : Executor ρ S} {s s' : Scheduler ρ S} {e : Option Event} {slot : Nat}

private theorem worked_of_change {lane : Lane ρ} {worker : Worker ρ} {change : Lane ρ → Lane ρ}
    (hl : s.pool.lanes[slot]? = some lane) (hw : lane.worker = worker)
    (hlanes : s'.pool.lanes = s.pool.lanes.modify slot change)
    (hclosed : s'.pool.closed = s.pool.closed)
    (hworking : Working exec slot s.shared lane.queue worker (change lane).queue
      (change lane).worker e s'.shared) :
    ∃ lane lane', Worked exec slot s s' e lane lane' := by
  refine ⟨lane, change lane, hl, ?_, hw ▸ hworking, fun i hi => ?_, ?_, hclosed⟩
  · simp [hlanes, hl]
  · rw [hlanes, List.getElem?_modify_ne _ _ (Ne.symm hi)]
  · rw [size, size, hlanes, List.length_modify]

/-- **Every step of a worker of an open pool is one of the listed ones.** -/
theorem worked_of_transition (hopen : s.pool.closed = false)
    (ht : Scheduler.Transition exec s (.work slot) e s') :
    ∃ lane lane', Worked exec slot s s' e lane lane' := by
  -- the steps of a worker that has seen the pool closed are out of the question
  have hstill {closed : Bool} (hclosed : closed = true) (h : s.pool.closed = closed) :
      False := Bool.false_ne_true (hopen.symm.trans (h.trans hclosed))
  cases ht with
  | start _ lane hl hw line => exact worked_of_change hl hw rfl rfl (.start lane.queue line)
  | miss _ lane hl hw hq =>
      refine worked_of_change hl hw rfl rfl ?_
      rw [hq]
      exact .miss
  | find _ lane job queue hl hw hq =>
      refine worked_of_change hl hw rfl rfl ?_
      rw [hq]
      exact .find job queue
  | reject _ _ _ _ _ hclosed => exact (hstill hclosed rfl).elim
  | begin _ lane job hl hw => exact worked_of_change hl hw rfl rfl (.begin lane.queue job)
  | goOn _ lane job run run' shared hl hw hstep =>
      exact worked_of_change hl hw rfl rfl (.goOn lane.queue job run run' shared hstep)
  | «return» _ lane job run outcome shared hl hw hstep =>
      exact worked_of_change hl hw rfl rfl (.return lane.queue job run outcome shared hstep)
  | die _ lane job run shared hl hw hstep =>
      exact worked_of_change hl hw rfl rfl (.die lane.queue job run shared hstep)
  | finish _ lane f f' e t hl hw hf =>
      obtain ⟨change, hlf, hfin⟩ := Scheduler.laneFinish_of_finishing hf
      have hshared : t.shared = s.shared := by cases hf <;> rfl
      refine worked_of_change hl hw (hfin.lanes_setWorker (.afterFinish f')) hfin.closed ?_
      show Working exec slot s.shared lane.queue (.finishing f) lane.queue (.afterFinish f') e
        t.shared
      rw [hshared]
      exact .finish lane.queue f f' e change hlf
  | doubtOpen _ lane hl hw => exact worked_of_change hl hw rfl rfl (.doubt lane.queue)
  | doubtClosed _ _ _ _ hclosed => exact (hstill hclosed rfl).elim
  | stop _ lane hl hw line => exact worked_of_change hl hw rfl rfl (.stop lane.queue line)

/-- **A worker whose job is not blocked can go on.** -/
theorem isSome_work {lane : Lane ρ} (hl : s.pool.lanes[slot]? = some lane)
    (hactive : lane.worker.isActive = true)
    (hblocked : ∀ job run, lane.worker = .running job run →
      exec.step slot run s.shared ≠ .blocked) : (s.step exec (.work slot)).isSome = true := by
  have hworker := worker?_of_lane hl
  cases hw : lane.worker with
  | running job run =>
      exact isSome_step_of_running (hworker.trans (congrArg some hw)) (hblocked job run hw)
  | holding job => exact isSome_step_of_holding (hworker.trans (congrArg some hw))
  | finishing f => exact isSome_step_of_finishing (hworker.trans (congrArg some hw))
  | looking =>
      simp only [Scheduler.step, hl, Option.bind_some, Scheduler.work, hw]
      split <;> rfl
  | starting | doubting =>
      simp only [Scheduler.step, hl, Option.bind_some, Scheduler.work, hw]
      rfl
  | stopping | stopped | died =>
      rw [hw] at hactive
      cases hactive

namespace Working

variable {shared shared' : S} {queue queue' : List Job} {w w' : Worker ρ}

theorem slot?_eq (h : Working exec slot shared queue w queue' w' e shared') :
    ∀ e', e = some e' → e'.slot? = some slot := by
  rintro e' rfl
  cases h with
  | finish _ _ _ _ _ hf => cases hf; rfl
  | _ => rfl

theorem of_continues {job : Job} {run run' : ρ} {shared₁ : S}
    (h : Working exec slot shared queue (.running job run) queue' w' e shared')
    (hstep : exec.step slot run shared = .continues run' shared₁) :
    queue' = queue ∧ w' = .running job run' ∧ e = none ∧ shared' = shared₁ := by
  cases h with
  | goOn _ _ _ _ _ h =>
      cases h.symm.trans hstep
      exact ⟨rfl, rfl, rfl, rfl⟩
  | «return» _ _ _ _ _ h | die _ _ _ _ h => cases h.symm.trans hstep

theorem of_returned {job : Job} {run : ρ} {outcome : Outcome Bytes} {shared₁ : S}
    (h : Working exec slot shared queue (.running job run) queue' w' e shared')
    (hstep : exec.step slot run shared = .returned outcome shared₁) :
    queue' = queue ∧ w' = .finishing (.begin job outcome) ∧
      e = some (.returned job slot outcome) ∧ shared' = shared₁ := by
  cases h with
  | «return» _ _ _ _ _ h =>
      cases h.symm.trans hstep
      exact ⟨rfl, rfl, rfl, rfl⟩
  | goOn _ _ _ _ _ h | die _ _ _ _ h => cases h.symm.trans hstep

/-- A worker that has nothing to do does nothing but log. -/
theorem of_empty (h : Working exec slot shared [] w queue' w' e shared') (hw : w.isReady = true) :
    queue' = [] ∧ w'.isReady = true ∧ e = none ∧
      (shared' = shared ∨ ∃ line, shared' = exec.note .debug line shared) := by
  cases h with
  | start _ line => exact ⟨rfl, rfl, rfl, Or.inr ⟨line, rfl⟩⟩
  | miss | doubt => exact ⟨rfl, rfl, rfl, Or.inl rfl⟩
  | _ => cases hw

/-- **No job is lost**: a job leaves the queue into the hand of the worker, and its hand when it is
resolved. -/
theorem keepsJobs (h : Working exec slot shared queue w queue' w' e shared')
    (hactive : w'.isActive = true) :
    resolved slot e.toList ++ (w'.hand ++ queue') = w.hand ++ queue := by
  cases h with
  | die => cases hactive
  | finish _ _ _ _ _ hf =>
      cases hf with
      | resolve =>
          simp [Worker.hand, Worker.afterFinish, Finish.hand, jobsOf, Event.slot?, Event.job]
      | _ => rfl
  | _ => rfl

end Working

end Offload.Pool
