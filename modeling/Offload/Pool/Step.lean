/-
**The pool of slots: its steps.**

Main definitions:

* `Pool.Scheduler` — a pool with the completions and the state that its jobs share;
* `Pool.Move` — whose turn it is;
* `Pool.Event` — what can be seen of a step from outside;
* `Pool.Scheduler.step` — one step, which is missing when the move is not possible.
-/

import Offload.Pool.Basic

set_option autoImplicit false
set_option relaxedAutoImplicit false

namespace Offload.Pool

/-- A pool with the completions and the shared state. -/
structure Scheduler (ρ S : Type) where
  pool : Pool ρ
  ledger : Ledger
  shared : S

/-- Whose turn it is. -/
inductive Move where
  /-- A call to submit a job takes the lock. -/
  | submit (job : Job)
  /-- The submission that holds the lock makes its next step. -/
  | proceed
  /-- The worker of a slot makes its next step. -/
  | work (slot : Nat)
  /-- A call to close the pool takes the lock. -/
  | close
  /-- The closing call makes its next step. -/
  | wind
  deriving DecidableEq

/-- What can be seen of a step from outside. -/
inductive Event where
  | accepted (job : Job) (slot : Nat)
  | refused (job : Job)
  | begun (job : Job) (slot : Nat)
  | returned (job : Job) (slot : Nat) (outcome : Outcome Bytes)
  /-- A job has taken the worker of its slot with it. -/
  | died (job : Job) (slot : Nat)
  | resolved (job : Job) (slot : Nat) (outcome : Outcome Bytes)
  deriving DecidableEq

namespace Scheduler

variable {ρ S : Type}

/-- What a step comes to. -/
abbrev Result (ρ S : Type) : Type := Scheduler ρ S × Option Event

/-- A step that changes only the pool and shows nothing. -/
def quietly (s : Scheduler ρ S) (pool : Pool ρ) : Result ρ S := ({ s with pool }, none)

/-! ### Submitting -/

/-- The slot's last job is resolved, or there never was one. -/
def isFree (s : Scheduler ρ S) (slot : Nat) : Bool :=
  ((s.pool.lanes[slot]?).map fun lane => lane.tail.all s.ledger.isResolved).getD false

/-- The next step of the submission that holds the lock. -/
def proceed (s : Scheduler ρ S) (job : Job) (next : SubmissionStep) : Result ρ S :=
  let goTo (pool : Pool ρ) (next : SubmissionStep) : Result ρ S :=
    s.quietly { pool with submission := some ⟨job, next⟩ }
  let p := s.pool
  match next with
  | .entering =>
      if p.closed then
        ({ s with pool := { p with submission := none } }, some (.refused job))
      else goTo { p with cursor := (p.cursor + 1) % p.size } .glancing
  | .glancing => goTo p (if s.isFree p.cursor then .enlisting else .scanning p.cursor 0)
  | .scanning start offset =>
      if offset < p.size then
        let slot := (start + offset) % p.size
        if s.isFree slot then goTo { p with cursor := slot } .enlisting
        else goTo p (.scanning start (offset + 1))
      else goTo p .enlisting
  | .enlisting =>
      goTo (p.modifyLane p.cursor fun lane => { lane with tail := some job.ticket }) .deepening
  | .deepening =>
      goTo (p.modifyLane p.cursor fun lane => { lane with depth := lane.depth + 1 }) .counting
  | .counting => goTo { p with submitted := p.submitted + 1 } .queueing
  | .queueing =>
      let queued := p.modifyLane p.cursor fun lane => { lane with queue := lane.queue ++ [job] }
      ({ s with pool := { queued with submission := none } }, some (.accepted job p.cursor))

/-! ### Finishing -/

/-- The pool after a job with this outcome has been counted. -/
def counted (p : Pool ρ) : Outcome Bytes → Pool ρ
  | .ok _ => { p with completed := p.completed + 1 }
  | .error _ => { p with failed := p.failed + 1 }

/-- The next step of finishing a job of a slot; what is left of it comes along. -/
def finish (s : Scheduler ρ S) (slot : Nat) (f : Finish) : Option Finish × Result ρ S :=
  let p := s.pool
  match f.next with
  | .count => (some { f with next := .leave }, s.quietly (counted p f.outcome))
  | .leave =>
      (some { f with next := .resolve },
        s.quietly (p.modifyLane slot fun lane => { lane with depth := lane.depth - 1 }))
  | .resolve =>
      let (waker, ledger) := s.ledger.resolve f.job.ticket f.outcome
      (some { f with next := .wake waker },
        { s with ledger }, some (.resolved f.job slot f.outcome))
  | .wake waker => (none, { s with ledger := s.ledger.wake f.job.ticket waker }, none)

/-! ### Working -/

/-- Put a worker elsewhere after a step. -/
def placing (slot : Nat) (worker : Worker ρ) (r : Result ρ S) : Result ρ S :=
  ({ r.1 with pool := r.1.pool.setWorker slot worker }, r.2)

/-- The next step of a worker. -/
def work (exec : Executor ρ S) (s : Scheduler ρ S) (slot : Nat) (lane : Lane ρ) :
    Option (Result ρ S) :=
  let p := s.pool
  match lane.worker with
  | .starting =>
      let shared := exec.note .debug s!"accel: slot {slot} worker started" s.shared
      some ({ s with shared, pool := p.setWorker slot .looking }, none)
  | .looking =>
      match lane.queue with
      | [] => some (s.quietly (p.setWorker slot .doubting))
      | job :: queue =>
          let taken := p.modifyLane slot fun lane => { lane with queue, worker := .holding job }
          some (s.quietly taken)
  | .holding job =>
      if p.closed then
        some (s.quietly (p.setWorker slot (.finishing (.begin job (.error .closed)))))
      else
        let (run, shared) := exec.begin slot job.input s.shared
        some ({ s with shared, pool := p.setWorker slot (.running job run) },
          some (.begun job slot))
  | .running job run =>
      match exec.step slot run s.shared with
      | .blocked => none
      | .continues run shared =>
          some ({ s with shared, pool := p.setWorker slot (.running job run) }, none)
      | .returned outcome shared =>
          some ({ s with shared, pool := p.setWorker slot (.finishing (.begin job outcome)) },
            some (.returned job slot outcome))
      | .died shared =>
          some ({ s with shared, pool := p.setWorker slot (.died job) },
            some (.died job slot))
  | .finishing f =>
      match s.finish slot f with
      | (some f, r) => some (placing slot (.finishing f) r)
      | (none, r) => some (placing slot .looking r)
  | .doubting => some (s.quietly (p.setWorker slot (if p.closed then .stopping else .looking)))
  | .stopping =>
      let shared := exec.note .debug s!"accel: slot {slot} worker stopped" s.shared
      some ({ s with shared, pool := p.setWorker slot .stopped }, none)
  | .stopped | .died _ => none

/-! ### Closing -/

/-- Move the closing call on after a step. -/
def winding (closing : Closing) (r : Result ρ S) : Result ρ S :=
  ({ r.1 with pool := { r.1.pool with closing } }, r.2)

/-- The next step of the closing call. -/
def wind (exec : Executor ρ S) (s : Scheduler ρ S) : Option (Result ρ S) :=
  let p := s.pool
  match p.closing with
  | .notBegun | .finished => none
  | .joining next =>
      match p.lanes[next]? with
      | none => some (winding (.draining 0 none) (s, none))
      | some lane =>
          match lane.worker with
          | .stopped => some (winding (.joining (next + 1)) (s, none))
          | .died _ =>
              let shared := exec.note .warn "accel: slot worker panicked" s.shared
              some (winding (.joining (next + 1)) ({ s with shared }, none))
          | _ => none
  | .draining slot (some f) =>
      let (f, r) := s.finish slot f
      some (winding (.draining slot f) r)
  | .draining slot none =>
      match p.lanes[slot]? with
      | none => some (winding .finished (s, none))
      | some lane =>
          match lane.queue with
          | [] => some (winding (.draining (slot + 1) none) (s, none))
          | job :: queue =>
              let popped := p.modifyLane slot fun lane => { lane with queue }
              some (winding (.draining slot (some (.begin job (.error .closed))))
                (s.quietly popped))

/-! ### All moves -/

/-- One step.  The lock has one holder at a time; a second call to close returns at once. -/
def step (exec : Executor ρ S) (s : Scheduler ρ S) : Move → Option (Result ρ S)
  | .submit job =>
      match s.pool.submission with
      | some _ => none
      | none => some (s.quietly { s.pool with submission := some ⟨job, .entering⟩ })
  | .proceed => s.pool.submission.map fun submission => s.proceed submission.job submission.next
  | .work slot => (s.pool.lanes[slot]?).bind fun lane => s.work exec slot lane
  | .close =>
      match s.pool.submission with
      | some _ => none
      | none =>
          if s.pool.closed then some (s, none)
          else some (s.quietly { s.pool with closed := true, closing := .joining 0 })
  | .wind => s.wind exec

end Scheduler

end Offload.Pool
