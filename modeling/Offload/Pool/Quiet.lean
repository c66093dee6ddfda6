/-
**Letting a pool run until it is quiet.**

A worker rests when its queue is empty and the pool is open, and it is stuck when its job is
blocked.  The pool is quiet when nobody can do anything but rest.

Main definitions:

* `Pool.Scheduler.submitNow` — a submission from taking the lock to giving it back;
* `Pool.Scheduler.settle` — every worker, and then the closing call, run on as far as they can.
-/

import Offload.Pool.Step

set_option autoImplicit false
set_option relaxedAutoImplicit false

namespace Offload.Pool.Scheduler

variable {ρ S : Type}

/-! ### Submitting at once -/

/-- Let the submission that holds the lock run on, for at most the given number of steps. -/
def proceedFor (exec : Executor ρ S) : Nat → Scheduler ρ S → Option Event × Scheduler ρ S
  | 0, s => (none, s)
  | bound + 1, s =>
      match s.step exec .proceed with
      | none => (none, s)
      | some (s, some event) => (some event, s)
      | some (s, none) => proceedFor exec bound s

/-- Submit a job without letting anybody in between; the result is the slot, unless the pool is
closed.  One look at the cursor, one at each tail and six more steps are all it takes. -/
def submitNow (exec : Executor ρ S) (job : Job) (s : Scheduler ρ S) :
    Option Nat × Scheduler ρ S :=
  match s.step exec (.submit job) with
  | none => (none, s)
  | some (s, _) =>
      match proceedFor exec (s.pool.size + 7) s with
      | (some (.accepted _ slot), s) => (some slot, s)
      | (_, s) => (none, s)

/-! ### Letting everybody run -/

/-- The worker has nothing to do. -/
def isResting (s : Scheduler ρ S) (slot : Nat) : Bool :=
  match s.pool.lanes[slot]? with
  | none => true
  | some lane =>
      match lane.worker, lane.queue with
      | .looking, [] => !s.pool.closed
      | _, _ => false

/-- Let a worker run on until it rests or is stuck, for at most the given number of steps. -/
def workFor (exec : Executor ρ S) (slot : Nat) : Nat → Scheduler ρ S → Scheduler ρ S
  | 0, s => s
  | bound + 1, s =>
      if s.isResting slot then s
      else
        match s.step exec (.work slot) with
        | none => s
        | some (s, _) => workFor exec slot bound s

/-- Let the closing call run on until it is stuck, for at most the given number of steps. -/
def windFor (exec : Executor ρ S) : Nat → Scheduler ρ S → Scheduler ρ S
  | 0, s => s
  | bound + 1, s =>
      match s.step exec .wind with
      | none => s
      | some (s, _) => windFor exec bound s

/-- The number of jobs that wait in queues. -/
def queued (s : Scheduler ρ S) : Nat :=
  s.pool.lanes.foldr (fun lane total => lane.queue.length + total) 0

/-- A bound on the number of steps that a worker can make: a job takes at most eight besides those
of its run, and four end the worker. -/
def workBound (exec : Executor ρ S) (s : Scheduler ρ S) : Nat :=
  (s.queued + 1) * (exec.effort s.shared + 8) + 4

/-- A bound on the number of steps that the closing call can make. -/
def windBound (s : Scheduler ρ S) : Nat := 2 * (s.pool.size + 1) + 5 * s.queued + 8

/-- Let every worker run on as far as it can. -/
def settleWorkers (exec : Executor ρ S) (s : Scheduler ρ S) : Scheduler ρ S :=
  (List.range s.pool.size).foldl (fun s slot => workFor exec slot (s.workBound exec) s) s

/-- Let everybody run on as far as possible.  The closing call comes last: it waits for the workers
and sets none of them free. -/
def settle (exec : Executor ρ S) (s : Scheduler ρ S) : Scheduler ρ S :=
  let s := s.settleWorkers exec
  windFor exec s.windBound s

end Offload.Pool.Scheduler
