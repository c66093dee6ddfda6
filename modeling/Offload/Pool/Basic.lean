/-
**The pool of slots: its state.**

A pool has one worker and one queue for each slot.  A submission holds the lock of the scheduler
while it picks a slot, preferring one whose last job is resolved, and joins the queue there.  The
steps of a submission, of each worker and of the closing call are single accesses to the shared
state, so that they can be interleaved in every way.

Main definitions:

* `Pool.Job`, `Pool.Finish` — a job, and the steps left once it has an outcome;
* `Pool.Worker`, `Pool.Lane` — where a worker stands, and what belongs to one slot;
* `Pool.Submission`, `Pool.Closing` — where the lock's holder and the closing call stand;
* `Pool` — the whole pool;
* `Pool.Executor` — how a job is run, one step at a time.
-/

import Offload.Completion
import Offload.Log.Level

set_option autoImplicit false
set_option relaxedAutoImplicit false

namespace Offload

namespace Pool

/-! ### Jobs -/

/-- A job: the name of its completion and its input. -/
structure Job where
  ticket : Ticket
  input : Bytes
  deriving DecidableEq, Inhabited

/-- What is left to do for a job that has an outcome. -/
inductive FinishStep where
  /-- Count it as completed or failed. -/
  | count
  /-- Take it out of the depth of its slot. -/
  | leave
  /-- Resolve its completion. -/
  | resolve
  /-- Wake whoever was waiting for it. -/
  | wake (waker : Option Waker)
  deriving DecidableEq

/-- A job with its outcome and the next step to finish it. -/
structure Finish where
  job : Job
  outcome : Outcome Bytes
  next : FinishStep
  deriving DecidableEq

/-- A job that has just got its outcome. -/
def Finish.begin (job : Job) (outcome : Outcome Bytes) : Finish := ⟨job, outcome, .count⟩

/-! ### Workers and slots -/

/-- Where a worker stands.  `ρ` is the type of a job being run. -/
inductive Worker (ρ : Type) where
  /-- Next it reports its start. -/
  | starting
  /-- Next it takes the oldest job of its queue. -/
  | looking
  /-- It has a job; next it looks whether the pool is closing. -/
  | holding (job : Job)
  /-- It is running a job. -/
  | running (job : Job) (run : ρ)
  /-- It is finishing a job. -/
  | finishing (finish : Finish)
  /-- Its queue was empty; next it looks whether the pool is closing. -/
  | doubting
  /-- Next it reports its end. -/
  | stopping
  /-- It has ended. -/
  | stopped
  /-- It has died while running a job. -/
  | died (job : Job)
  deriving DecidableEq

/-- What belongs to one slot. -/
structure Lane (ρ : Type) where
  /-- The job last routed to the slot; at first there is none. -/
  tail : Option Ticket
  /-- The jobs that the worker has not taken yet, oldest first. -/
  queue : List Job
  /-- The number of jobs counted as queued or running. -/
  depth : Nat
  worker : Worker ρ
  deriving DecidableEq

/-- A slot that has never had a job. -/
def Lane.idle {ρ : Type} : Lane ρ := ⟨none, [], 0, .starting⟩

/-! ### Submitting and closing -/

/-- Where the submission that holds the lock stands. -/
inductive SubmissionStep where
  /-- Next it looks whether the pool is closed. -/
  | entering
  /-- The cursor has moved on; next it looks at the tail there. -/
  | glancing
  /-- The slot at the cursor was busy; next it looks at the tail `offset` slots further on from
  `start`, unless it has looked at all. -/
  | scanning (start offset : Nat)
  /-- The slot is chosen; next its tail is replaced. -/
  | enlisting
  /-- Next the depth of the slot is raised. -/
  | deepening
  /-- Next the job is counted as submitted. -/
  | counting
  /-- Next the job joins the queue and the lock is given back. -/
  | queueing
  deriving DecidableEq

/-- The submission that holds the lock. -/
structure Submission where
  job : Job
  next : SubmissionStep
  deriving DecidableEq

/-- Where the closing call stands. -/
inductive Closing where
  | notBegun
  /-- It waits for the end of the worker of slot `next`. -/
  | joining (next : Nat)
  /-- All workers have ended; it empties the queue of slot `slot`, perhaps finishing a job from
  it. -/
  | draining (slot : Nat) (current : Option Finish)
  | finished
  deriving DecidableEq

end Pool

/-! ### The pool -/

/-- The state of a pool. -/
structure Pool (ρ : Type) where
  lanes : List (Pool.Lane ρ)
  /-- The slot last chosen. -/
  cursor : Nat
  /-- The pool takes no more jobs, and its workers run none that they have not begun. -/
  closed : Bool
  submission : Option Pool.Submission
  closing : Pool.Closing
  submitted : Nat
  completed : Nat
  failed : Nat
  deriving DecidableEq

namespace Pool

variable {ρ : Type}

/-- A pool that has just been built. -/
def fresh (slots : Nat) : Pool ρ :=
  { lanes := List.replicate slots .idle, cursor := 0, closed := false, submission := none,
    closing := .notBegun, submitted := 0, completed := 0, failed := 0 }

/-- Build a pool; it needs at least one slot. -/
def build (slots : Nat) : Outcome (Pool ρ) :=
  if slots = 0 then .error (.config "slot pool needs at least one slot") else .ok (fresh slots)

/-- The number of slots. -/
def size (p : Pool ρ) : Nat := p.lanes.length

/-- Change what belongs to one slot. -/
def modifyLane (p : Pool ρ) (slot : Nat) (change : Lane ρ → Lane ρ) : Pool ρ :=
  { p with lanes := p.lanes.modify slot change }

/-- Where the worker of a slot stands. -/
def worker? (p : Pool ρ) (slot : Nat) : Option (Worker ρ) := (p.lanes[slot]?).map (·.worker)

/-- Put a worker elsewhere. -/
def setWorker (p : Pool ρ) (slot : Nat) (worker : Worker ρ) : Pool ρ :=
  p.modifyLane slot fun lane => { lane with worker }

/-- What a pool counts. -/
structure Stats where
  submitted : Nat
  completed : Nat
  failed : Nat
  depth : List Nat
  deriving DecidableEq

/-- The counters of a pool. -/
def stats (p : Pool ρ) : Stats :=
  { submitted := p.submitted, completed := p.completed, failed := p.failed
    depth := p.lanes.map (·.depth) }

/-! ### Running jobs -/

/-- What a step of a running job comes to.  `S` is the type of the state that all jobs share. -/
inductive Progress (ρ S : Type) where
  /-- It cannot go on for now. -/
  | blocked
  | continues (run : ρ) (shared : S)
  | returned (outcome : Outcome Bytes) (shared : S)
  /-- It has taken its worker with it. -/
  | died (shared : S)

/-- How jobs are run. -/
structure Executor (ρ S : Type) where
  begin : Nat → Bytes → S → ρ × S
  step : Nat → ρ → S → Progress ρ S
  /-- Write a log line. -/
  note : Log.Level → String → S → S
  /-- A bound on the number of steps of a job that does not block. -/
  effort : S → Nat

end Pool

end Offload
