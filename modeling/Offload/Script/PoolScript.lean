/-
**Scripts on a pool.**

The jobs of these scripts are run by an executor whose slots can be held: a job on a held slot
waits until the slot is released or the job is let through.  What a job comes to is written in its
input.

Main definitions:

* `Script.Gate` — the state of the executor;
* `Script.verdict` — what a job comes to;
* `Script.gateExecutor` — the executor;
* `Script.PoolOp`, `Script.PoolState.perform` — the operations of a script;
* `Script.runPool` — a whole script.
-/

import Offload.Pool.Quiet
import Offload.Script.Jobs
import Offload.Script.LogScript
import Offload.Text.Utf8

set_option autoImplicit false
set_option relaxedAutoImplicit false

namespace Offload.Script

open Pool

/-! ### The executor -/

/-- What the executor keeps of one slot. -/
structure SlotGate where
  isHeld : Bool
  /-- The next job that waits here may go on. -/
  hasPass : Bool
  /-- The inputs of the jobs begun here. -/
  begun : List Bytes
  deriving DecidableEq, Inhabited

/-- The state of the executor, with the state of logging. -/
structure Gate where
  slots : List SlotGate
  router : Log.Router

/-- Change what is kept of one slot. -/
def Gate.modify (g : Gate) (slot : Nat) (change : SlotGate → SlotGate) : Gate :=
  { g with slots := g.slots.modify slot change }

/-- What a job comes to once it goes on; `none` when it takes its worker with it. -/
def verdict (slot : Nat) (input : Bytes) : Option (Outcome Bytes) :=
  if (Text.encode "panic").isPrefixOf input then none
  else if (Text.encode "fail").isPrefixOf input then
    some (.error (.deviceOperation ⟨UInt32.ofNat input.length⟩ (UInt32.ofNat slot)
      (Text.lossy (input.drop 4))))
  else if input = Text.encode "closed" then some (.error .closed)
  else if input = Text.encode "none" then some (.ok [])
  else some (.ok input.reverse)

/-- Begin a job: its input is noted. -/
def beginGated (slot : Nat) (input : Bytes) (g : Gate) : Bytes × Gate :=
  (input, g.modify slot fun s => { s with begun := s.begun ++ [input] })

/-- Go on with a job, unless its slot is held and it has no pass. -/
def stepGated (slot : Nat) (input : Bytes) (g : Gate) : Progress Bytes Gate :=
  let s := g.slots[slot]?.getD default
  if s.isHeld && !s.hasPass then .blocked
  else
    let g := g.modify slot fun s => { s with hasPass := false }
    match verdict slot input with
    | some outcome => .returned outcome g
    | none => .died g

/-- The executor. -/
def gateExecutor : Executor Bytes Gate where
  begin := beginGated
  step := stepGated
  note level text g := { g with router := g.router.line level text }
  effort _ := 1

/-! ### Operations -/

/-- The operations on a pool. -/
inductive PoolOp where
  | job (job : Nat) (op : JobOp)
  | submit (input : Bytes)
  | hold (slot : Nat)
  | release (slot : Nat)
  /-- Let the job through that waits on a held slot. -/
  | letThrough (slot : Nat)
  | stats
  | isClosed
  | inputs
  | close
  /-- Begin to close the pool, and let the closing end whenever it can. -/
  | beginClosing

/-- The state of a script on a pool. -/
structure PoolState where
  scheduler : Scheduler Bytes Gate
  jobs : Jobs

namespace PoolState

/-- Some job is running, which after settling means that it waits on a held slot. -/
def isRunning (s : PoolState) (slot : Nat) : Bool :=
  match s.scheduler.pool.worker? slot with
  | some (.running _ _) => true
  | _ => false

/-- The pool is being closed and the closing has not ended. -/
def isClosing (s : PoolState) : Bool :=
  match s.scheduler.pool.closing with
  | .notBegun | .finished => false
  | _ => true

/-- A call that closes the pool now would have to wait. -/
def closingBlocks (s : PoolState) : Bool :=
  s.isClosing || (List.range s.scheduler.pool.size).any s.isRunning

/-- Change what the executor keeps of a slot that has to exist. -/
def changeSlot (s : PoolState) (slot : Nat) (change : SlotGate → SlotGate) : Answer × PoolState :=
  if slot < s.scheduler.shared.slots.length then
    (.nothing, { s with scheduler :=
      { s.scheduler with shared := s.scheduler.shared.modify slot change } })
  else (.refusal .trapped, s)

/-- Begin to close the pool. -/
def beginClosing (s : PoolState) : PoolState :=
  match s.scheduler.step gateExecutor .close with
  | some (scheduler, _) => { s with scheduler }
  | none => s

/-- Submit a job.  One that the closed pool refuses is over at once and leaves no handle. -/
def submit (s : PoolState) (input : Bytes) : Answer × PoolState :=
  let number := s.jobs.length
  let (ticket, ledger) := s.scheduler.ledger.issue
  match ({ s.scheduler with ledger } : Scheduler Bytes Gate).submitNow gateExecutor
      ⟨ticket, input⟩ with
  | (some slot, scheduler) =>
      (.submitted number (some slot), { scheduler, jobs := s.jobs.add ⟨ticket, some slot⟩ true })
  | (none, scheduler) =>
      let ledger := (scheduler.ledger.resolve ticket (.error .closed)).2
      (.rejected number .closed,
        { scheduler := { scheduler with ledger }, jobs := s.jobs.add ⟨ticket, none⟩ false })

/-- Perform an operation. -/
def perform (op : PoolOp) (s : PoolState) : Answer × PoolState :=
  match op with
  | .job job op =>
      let (answer, jobs, ledger) := s.jobs.perform op job s.scheduler.ledger
      (answer, { scheduler := { s.scheduler with ledger }, jobs })
  | .submit input => s.submit input
  | .hold slot => s.changeSlot slot fun g => { g with isHeld := true }
  | .release slot => s.changeSlot slot fun g => { g with isHeld := false }
  | .letThrough slot =>
      if s.isRunning slot then
        (.flag true, (s.changeSlot slot fun g => { g with hasPass := true }).2)
      else (.flag false, s)
  | .stats => (.stats s.scheduler.pool.stats, s)
  | .isClosed => (.flag s.scheduler.pool.closed, s)
  | .inputs => (.inputs (s.scheduler.shared.slots.map (·.begun)), s)
  | .close => if s.closingBlocks then (.refusal .wouldBlock, s) else (.nothing, s.beginClosing)
  | .beginClosing => (.nothing, s.beginClosing)

/-- Let everybody run on as far as possible. -/
def settle (s : PoolState) : PoolState := { s with scheduler := s.scheduler.settle gateExecutor }

/-- Take the deliveries made so far out. -/
def drain (s : PoolState) : List Log.Delivery × PoolState :=
  let (deliveries, router) := Script.drain s.scheduler.shared.router
  (deliveries, { s with scheduler :=
    { s.scheduler with shared := { s.scheduler.shared with router } } })

/-- One step of a script. -/
def step (op : PoolOp) (s : PoolState) : Step Empty × PoolState :=
  let (answer, s) := s.perform op
  let s := s.settle
  let (done, jobs) := s.jobs.report s.scheduler.ledger
  let (deliveries, s) := ({ s with jobs } : PoolState).drain
  ({ answer, done, deliveries, calls := [] }, s)

/-- All steps of a script. -/
def steps : List PoolOp → PoolState → List (Step Empty) × PoolState
  | [], s => ([], s)
  | op :: ops, s =>
      let (step, s) := s.step op
      let (rest, s) := s.steps ops
      (step :: rest, s)

/-- The end of a script: every slot is released, and the pool is closed. -/
def finish (s : PoolState) : List Log.Delivery :=
  let slots := s.scheduler.shared.slots.map fun g => { g with isHeld := false }
  let released : PoolState := { s with scheduler :=
    { s.scheduler with shared := { s.scheduler.shared with slots } } }
  released.settle.beginClosing.settle.drain.1

end PoolState

/-- A whole script on a new pool: its steps, and the lines delivered before the first of them and
after the last. -/
def runPool (slots : Nat) (router : Log.Router) (ops : List PoolOp) :
    Outcome (List (Step Empty) × List Log.Delivery) := do
  let pool ← Pool.build slots
  let shared : Gate := { slots := List.replicate slots ⟨false, false, []⟩, router }
  let s : PoolState := { scheduler := { pool, ledger := .empty, shared }, jobs := [] }
  let (before, s) := s.settle.drain
  let (steps, s) := s.steps ops
  return (steps, before ++ s.finish)

end Offload.Script
