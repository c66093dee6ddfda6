/-
**A dispatcher at work.**

A station is a dispatcher with the driver, the state of logging and the completions of its jobs.
Its moves are single steps of the callers that submit jobs, of the workers and of the call that
tears the dispatcher down, and can be interleaved in every way.

Main definitions:

* `Station` — the whole state;
* `Station.Move`, `Station.step` — whose turn it is, and one step;
* `Station.executeNow`, `Station.settle` — a submission at once, and letting everybody run on;
* `Station.onDevice` — a register operation of a caller.
-/

import Offload.Dispatcher.Basic
import Offload.Pool.Quiet

set_option autoImplicit false
set_option relaxedAutoImplicit false

namespace Offload

open Native

/-- A dispatcher with everything that it works on. -/
structure Station (σ : Type) where
  world : World σ
  ledger : Ledger
  dispatcher : Dispatcher

namespace Station

/-- Whose turn it is. -/
inductive Move where
  /-- A caller asks for a job to be executed; its completion has been issued. -/
  | execute (job : Pool.Job)
  /-- A caller whose job was admitted takes the lock of the pool. -/
  | enter (ticket : Ticket)
  /-- The submission that holds the lock makes its next step. -/
  | proceed
  /-- The worker of a slot makes its next step. -/
  | work (slot : Nat)
  /-- A call to tear the dispatcher down begins. -/
  | tearDown
  /-- The call that tears the dispatcher down makes its next step. -/
  | wind
  deriving DecidableEq

variable {σ : Type}

/-- The pool with what its jobs share. -/
def scheduler (s : Station σ) : Pool.Scheduler Exchange.Run (Exchange.Site σ) :=
  { pool := s.dispatcher.pool, ledger := s.ledger
    shared := { world := s.world, device := s.dispatcher.device } }

/-- The station after its pool has made a step. -/
def withScheduler (s : Station σ) (r : Pool.Scheduler Exchange.Run (Exchange.Site σ)) :
    Station σ :=
  { world := r.shared.world, ledger := r.ledger
    dispatcher := { s.dispatcher with pool := r.pool, device := r.shared.device } }

/-- Resolve a completion with an error before any slot was chosen. -/
def refuse (s : Station σ) (ticket : Ticket) (e : Error) : Station σ :=
  { s with ledger := (s.ledger.resolve ticket (.error e)).2 }

/-- Run a program on the station's driver at once. -/
def runProgram {α : Type} (D : Driver σ) (s : Station σ) (p : Program α) : α × Station σ :=
  let (a, world) := D.run p s.world
  (a, { s with world })

section

variable (D : Driver σ) (patience : σ → Nat)

/-- How the jobs of the station are run. -/
abbrev executor : Pool.Executor Exchange.Run (Exchange.Site σ) := Exchange.executor D patience

/-- A step of the pool; a job that the closed pool refuses is resolved at once. -/
def poolStep (s : Station σ) (move : Pool.Move) : Option (Station σ × Option Pool.Event) :=
  (s.scheduler.step (executor D patience) move).map fun (r, event) =>
    match event with
    | some (.refused job) => ((s.withScheduler r).refuse job.ticket .closed, event)
    | _ => (s.withScheduler r, event)

/-- Move the teardown on. -/
def winding (teardown : Dispatcher.Teardown) (s : Station σ) : Station σ :=
  { s with dispatcher := { s.dispatcher with teardown } }

/-- The next step of the call that tears the dispatcher down. -/
def wind (s : Station σ) : Option (Station σ × Option Pool.Event) :=
  let d := s.dispatcher
  match d.teardown with
  | .notBegun | .finished => none
  | .announcing =>
      let announce := logLine .info
        s!"accel: tearing down dispatcher on endpoint {d.device.endpoint.toNat}"
      some (winding .stopping (s.runProgram D announce).2, none)
  | .stopping =>
      (s.poolStep D patience .close).map fun (s, event) => (winding .waiting s, event)
  | .waiting =>
      match d.pool.closing with
      | .finished => some (winding (.closing d.device.close) s, none)
      | _ => s.poolStep D patience .wind
  | .closing (.done (_, device)) =>
      some (winding .releasing { s with dispatcher := { d with device } }, none)
  | .closing (.step o next) =>
      let (answer, world) := D.answer o s.world
      some (winding (.closing (next answer)) { s with world }, none)
  | .releasing =>
      some (winding .finished (s.runProgram D (Dispatcher.removeSink d.sink)).2, none)

/-- One step, which is missing when the move is not possible. -/
def step (s : Station σ) : Move → Option (Station σ × Option Pool.Event)
  | .execute job =>
      match s.dispatcher.admission job.input with
      | .error e => some (s.refuse job.ticket e, some (.refused job))
      | .ok () =>
          let arrivals := s.dispatcher.arrivals ++ [job]
          some ({ s with dispatcher := { s.dispatcher with arrivals } }, none)
  | .enter ticket =>
      (s.dispatcher.arrivals.find? fun job => job.ticket = ticket).bind fun job =>
        let arrivals := s.dispatcher.arrivals.erase job
        ({ s with dispatcher := { s.dispatcher with arrivals } } : Station σ).poolStep D patience
          (.submit job)
  | .proceed => s.poolStep D patience .proceed
  | .work slot => s.poolStep D patience (.work slot)
  | .tearDown =>
      if s.dispatcher.tornDown then some (s, none)
      else
        some ({ s with dispatcher :=
          { s.dispatcher with tornDown := true, teardown := .announcing } }, none)
  | .wind => s.wind D patience

/-! ### Whole operations -/

/-- Let the submission that holds the lock run on, for at most the given number of steps. -/
def proceedFor : Nat → Station σ → Option Nat × Station σ
  | 0, s => (none, s)
  | bound + 1, s =>
      match s.step D patience .proceed with
      | none => (none, s)
      | some (s, some (.accepted _ slot)) => (some slot, s)
      | some (s, some _) => (none, s)
      | some (s, none) => proceedFor bound s

/-- Execute a job without letting anybody in between. -/
def executeNow (input : Bytes) (s : Station σ) : JobHandle × Station σ :=
  let (ticket, ledger) := s.ledger.issue
  match ({ s with ledger } : Station σ).step D patience (.execute ⟨ticket, input⟩) with
  | none => (⟨ticket, none⟩, s)
  | some (s, _) =>
      match s.step D patience (.enter ticket) with
      | none => (⟨ticket, none⟩, s)
      | some (s, _) =>
          let (slot, s) := proceedFor D patience (s.dispatcher.pool.size + 7) s
          (⟨ticket, slot⟩, s)

/-- Let the teardown run on until it is stuck, for at most the given number of steps. -/
def windFor : Nat → Station σ → Station σ
  | 0, s => s
  | bound + 1, s =>
      match s.wind D patience with
      | none => s
      | some (s, _) => windFor bound s

/-- A bound on the number of steps that a teardown can make: four of its own, those of the pool,
and the closing of the device, which is three calls with at most three more operations for a
failure, two warnings and two lines. -/
def windBound (s : Station σ) : Nat := s.scheduler.windBound + 24

/-- Let everybody run on as far as possible.  The teardown first, since it may stop the workers,
and again at the end, since it waits for them. -/
def settle (s : Station σ) : Station σ :=
  let s := windFor D patience s.windBound s
  let s := s.withScheduler (s.scheduler.settleWorkers (executor D patience))
  windFor D patience s.windBound s

/-- An operation of a caller on the device; it is not possible while the device is being closed. -/
def onDevice {α : Type} (operation : Session → Action α) (s : Station σ) :
    Option (Outcome α × Station σ) :=
  match s.dispatcher.teardown with
  | .closing _ => none
  | _ => some (s.runProgram D (s.dispatcher.device.withSession operation).run)

end

end Station

end Offload
