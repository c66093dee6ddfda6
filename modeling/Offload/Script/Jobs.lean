/-
**The jobs of a script.**

A script numbers the jobs that it submits.  The handle of a job may be given away, by waiting for
the job, by dropping the handle, or to somebody who waits in the background; after that only the
questions that need no handle are answered.

Main definitions:

* `Script.Jobs` — the jobs submitted so far;
* `Script.JobOp`, `Script.Jobs.perform` — the operations on a handle and their answers;
* `Script.Jobs.report` — the jobs that came to an end since the last report.
-/

import Offload.Script.Answer

set_option autoImplicit false
set_option relaxedAutoImplicit false

namespace Offload.Script

/-- A submitted job. -/
structure JobEntry where
  handle : JobHandle
  /-- The handle has not been given away. -/
  isHeld : Bool
  /-- Somebody waits for the job in the background. -/
  inBackground : Bool
  /-- Its end has been reported. -/
  isReported : Bool
  deriving DecidableEq

/-- The jobs submitted so far, numbered from zero. -/
abbrev Jobs : Type := List JobEntry

/-- The operations on the handle of a job. -/
inductive JobOp where
  | wait
  | poll (waker : Waker)
  | finished
  | slot
  | text
  | wakes
  | drop
  | waitInBackground
  | joinBackground
  deriving DecidableEq

namespace Jobs

/-- Note a job that has been submitted. -/
def add (jobs : Jobs) (handle : JobHandle) (isHeld : Bool) : Jobs :=
  jobs ++ [⟨handle, isHeld, false, false⟩]

/-- Give the handle of a job away. -/
def giveAway (jobs : Jobs) (job : Nat) : Jobs := jobs.modify job fun e => { e with isHeld := false }

/-- The answer that takes the outcome of a job. -/
def takeOutcome (ledger : Ledger) (ticket : Ticket) : Answer × Ledger :=
  let (r, ledger) := ledger.take ticket
  (.ofOutcome .bytes r, ledger)

/-- An operation on a handle that has not been given away. -/
def performHeld (op : JobOp) (job : Nat) (e : JobEntry) (jobs : Jobs) (ledger : Ledger) :
    Answer × Jobs × Ledger :=
  let ticket := e.handle.ticket
  let isResolved := ledger.isResolved ticket
  match op with
  | .wait =>
      if isResolved then
        let (answer, ledger) := takeOutcome ledger ticket
        (answer, jobs.giveAway job, ledger)
      else (.refusal .wouldBlock, jobs, ledger)
  | .poll waker =>
      match ledger.poll ticket waker with
      | (some r, ledger) => (.ofOutcome .bytes r, jobs, ledger)
      | (none, ledger) => (.pending, jobs, ledger)
  | .finished => (.flag isResolved, jobs, ledger)
  | .slot => (.slot e.handle.slot, jobs, ledger)
  | .text => (.text (e.handle.text isResolved), jobs, ledger)
  | .drop => (.nothing, jobs.giveAway job, ledger)
  | .waitInBackground =>
      (.nothing, (jobs.giveAway job).modify job fun e => { e with inBackground := true }, ledger)
  | .wakes | .joinBackground => (.nothing, jobs, ledger)

/-- An operation on the handle of a job. -/
def perform (op : JobOp) (job : Nat) (jobs : Jobs) (ledger : Ledger) : Answer × Jobs × Ledger :=
  match jobs[job]? with
  | none => (.refusal .noSuchJob, jobs, ledger)
  | some e =>
      let ticket := e.handle.ticket
      match op with
      | .wakes => (.wakes (ledger.wakeCounts ticket), jobs, ledger)
      | .joinBackground =>
          if !e.inBackground then (.refusal .noBackground, jobs, ledger)
          else if !ledger.isResolved ticket then (.refusal .wouldBlock, jobs, ledger)
          else
            let (answer, ledger) := takeOutcome ledger ticket
            (answer, jobs.modify job fun e => { e with inBackground := false }, ledger)
      | op =>
          if e.isHeld then performHeld op job e jobs ledger
          else (.refusal .gone, jobs, ledger)

/-- A job whose end has not been reported although it is resolved. -/
def isNews (ledger : Ledger) (e : JobEntry) : Bool :=
  !e.isReported && ledger.isResolved e.handle.ticket

/-- The numbers of the jobs that have come to an end since the last report. -/
def report (jobs : Jobs) (ledger : Ledger) : List Nat × Jobs :=
  ((jobs.zipIdx.filter fun e => isNews ledger e.1).map (·.2),
    jobs.map fun e => if isNews ledger e then { e with isReported := true } else e)

end Jobs

end Offload.Script
