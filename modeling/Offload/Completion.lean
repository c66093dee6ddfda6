/-
**Completions of jobs.**

A completion is a cell that is resolved once with the outcome of a job.  Whoever submitted the job
may look at it, leaving a waker behind while it is unresolved, and takes the outcome out of it once
it is resolved; the outcome is there once, and whoever comes later finds the cell closed.

Main definitions:

* `Completion` — one cell, with `Completion.resolve`, `Completion.look`, `Completion.take` as its
  critical sections;
* `Ledger` — all cells of a run, named by tickets, with the wake-ups made so far;
* `Ledger.poll` — looking, and taking if there is something to take.
-/

import Offload.Error

set_option autoImplicit false
set_option relaxedAutoImplicit false

namespace Offload

/-- Whatever is woken when a job is resolved. -/
structure Waker where
  name : String
  deriving DecidableEq, Inhabited

/-- The cell of one job. -/
structure Completion where
  resolved : Bool
  /-- The outcome, until somebody takes it. -/
  outcome : Option (Outcome Bytes)
  /-- Left behind by the last look at the unresolved cell. -/
  waker : Option Waker
  deriving DecidableEq, Inhabited

namespace Completion

/-- The cell of a job that has just been submitted. -/
def unresolved : Completion := ⟨false, none, none⟩

/-- Resolve a cell.  The waker that it held comes out to be woken.  A cell that is resolved already
keeps its outcome. -/
def resolve (result : Outcome Bytes) (c : Completion) : Option Waker × Completion :=
  if c.resolved then (none, c) else (c.waker, ⟨true, some result, none⟩)

/-- Look whether a cell is resolved; if not, leave a waker behind in place of an earlier one. -/
def look (waker : Waker) (c : Completion) : Bool × Completion :=
  if c.resolved then (true, c) else (false, { c with waker := some waker })

/-- Take the outcome of a resolved cell; it can be taken once. -/
def take (c : Completion) : Outcome Bytes × Completion :=
  (c.outcome.getD (.error .closed), { c with outcome := none })

end Completion

/-! ### All completions of a run -/

/-- The name of a completion. -/
abbrev Ticket : Type := Nat

/-- The completions of a run in the order in which they were issued, and the wake-ups made so
far. -/
structure Ledger where
  cells : List Completion
  wakeUps : List (Ticket × Waker)
  deriving DecidableEq, Inhabited

namespace Ledger

/-- The ledger at the beginning of a run. -/
def empty : Ledger := ⟨[], []⟩

/-- The completion with a given name. -/
def cell? (l : Ledger) (t : Ticket) : Option Completion := l.cells[t]?

/-- Issue a completion. -/
def issue (l : Ledger) : Ticket × Ledger :=
  (l.cells.length, { l with cells := l.cells ++ [.unresolved] })

/-- Change a completion. -/
def modify (l : Ledger) (t : Ticket) (change : Completion → Completion) : Ledger :=
  { l with cells := l.cells.modify t change }

/-- A completion is resolved. -/
def isResolved (l : Ledger) (t : Ticket) : Bool := ((l.cell? t).map (·.resolved)).getD false

/-- Resolve a completion; the result is the waker to be woken. -/
def resolve (l : Ledger) (t : Ticket) (result : Outcome Bytes) : Option Waker × Ledger :=
  ((l.cell? t).bind fun c => (c.resolve result).1, l.modify t fun c => (c.resolve result).2)

/-- Wake a waker, if there is one. -/
def wake (l : Ledger) (t : Ticket) (waker : Option Waker) : Ledger :=
  match waker with
  | some waker => { l with wakeUps := l.wakeUps ++ [(t, waker)] }
  | none => l

/-- Look at a completion and leave a waker behind if it is unresolved. -/
def look (l : Ledger) (t : Ticket) (waker : Waker) : Bool × Ledger :=
  (((l.cell? t).map fun c => (c.look waker).1).getD false, l.modify t fun c => (c.look waker).2)

/-- Take the outcome of a completion. -/
def take (l : Ledger) (t : Ticket) : Outcome Bytes × Ledger :=
  (((l.cell? t).map fun c => c.take.1).getD (.error .closed), l.modify t fun c => c.take.2)

/-- Look at a completion and take its outcome if it is resolved; `none` while it is not. -/
def poll (l : Ledger) (t : Ticket) (waker : Waker) : Option (Outcome Bytes) × Ledger :=
  match l.look t waker with
  | (true, l) => let (result, l) := l.take t; (some result, l)
  | (false, l) => (none, l)

/-- How often each waker of a completion has been woken, in the order of the first wake-ups. -/
def wakeCounts (l : Ledger) (t : Ticket) : List (Waker × Nat) :=
  let wakers := (l.wakeUps.filter fun w => w.1 = t).map (·.2)
  wakers.eraseDups.map fun w => (w, wakers.count w)

end Ledger

/-! ### Handles -/

/-- What the submitter of a job keeps: the name of its completion, and the slot it was routed to,
which is missing when it was refused. -/
structure JobHandle where
  ticket : Ticket
  slot : Option Nat
  deriving DecidableEq, Inhabited

/-- The printed form of a handle. -/
def JobHandle.text (h : JobHandle) (finished : Bool) : String :=
  let slot := match h.slot with
    | some slot => s!"Some({slot})"
    | none => "None"
  s!"JobHandle \x7b slot: {slot}, finished: {finished} \x7d"

end Offload
