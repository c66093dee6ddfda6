/-
**A driver in use.**

Callers open devices and dispatchers on one driver, use them in any order and at the same time, and
close them again.  Each of their operations is performed one step at a time; workers, teardowns and
whoever does something to the device from outside make their steps in between.  The driver is at
hand, or it comes from a library that is loaded for everything that is opened on it.

Main definitions:

* `Supply` — how callers come by the driver;
* `DriverRun.Operation` — what a caller can do;
* `DriverRun` — the driver with all that is open on it, and the callers with what they got;
* `DriverRun.Turn`, `DriverRun.step`, `DriverRun.run` — **one step, and many**.
-/

import Offload.Proofs.Dispatcher.Run
import Offload.Script.SystemOp

set_option autoImplicit false
set_option relaxedAutoImplicit false

namespace Offload

open Native

/-- How callers come by the driver. -/
inductive Supply where
  /-- They have it at hand. -/
  | direct
  /-- It comes from the library at a path. -/
  | library (linker : Library.Linker) (path : String)

namespace Supply

/-- Bring something up on the driver. -/
def bringUp {α : Type} (supply : Supply) (up : Option String → Action α) : Action α :=
  match supply with
  | .direct => up none
  | .library linker path => do
      Library.load linker path
      up (some path)

/-- Open a dispatcher that gets the driver by itself, where the configuration names the library. -/
def openDispatcher (supply : Supply) (config : Config) : Action Dispatcher :=
  match supply with
  | .direct => Dispatcher.bringUp none config
  | .library linker path => Dispatcher.load linker { config with libraryPath := path }

end Supply

namespace DriverRun

/-! ### Operations -/

/-- What a caller can do.  Devices and dispatchers are named by their numbers. -/
inductive Operation where
  | openDevice (endpoint : UInt32) (params : OpenParams)
  | onDevice (device : Nat) (op : Script.SessionOp)
  | closeDevice (device : Nat)
  /-- Bring a dispatcher up on a driver that has been bound already. -/
  | withDriver (config : Config)
  /-- Bring a dispatcher up, and let it get the driver. -/
  | openDispatcher (config : Config)
  | onDispatcher (dispatcher : Nat) (op : Script.RegisterOp)

/-- What an operation comes to. -/
inductive Yield where
  | device (r : Outcome Device)
  | value (r : Outcome Script.Value)
  /-- The device is as it is left, and the flag tells whether it was open. -/
  | closed (device : Nat) (r : Bool × Device)
  | dispatcher (r : Outcome Dispatcher)

/-- What a caller gets. -/
inductive Result where
  /-- A device or a dispatcher, of which the capabilities are shown. -/
  | opened (r : Outcome Capabilities)
  | value (r : Outcome Script.Value)
  | closed (wasOpen : Bool)
  /-- A call of the caller never returned. -/
  | trapped
  /-- Whether a completion was resolved. -/
  | looked (resolved : Bool)
  /-- The outcome of a job. -/
  | taken (r : Outcome Bytes)
  deriving DecidableEq

/-- An operation of a caller, as far as it has come. -/
inductive Errand where
  /-- This is left of it. -/
  | underway (operation : Operation) (rest : Program Yield)
  /-- It has made a call that has blocked. -/
  | waiting (operation : Operation) (o : Op) (next : o.Answer → Program Yield)
  | ended (result : Result)

/-- The operation that has not ended. -/
def Errand.operation? : Errand → Option Operation
  | .underway operation _ | .waiting operation _ _ => some operation
  | .ended _ => none

/-- What the caller has got. -/
def Errand.result? : Errand → Option Result
  | .ended result => some result
  | _ => none

end DriverRun

/-- A driver in use. -/
structure DriverRun (σ : Type) where
  world : World σ
  ledger : Ledger
  /-- The devices opened so far, closed ones included. -/
  devices : List Device
  /-- The dispatchers brought up so far. -/
  dispatchers : List Dispatcher
  /-- All operations of callers so far. -/
  errands : List DriverRun.Errand
  /-- What could be seen of jobs so far, with the dispatchers that they belong to. -/
  history : List (Nat × Pool.Event)

namespace DriverRun

variable {σ : Type}

/-- Nothing has been opened yet. -/
def fresh (s : σ) (router : Log.Router) : DriverRun σ :=
  { world := ⟨s, router⟩, ledger := .empty, devices := [], dispatchers := [], errands := []
    history := [] }

/-- The program behind an operation.  It is missing when there is no such device or dispatcher, and
while a dispatcher is closing its device. -/
def Operation.program (supply : Supply) (b : DriverRun σ) : Operation → Option (Program Yield)
  | .openDevice endpoint params =>
      let up := supply.bringUp fun library => Device.bringUp library endpoint params
      some (.device <$> up.run)
  | .onDevice n op => b.devices[n]?.map fun d => .value <$> (d.withSession op.action).run
  | .closeDevice n => b.devices[n]?.map fun d => .closed n <$> d.close
  | .withDriver config =>
      let up := supply.bringUp fun library => Dispatcher.bringUp library config
      some (.dispatcher <$> up.run)
  | .openDispatcher config => some (.dispatcher <$> (supply.openDispatcher config).run)
  | .onDispatcher n op =>
      b.dispatchers[n]?.bind fun d =>
        match d.teardown with
        | .closing _ => none
        | _ => some (.value <$> (d.device.withSession op.action).run)

/-! ### Locks -/

/-- The operations of callers that have not ended. -/
def inHand (b : DriverRun σ) : List Operation := b.errands.filterMap Errand.operation?

/-- Two operations that exclude each other: a device is closed only while nobody uses it. -/
def Operation.excludes : Operation → Operation → Bool
  | .onDevice n _, .closeDevice m | .closeDevice n, .onDevice m _
  | .closeDevice n, .closeDevice m => n = m
  | _, _ => false

/-- The operation uses the device of a dispatcher. -/
def Operation.uses (dispatcher : Nat) : Operation → Bool
  | .onDispatcher n _ => n = dispatcher
  | _ => false

/-- A teardown that waits until nobody uses the device. -/
def isHindered (b : DriverRun σ) (n : Nat) (d : Dispatcher) : Bool :=
  match d.teardown, d.pool.closing with
  | .waiting, .finished => b.inHand.any (·.uses n)
  | _, _ => false

/-! ### Steps -/

/-- What can happen next. -/
inductive Turn (σ : Type) where
  /-- Somebody does something to the device from outside. -/
  | meddle (change : σ → σ)
  /-- A caller begins an operation. -/
  | begin (operation : Operation)
  /-- A caller makes the next step of an operation. -/
  | goOn (errand : Nat)
  /-- A caller asks a dispatcher for a job to be executed. -/
  | execute (dispatcher : Nat) (input : Bytes)
  /-- A dispatcher makes a step. -/
  | move (dispatcher : Nat) (move : Station.Move)
  /-- A caller looks at a completion. -/
  | look (ticket : Ticket) (waker : Waker)
  /-- A caller takes the outcome out of a resolved completion. -/
  | take (ticket : Ticket)

/-- A caller has come further. -/
def setErrand (b : DriverRun σ) (n : Nat) (errand : Errand) : DriverRun σ :=
  { b with errands := b.errands.set n errand }

/-- A caller has got something at once. -/
def hand (b : DriverRun σ) (result : Result) : DriverRun σ :=
  { b with errands := b.errands ++ [.ended result] }

/-- An operation has come to its end. -/
def deliver (b : DriverRun σ) (n : Nat) : Yield → DriverRun σ
  | .device (.ok d) =>
      ({ b with devices := b.devices ++ [d] }).setErrand n (.ended (.opened (.ok d.capabilities)))
  | .device (.error e) => b.setErrand n (.ended (.opened (.error e)))
  | .value r => b.setErrand n (.ended (.value r))
  | .closed device (wasOpen, d) =>
      ({ b with devices := b.devices.set device d }).setErrand n (.ended (.closed wasOpen))
  | .dispatcher (.ok d) =>
      ({ b with dispatchers := b.dispatchers ++ [d] }).setErrand n
        (.ended (.opened (.ok d.device.capabilities)))
  | .dispatcher (.error e) => b.setErrand n (.ended (.opened (.error e)))

/-- Go on with the answer to an operation. -/
def goOn (b : DriverRun σ) (n : Nat) (operation : Operation) {o : Op}
    (next : o.Answer → Program Yield) (answered : o.Answer × World σ) : DriverRun σ :=
  ({ b with world := answered.2 }).setErrand n (.underway operation (next answered.1))

/-- The next step of a caller. -/
def advance (D : Driver σ) (b : DriverRun σ) (n : Nat) : Errand → Option (DriverRun σ)
  | .underway _ (.done yield) => some (b.deliver n yield)
  | .underway operation (.step o next) =>
      match D.trapped? o b.world with
      | some world => some (({ b with world }).setErrand n (.ended .trapped))
      | none =>
          if D.isBlocked o b.world then some (b.setErrand n (.waiting operation o next))
          else some (b.goOn n operation next (D.answer o b.world))
  | .waiting operation o next =>
      if D.isStillBlocked o b.world then none
      else some (b.goOn n operation next (D.resumed o b.world))
  | .ended _ => none

/-- A dispatcher with everything that it works on. -/
def station (b : DriverRun σ) (d : Dispatcher) : Station σ := ⟨b.world, b.ledger, d⟩

/-- A dispatcher has made a step. -/
def withStation (b : DriverRun σ) (n : Nat) (r : Station σ × Option Pool.Event) : DriverRun σ :=
  { b with
    world := r.1.world, ledger := r.1.ledger
    dispatchers := b.dispatchers.set n r.1.dispatcher
    history := b.history ++ r.2.toList.map fun e => (n, e) }

/-- A step of a dispatcher. -/
def moveOf (D : Driver σ) (patience : σ → Nat) (b : DriverRun σ) (n : Nat) (move : Station.Move) :
    Option (DriverRun σ) :=
  b.dispatchers[n]?.bind fun d =>
    if b.isHindered n d then none
    else ((b.station d).step D patience move).map (b.withStation n)

/-- One step, which is missing when it is not possible. -/
def step (D : Driver σ) (supply : Supply) (patience : σ → Nat) (b : DriverRun σ) :
    Turn σ → Option (DriverRun σ)
  | .meddle change => some { b with world := { b.world with driver := change b.world.driver } }
  | .begin operation =>
      if b.inHand.any (·.excludes operation) then none
      else
        (operation.program supply b).map fun rest =>
          { b with errands := b.errands ++ [.underway operation rest] }
  | .goOn n => b.errands[n]?.bind (b.advance D n)
  | .execute n input =>
      let (ticket, ledger) := b.ledger.issue
      ({ b with ledger } : DriverRun σ).moveOf D patience n (.execute ⟨ticket, input⟩)
  | .move n move => if move.isExecution then none else b.moveOf D patience n move
  | .look ticket waker =>
      let (resolved, ledger) := b.ledger.look ticket waker
      some (({ b with ledger }).hand (.looked resolved))
  | .take ticket =>
      if b.ledger.isResolved ticket then
        let (r, ledger) := b.ledger.take ticket
        some (({ b with ledger }).hand (.taken r))
      else none

/-- Many steps. -/
def run (D : Driver σ) (supply : Supply) (patience : σ → Nat) (ts : List (Turn σ))
    (b : DriverRun σ) : Option (DriverRun σ) :=
  ts.foldlM (step D supply patience) b

end DriverRun

end Offload
