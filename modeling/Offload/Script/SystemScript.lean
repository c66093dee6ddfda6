/-
**Scripts on a device.**

Each operation of a script is followed by letting the dispatcher run until it is quiet.  Operations
that would have to wait for a later one are refused.

Main definitions:

* `Script.SystemState` — the simulated device, and all that the script has opened on it;
* `Script.SystemState.perform`, `Script.SystemState.step` — one operation, and all that follows;
* `Script.runSystem` — a whole script.
-/

import Offload.Dispatcher.Station
import Offload.Script.Rig
import Offload.Script.SystemOp

set_option autoImplicit false
set_option relaxedAutoImplicit false

namespace Offload.Script

open Native

/-! ### The state -/

/-- The state of a script. -/
structure SystemState (ε : Type) where
  world : World (Recorded ε Simulator)
  ledger : Ledger
  jobs : Jobs
  handle : Option Handle
  /-- The devices opened so far, numbered from zero; a dropped one is missing. -/
  devices : List (Option Device)
  dispatcher : Option Dispatcher

namespace SystemState

variable {ε : Type}

/-- The state at the beginning of a script. -/
def initial (setup : Simulator.Setup) (router : Log.Router) : SystemState ε :=
  { world := { driver := ⟨Simulator.fresh setup, []⟩, router }
    ledger := .empty, jobs := [], handle := none, devices := [], dispatcher := none }

/-- The simulated device. -/
def simulator (s : SystemState ε) : Simulator := s.world.driver.inner

/-- Put the simulated device into another state. -/
def withSimulator (s : SystemState ε) (simulator : Simulator) : SystemState ε :=
  { s with world := { s.world with driver := { s.world.driver with inner := simulator } } }

/-- The slot is held. -/
def isHeld (s : SystemState ε) (slot : UInt32) : Bool := s.simulator.isHeld slot

/-! ### The device from outside -/

/-- Change the simulated device, if that is possible. -/
def change (s : SystemState ε) (changed : Option Simulator) : Answer × SystemState ε :=
  match changed with
  | some simulator => (.nothing, s.withSimulator simulator)
  | none => (.refusal .trapped, s)

/-- Answer from the state of a slot that has to exist. -/
def askSlot (s : SystemState ε) (slot : UInt32) (answer : Simulator.Slot → Answer) :
    Answer × SystemState ε :=
  (((s.simulator.slot? slot).map answer).getD (.refusal .trapped), s)

/-- Perform an operation on the device from outside. -/
def performHook (op : HookOp) (s : SystemState ε) : Answer × SystemState ε :=
  match op with
  | .failNext fault => s.change (some (s.simulator.failNext fault))
  | .setBusyPolls slot polls => s.change (s.simulator.setBusyPolls slot polls)
  | .setLastError code text => s.change (some (s.simulator.setLastError code text))
  | .hold slot => s.change (s.simulator.hold slot)
  | .release slot => s.change (s.simulator.release slot)
  | .releaseAll => s.change (some s.simulator.releaseAll)
  | .sent slot => s.askSlot slot fun t => .messages t.sent
  | .inFlight slot => s.askSlot slot fun t => .flag t.inFlight
  | .sentAtLeast slot count => s.askSlot slot fun t => .flag (count ≤ t.sent.length)
  | .shellRegister index =>
      (((s.simulator.shellRegister? index).map fun v => .number v.toNat).getD
        (.refusal .trapped), s)
  | .setShellRegister index value => s.change (s.simulator.setShellRegister? index value)
  | .inspect => (.device s.simulator, s)

/-! ### Native calls -/

/-- Run a program on the script's driver; it is refused when a call traps. -/
def attempt {α : Type} (rig : Rig ε) (s : SystemState ε) (p : Program α) (answer : α → Answer) :
    Answer × SystemState ε :=
  match rig.driver.attempt p s.world with
  | (some a, world) => (answer a, { s with world })
  | (none, world) => (.refusal .trapped, { s with world })

/-- What the caller of a native call finds in the place that it had prepared with sevens, false and
null. -/
def found : (c : Call) → Option c.Stored → Stored
  | .present _, _ | .close _, _ | .writeShell _ _ _, _ | .writeSoft _ _ _, _
  | .send _ _ _, _ | .discard _ _, _ => .nothing
  | .create _ _, stored => .pointer (stored.getD none).isSome
  | .inputPointer _ _, stored | .outputPointer _ _, stored => .pointer (stored.getD none).isSome
  | .readShell _ _, stored | .shellCount _, stored | .bufferCount _, stored
  | .bufferSize _, stored | .wait _ _, stored => .word (stored.getD 7)
  | .readSoft _ _, stored => .long (stored.getD 7)
  | .inputFull _ _, stored => .flag (stored.getD false)

/-- The handle that a call leaves behind as the last one. -/
def handleAfter (last : Option Handle) : (c : Call) → Option c.Stored → Option Handle
  | .create _ _, stored => stored.getD none
  | _, _ => last

/-- The handle of a choice. -/
def chosen (s : SystemState ε) : HandleChoice → Option Handle
  | .last => s.handle
  | .null => none
  | .foreign => some ⟨Simulator.token.token + 1⟩

/-- The call would wait for a held slot. -/
def waitsForHeld (s : SystemState ε) : Call → Bool
  | .wait _ slot => s.isHeld slot
  | _ => false

/-- Make a native call. -/
def performCall (rig : Rig ε) (c : Call) (s : SystemState ε) : Answer × SystemState ε :=
  if s.waitsForHeld c then (.refusal .wouldBlock, s)
  else
    match rig.driver.attempt (call c) s.world with
    | (some reply, world) =>
        (.native reply.status (found c reply.stored),
          { s with world, handle := handleAfter s.handle c reply.stored })
    | (none, world) => (.refusal .trapped, { s with world })

/-- Perform an operation that calls the driver without a device. -/
def performNative (rig : Rig ε) (op : NativeOp) (s : SystemState ε) : Answer × SystemState ε :=
  match op with
  | .call choice make => s.performCall rig (make (s.chosen choice))
  | .lastError =>
      s.attempt rig (do return (← lastError, ← lastErrorText)) fun r => .lastError r.1 r.2
  | .verify status => s.attempt rig (check status).run (.ofOutcome fun _ => .unit)

/-! ### Devices -/

/-- The number of a device, if it is there. -/
def findDevice (s : SystemState ε) (device : Option Nat) : Option (Nat × Device) :=
  let n := device.getD (s.devices.length - 1)
  ((s.devices[n]?).bind id).map fun d => (n, d)

/-- Do something with a device that has to be there. -/
def withDevice (s : SystemState ε) (device : Option Nat)
    (perform : Nat → Device → Answer × SystemState ε) : Answer × SystemState ε :=
  match s.findDevice device with
  | some (n, d) => perform n d
  | none => (.refusal .noDevice, s)

/-- Open a device.  A driver that comes from a library is loaded for it. -/
def openDevice (rig : Rig ε) (endpoint : UInt32) (params : OpenParams) (s : SystemState ε) :
    Answer × SystemState ε :=
  let program : Action Device := do
    if let some path := rig.library then Library.load rig.linker path
    Device.bringUp rig.library endpoint params
  match rig.driver.attempt program.run s.world with
  | (some (.ok d), world) =>
      (.result (.ok (.count s.devices.length)), { s with world, devices := s.devices ++ [some d] })
  | (some (.error e), world) => (.result (.error e), { s with world })
  | (none, world) => (.refusal .trapped, { s with world })

/-- Close a device; the result tells whether it was open. -/
def closeDevice (rig : Rig ε) (s : SystemState ε) (n : Nat) (d : Device)
    (after : Device → Option Device) (answer : Bool → Answer) : Answer × SystemState ε :=
  match rig.driver.attempt d.close s.world with
  | (some (wasOpen, d), world) =>
      (answer wasOpen, { s with world, devices := s.devices.set n (after d) })
  | (none, world) => (.refusal .trapped, { s with world })

/-- A whole exchange on the caller's own thread. -/
def exchange (rig : Rig ε) (d : Device) (slot : UInt32) (input : Bytes) (s : SystemState ε) :
    Answer × SystemState ε :=
  if s.isHeld slot then (.refusal .wouldBlock, s)
  else
    let rounds := patience s.world.driver + 1
    match rig.driver.attemptRounds (Exchange.deviceRound d slot input) rounds s.world with
    | (some (some r), world) => (.ofOutcome .bytes r, { s with world })
    | (_, world) => (.refusal .trapped, { s with world })

/-! ### The dispatcher -/

/-- A dispatcher with everything that it works on. -/
def station (s : SystemState ε) (d : Dispatcher) : Station (Recorded ε Simulator) :=
  { world := s.world, ledger := s.ledger, dispatcher := d }

/-- The script after its dispatcher has worked. -/
def withStation (s : SystemState ε) (t : Station (Recorded ε Simulator)) : SystemState ε :=
  { s with world := t.world, ledger := t.ledger, dispatcher := some t.dispatcher }

/-- Bring a dispatcher up.  A driver that comes from a library is loaded for it. -/
def openDispatcher (rig : Rig ε) (config : Config) (s : SystemState ε) :
    Answer × SystemState ε :=
  if s.dispatcher.isSome then (.refusal .alreadyOpen, s)
  else
    let program :=
      if rig.library.isSome then Dispatcher.load rig.linker config
      else Dispatcher.bringUp none config
    match rig.driver.attempt program.run s.world with
    | (some (.ok d), world) => (.result (.ok .unit), { s with world, dispatcher := some d })
    | (some (.error e), world) => (.result (.error e), { s with world })
    | (none, world) => (.refusal .trapped, { s with world })

/-- A teardown has begun and not ended. -/
def isTearingDown (d : Dispatcher) : Bool :=
  match d.teardown with
  | .notBegun | .finished => false
  | _ => true

/-- Run a job to its end. -/
def runJob (rig : Rig ε) (input : Bytes) (t : Station (Recorded ε Simulator)) :
    Outcome Bytes × Station (Recorded ε Simulator) :=
  let (handle, t) := t.executeNow rig.driver patience input
  let t := t.settle rig.driver patience
  let (r, ledger) := t.ledger.take handle.ticket
  (r, { t with ledger })

/-- The input of a caller's job. -/
def floodInput (caller job : Nat) : Bytes :=
  List.replicate (1 + 5 * job) (UInt8.ofNat (caller ^^^ job))

/-- Run the jobs of all callers and count the answers that are the padded input, and the errors. -/
def flood (rig : Rig ε) (callers jobs : Nat) (t : Station (Recorded ε Simulator)) :
    (Nat × Nat) × Station (Recorded ε Simulator) :=
  let inputs := (List.range callers).flatMap fun caller =>
    (List.range jobs).map fun job => floodInput caller job
  inputs.foldl (fun ((echoed, failed), t) input =>
    match runJob rig input t with
    | (.ok r, t) => ((if r = Padding.pad input then echoed + 1 else echoed, failed), t)
    | (.error _, t) => ((echoed, failed + 1), t)) ((0, 0), t)

/-- Begin to tear a dispatcher down. -/
def beginTearDown (rig : Rig ε) (t : Station (Recorded ε Simulator)) :
    Station (Recorded ε Simulator) :=
  match t.step rig.driver patience .tearDown with
  | some (t, _) => t
  | none => t

/-- Let the dispatcher run on as far as possible. -/
def settle (rig : Rig ε) (s : SystemState ε) : SystemState ε :=
  match s.dispatcher with
  | some d => s.withStation ((s.station d).settle rig.driver patience)
  | none => s

/-- Tear a dispatcher down to the end. -/
def tearDown (rig : Rig ε) (d : Dispatcher) (s : SystemState ε) : SystemState ε :=
  (s.withStation (beginTearDown rig (s.station d))).settle rig

/-- Perform an operation on the dispatcher. -/
def performDispatcher (rig : Rig ε) (op : DispatcherOp) (d : Dispatcher) (s : SystemState ε) :
    Answer × SystemState ε :=
  let anyHeld := s.simulator.anyHeld
  match op with
  | .submit input =>
      let (handle, t) := (s.station d).executeNow rig.driver patience input
      let s := s.withStation t
      (.submitted s.jobs.length handle.slot, { s with jobs := s.jobs.add handle true })
  | .runJob input =>
      if anyHeld then (.refusal .wouldBlock, s)
      else
        let (r, t) := runJob rig input (s.station d)
        (.ofOutcome .bytes r, s.withStation t)
  | .stats => (.stats d.pool.stats, s)
  | .capabilities => (.dispatcherCapabilities d.device.capabilities, s)
  | .register op =>
      match (s.station d).onDevice rig.driver op.action with
      | some (r, t) => (.ofOutcome id r, s.withStation t)
      | none => (.refusal .wouldBlock, s)
  | .isClosed => (.flag d.tornDown, s)
  | .tearDown =>
      if anyHeld || isTearingDown d then (.refusal .wouldBlock, s)
      else (.nothing, s.tearDown rig d)
  | .beginTearDown => (.nothing, s.withStation (beginTearDown rig (s.station d)))
  | .drop =>
      if anyHeld || isTearingDown d then (.refusal .wouldBlock, s)
      else (.nothing, { s.tearDown rig d with dispatcher := none })
  | .flood callers jobs =>
      if anyHeld then (.refusal .wouldBlock, s)
      else
        let ((echoed, failed), t) := flood rig callers jobs (s.station d)
        (.echoes echoed failed, s.withStation t)

/-! ### Whole scripts -/

/-- Perform an operation. -/
def perform (rig : Rig ε) (op : SystemOp) (s : SystemState ε) : Answer × SystemState ε :=
  match op with
  | .log op =>
      let (answer, router) := op.perform s.world.router
      (answer.toAnswer, { s with world := { s.world with router } })
  | .job job op =>
      let (answer, jobs, ledger) := s.jobs.perform op job s.ledger
      (answer, { s with jobs, ledger })
  | .hook op => s.performHook op
  | .native op => s.performNative rig op
  | .openDevice endpoint params => s.openDevice rig endpoint params
  | .dropDevice device =>
      match s.findDevice device with
      | some (n, d) => s.closeDevice rig n d (fun _ => none) fun _ => .flag true
      | none => (.flag false, s)
  | .isOpen device => s.withDevice device fun _ d => (.flag d.isOpen, s)
  | .close device => s.withDevice device fun n d => s.closeDevice rig n d some .flag
  | .capabilities device =>
      s.withDevice device fun _ d => (.capabilities d.endpoint d.capabilities, s)
  | .onDevice device op =>
      s.withDevice device fun _ d =>
        if (op.waitsFor?.map s.isHeld).getD false then (.refusal .wouldBlock, s)
        else s.attempt rig (d.withSession op.action).run (.ofOutcome id)
  | .exchange device slot input =>
      s.withDevice device fun _ d => s.exchange rig d slot input
  | .openDispatcher config => s.openDispatcher rig config
  | .onDispatcher op =>
      match s.dispatcher with
      | some d => s.performDispatcher rig op d
      | none => (.refusal .noDispatcher, s)

/-- Take the deliveries and the calls made so far out. -/
def drain (s : SystemState ε) : (List Log.Delivery × List (ε × Status)) × SystemState ε :=
  let (deliveries, router) := Script.drain s.world.router
  let calls := s.world.driver.calls
  ((deliveries, calls),
    { s with world := { driver := { s.world.driver with calls := [] }, router } })

/-- One step of a script. -/
def step (rig : Rig ε) (op : SystemOp) (s : SystemState ε) : Step ε × SystemState ε :=
  let (answer, s) := s.perform rig op
  let s := s.settle rig
  let (done, jobs) := s.jobs.report s.ledger
  let ((deliveries, calls), s) := ({ s with jobs } : SystemState ε).drain
  ({ answer, done, deliveries, calls }, s)

/-- All steps of a script. -/
def steps (rig : Rig ε) : List SystemOp → SystemState ε → List (Step ε) × SystemState ε
  | [], s => ([], s)
  | op :: ops, s =>
      let (step, s) := s.step rig op
      let (rest, s) := steps rig ops s
      (step :: rest, s)

/-- The end of a script: every slot is released, and the dispatcher is torn down. -/
def finish (rig : Rig ε) (s : SystemState ε) : List Log.Delivery :=
  let s := (s.withSimulator s.simulator.releaseAll).settle rig
  match s.dispatcher with
  | some d => (s.tearDown rig d).drain.1.1
  | none => s.drain.1.1

end SystemState

/-- A whole script: its steps, and the lines delivered after the last of them. -/
def runSystem {ε : Type} (rig : Rig ε) (setup : Simulator.Setup) (router : Log.Router)
    (ops : List SystemOp) : List (Step ε) × List Log.Delivery :=
  let (steps, s) := SystemState.steps rig ops (.initial setup router)
  (steps, s.finish rig)

end Offload.Script
