/-
**The operations of a script on a device.**

A script works on one simulated device: it changes the device from outside, makes native calls,
opens devices through the driver, and runs a dispatcher.

Main definitions:

* `Script.HookOp`, `Script.NativeOp`, `Script.SessionOp`, `Script.DispatcherOp` — the operations on
  the device from outside, on its driver, on an open session, and on a dispatcher;
* `Script.SystemOp` — all of them, with those on jobs and on logging;
* `Script.SessionOp.action` — the action behind an operation on a session.
-/

import Offload.Config.Basic
import Offload.Script.Jobs
import Offload.Script.LogScript

set_option autoImplicit false
set_option relaxedAutoImplicit false

namespace Offload.Script

open Native

/-! ### The operations -/

/-- The operations on the simulated device from outside. -/
inductive HookOp where
  | failNext (fault : Simulator.Fault)
  | setBusyPolls (slot polls : UInt32)
  | setLastError (code : UInt32) (text : String)
  | hold (slot : UInt32)
  | release (slot : UInt32)
  | releaseAll
  | sent (slot : UInt32)
  | inFlight (slot : UInt32)
  | sentAtLeast (slot : UInt32) (count : Nat)
  | shellRegister (index : UInt32)
  | setShellRegister (index value : UInt32)
  /-- Everything that can be seen of the device. -/
  | inspect

/-- Which handle a native call passes. -/
inductive HandleChoice where
  /-- The one that the last creation stored. -/
  | last
  | null
  /-- One that the device never handed out. -/
  | foreign

/-- The operations that call the driver without a device. -/
inductive NativeOp where
  | call (choice : HandleChoice) (make : Option Handle → Call)
  | lastError
  | verify (status : Status)

/-- The operations on the registers of an open session. -/
inductive RegisterOp where
  | readShell (index : UInt32)
  | writeShell (index value : UInt32)
  | readSoft (address : UInt64)
  | writeSoft (address value : UInt64)
  | pcieEnabled
  | setPcieEnabled (enabled : Bool)

/-- The operations on an open session. -/
inductive SessionOp where
  | touch
  | check (status : Status)
  | register (op : RegisterOp)
  | inputFull (slot : UInt32)
  | send (slot length : UInt32)
  | waitOutput (slot : UInt32)
  | discard (slot : UInt32)
  | copyIn (slot : UInt32) (data : Bytes)
  | copyOutOfInput (slot : UInt32) (length : Nat)
  | copyOut (slot : UInt32) (length : Nat)
  | view (slot : UInt32)

/-- The operations on a dispatcher. -/
inductive DispatcherOp where
  | submit (input : Bytes)
  | runJob (input : Bytes)
  | stats
  | capabilities
  | register (op : RegisterOp)
  | isClosed
  | tearDown
  /-- Begin to tear the dispatcher down, and let that end whenever it can. -/
  | beginTearDown
  | drop
  /-- Callers that each run jobs one after another. -/
  | flood (callers jobs : Nat)

/-- The operations of a script.  A device is named by its number, or is the one opened last. -/
inductive SystemOp where
  | log (op : LogOp)
  | job (job : Nat) (op : JobOp)
  | hook (op : HookOp)
  | native (op : NativeOp)
  | openDevice (endpoint : UInt32) (params : OpenParams)
  | dropDevice (device : Option Nat)
  | isOpen (device : Option Nat)
  | close (device : Option Nat)
  | capabilities (device : Option Nat)
  | onDevice (device : Option Nat) (op : SessionOp)
  /-- A whole exchange on the caller's own thread. -/
  | exchange (device : Option Nat) (slot : UInt32) (input : Bytes)
  | openDispatcher (config : Config)
  | onDispatcher (op : DispatcherOp)

/-! ### Operations as actions -/

/-- The action behind an operation on registers. -/
def RegisterOp.action (op : RegisterOp) (s : Session) : Action Value :=
  match op with
  | .readShell index => return .word (← s.readShell index)
  | .writeShell index value => do s.writeShell index value; return .unit
  | .readSoft address => return .long (← s.readSoft address)
  | .writeSoft address value => do s.writeSoft address value; return .unit
  | .pcieEnabled => return .flag (← s.pcieEnabled)
  | .setPcieEnabled enabled => do s.setPcieEnabled enabled; return .unit

/-- The action behind an operation on a session. -/
def SessionOp.action (op : SessionOp) (s : Session) : Action Value :=
  match op with
  | .touch => return .unit
  | .check status => do Native.check status; return .unit
  | .register op => op.action s
  | .inputFull slot => return .flag (← s.inputFull slot)
  | .send slot length => do s.send slot length; return .unit
  | .waitOutput slot => return .word (← s.waitOutput slot)
  | .discard slot => do s.discard slot; return .unit
  | .copyIn slot data => do
      let view ← s.inputView slot
      view.copyIn data
      return .unit
  | .copyOutOfInput slot length => do
      let view ← s.inputView slot
      return .bytes (← view.copyOut length)
  | .copyOut slot length => do
      let view ← s.outputView slot
      return .bytes (← view.copyOut length)
  | .view slot => return .view (← s.inputView slot).capacity

/-- The slot that an operation waits for. -/
def SessionOp.waitsFor? : SessionOp → Option UInt32
  | .waitOutput slot => some slot
  | _ => none

end Offload.Script
