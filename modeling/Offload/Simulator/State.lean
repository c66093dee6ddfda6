/-
**The simulated device: its state.**

The simulated device keeps registers, one pair of regions per slot, and a list of injected faults.
A fault names a kind of call and perhaps a slot; the first one that matches a call is used up by it
and decides its status.

Main definitions:

* `Simulator.Setup` — what the device looks like;
* `Simulator.Slot` — the state of one slot;
* `Simulator.Fault`, `Simulator.takeFault` — injected faults, and the first that matches a call;
* `Simulator` — the state of the device;
* `Simulator.failNext`, `Simulator.setBusyPolls`, … — what a test can do to it besides calling it.
-/

import Offload.Native.Call
import Offload.Buffer

set_option autoImplicit false
set_option relaxedAutoImplicit false

namespace Offload

open Native

namespace Simulator

/-- What a simulated device looks like. -/
structure Setup where
  present : Bool
  bufferCount : UInt32
  bufferSize : UInt32
  shellRegisters : UInt32
  deriving DecidableEq, Inhabited

/-- A present device with four slots of 4096 bytes and sixteen registers. -/
def Setup.standard : Setup :=
  { present := true, bufferCount := 4, bufferSize := 4096, shellRegisters := 16 }

/-! ### Faults -/

/-- The kinds of call that can be made to fail. -/
inductive Operation where
  | present
  | createHandle
  | closeHandle
  | queryCapabilities
  | readShell
  | writeShell
  | readSoft
  | writeSoft
  | bufferPointer
  | inputFull
  | send
  | wait
  | discard
  deriving DecidableEq, Inhabited

/-- The name of a kind of call in the text of a fault. -/
def Operation.name : Operation → String
  | present => "Present"
  | createHandle => "CreateHandle"
  | closeHandle => "CloseHandle"
  | queryCapabilities => "QueryCapabilities"
  | readShell => "ReadShell"
  | writeShell => "WriteShell"
  | readSoft => "ReadSoft"
  | writeSoft => "WriteSoft"
  | bufferPointer => "BufferPointer"
  | inputFull => "InputFull"
  | send => "Send"
  | wait => "Wait"
  | discard => "Discard"

/-- An injected fault; without a slot it matches calls about any slot and about none. -/
structure Fault where
  operation : Operation
  slot : Option UInt32
  status : Status
  deriving DecidableEq, Inhabited

/-- The fault is meant for a call of this kind about this slot. -/
def Fault.isFor (f : Fault) (operation : Operation) (slot : Option UInt32) : Bool :=
  f.operation = operation && (f.slot.isNone || f.slot = slot)

/-- The status of the first fault for a call, and the faults that remain. -/
def takeFault (operation : Operation) (slot : Option UInt32) :
    List Fault → Option (Status × List Fault)
  | [] => none
  | f :: fs =>
      if f.isFor operation slot then some (f.status, fs)
      else (takeFault operation slot fs).map fun r => (r.1, f :: r.2)

/-! ### Slots -/

/-- The state of one slot. -/
structure Slot where
  input : Bytes
  output : Bytes
  /-- How many more times the slot says that it is not ready. -/
  busyPolls : UInt32
  /-- How many times the slot has been asked whether it is ready. -/
  polls : Nat
  /-- The length of an output that has not been waited for. -/
  pending : Option UInt32
  /-- A message has been taken and its output not been given back. -/
  inFlight : Bool
  /-- Waiting for output does not return. -/
  held : Bool
  /-- The messages taken so far. -/
  sent : List Bytes
  discards : Nat
  deriving DecidableEq, Inhabited

/-- A slot whose regions are blank. -/
def Slot.idle (blank : Bytes) : Slot :=
  { input := blank, output := blank, busyPolls := 0, polls := 0, pending := none,
    inFlight := false, held := false, sent := [], discards := 0 }

end Simulator

/-! ### The device -/

/-- The state of a simulated device. -/
structure Simulator where
  setup : Simulator.Setup
  isOpen : Bool
  closeCalls : Nat
  shell : List UInt32
  soft : UInt64 → UInt64
  slots : List Simulator.Slot
  faults : List Simulator.Fault
  lastError : UInt32
  lastErrorText : String
  /-- Messages taken by a slot that still had one in flight. -/
  overlaps : Nat

namespace Simulator

/-- A device that nobody has touched. -/
def fresh (setup : Setup) : Simulator :=
  { setup
    isOpen := false
    closeCalls := 0
    shell := List.replicate setup.shellRegisters.toNat 0
    soft := fun _ => 0
    slots := List.replicate setup.bufferCount.toNat
      (Slot.idle (List.replicate setup.bufferSize.toNat 0))
    faults := []
    lastError := 0
    lastErrorText := ""
    overlaps := 0 }

/-- The state of a slot, if there is such a slot. -/
def slot? (s : Simulator) (slot : UInt32) : Option Slot := s.slots[slot.toNat]?

/-- Change the state of a slot; a slot that does not exist is left alone. -/
def modifySlot (s : Simulator) (slot : UInt32) (change : Slot → Slot) : Simulator :=
  { s with slots := s.slots.modify slot.toNat change }

/-! ### Memory -/

/-- Store bytes at the beginning of a region. -/
def store (region : Region) (data : Bytes) (s : Simulator) : Simulator :=
  s.modifySlot region.slot fun slot =>
    match region.side with
    | .input => { slot with input := Buffer.overwrite data slot.input }
    | .output => { slot with output := Buffer.overwrite data slot.output }

/-- The first bytes of a region. -/
def fetch (region : Region) (length : Nat) (s : Simulator) : Bytes :=
  match s.slot? region.slot with
  | none => []
  | some slot =>
      match region.side with
      | .input => slot.input.take length
      | .output => slot.output.take length

/-! ### What a test can do -/

/-- Change the state of a slot that has to exist. -/
def changeSlot? (slot : UInt32) (change : Slot → Slot) (s : Simulator) : Option Simulator :=
  if slot.toNat < s.slots.length then some (s.modifySlot slot change) else none

/-- Make the next matching call return `status`. -/
def failNext (fault : Fault) (s : Simulator) : Simulator :=
  { s with faults := s.faults ++ [fault] }

/-- Let a slot say `polls` times that it is not ready. -/
def setBusyPolls (slot polls : UInt32) : Simulator → Option Simulator :=
  changeSlot? slot fun t => { t with busyPolls := polls }

/-- Set what the device says about its most recent failure. -/
def setLastError (code : UInt32) (text : String) (s : Simulator) : Simulator :=
  { s with lastError := code, lastErrorText := text }

/-- Keep waiting for the output of a slot from returning. -/
def hold (slot : UInt32) : Simulator → Option Simulator :=
  changeSlot? slot fun t => { t with held := true }

/-- Let waiting for the output of a slot return again. -/
def release (slot : UInt32) : Simulator → Option Simulator :=
  changeSlot? slot fun t => { t with held := false }

/-- Release every slot. -/
def releaseAll (s : Simulator) : Simulator :=
  { s with slots := s.slots.map fun t => { t with held := false } }

/-- A slot is held. -/
def isHeld (s : Simulator) (slot : UInt32) : Bool := ((s.slot? slot).map (·.held)).getD false

/-- Some slot is held. -/
def anyHeld (s : Simulator) : Bool := s.slots.any (·.held)

/-- A bound on how often the slots say that they are not ready: once for each remaining busy poll,
and once for each fault, which may be used up by such an answer. -/
def patience (s : Simulator) : Nat :=
  s.slots.foldr (fun t total => t.busyPolls.toNat + total) 0 + s.faults.length

/-- The content of a register that has to exist. -/
def shellRegister? (index : UInt32) (s : Simulator) : Option UInt32 := s.shell[index.toNat]?

/-- Set a register that has to exist. -/
def setShellRegister? (index value : UInt32) (s : Simulator) : Option Simulator :=
  if index.toNat < s.shell.length then some { s with shell := s.shell.set index.toNat value }
  else none

end Simulator

end Offload
