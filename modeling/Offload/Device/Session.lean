/-
**A session with an open device.**

A session is the handle of an open device with the size of its regions.  Its operations are native
calls whose status is judged at once; each prepares the value that it reports when the driver
stores none.

Main definitions:

* `Session` — the handle and the region size;
* `View` — bounded access to one region;
* `Session.inputFull`, `Session.send`, `Session.waitOutput`, `Session.discard`,
  `Session.inputView`, `Session.outputView` — the calls of one slot;
* `Session.readShell`, `Session.writeShell`, `Session.readSoft`, `Session.writeSoft` — registers;
* `Session.pcieEnabled`, `Session.setPcieEnabled` — the enable bit of the configuration register.
-/

import Offload.Native.Program
import Offload.Buffer

set_option autoImplicit false
set_option relaxedAutoImplicit false

namespace Offload

open Native

/-! ### Bounded views -/

/-- Access to a region of a known size. -/
structure View where
  region : Region
  capacity : Nat
  deriving DecidableEq

namespace View

/-- A view over what a pointer points to; a null pointer is the driver's fault. -/
def ofPointer (pointer : Option Region) (capacity : Nat) : Outcome View :=
  match pointer with
  | some region => .ok ⟨region, capacity⟩
  | none => .error (.deviceOperation .driverError 0 "driver returned a null buffer pointer")

/-- Store `data` at the beginning of the region. -/
def copyIn (v : View) (data : Bytes) : Action Unit := do
  Buffer.checkBounds data.length v.capacity
  store v.region data

/-- Read the first `n` bytes of the region. -/
def copyOut (v : View) (n : Nat) : Action Bytes := do
  Buffer.checkBounds n v.capacity
  fetch v.region n

end View

/-! ### The session -/

/-- An open device: the handle and the size of every region. -/
structure Session where
  handle : Handle
  bufferSize : Nat
  deriving DecidableEq

namespace Session

/-- Whether the slot cannot take a message yet. -/
def inputFull (s : Session) (slot : UInt32) : Action Bool :=
  request (.inputFull s.handle slot) false

/-- Hand the first `length` bytes of the slot's input region to the device. -/
def send (s : Session) (slot length : UInt32) : Action Unit :=
  request (.send s.handle slot length) ()

/-- Wait for the slot's output; the result is its length. -/
def waitOutput (s : Session) (slot : UInt32) : Action UInt32 := request (.wait s.handle slot) 0

/-- Give the slot's output region back to the device. -/
def discard (s : Session) (slot : UInt32) : Action Unit := request (.discard s.handle slot) ()

/-- The slot's input region. -/
def inputView (s : Session) (slot : UInt32) : Action View := do
  let pointer ← request (.inputPointer s.handle slot) none
  View.ofPointer pointer s.bufferSize

/-- The slot's output region. -/
def outputView (s : Session) (slot : UInt32) : Action View := do
  let pointer ← request (.outputPointer s.handle slot) none
  View.ofPointer pointer s.bufferSize

/-! ### Registers -/

/-- Read a register of the device's configuration. -/
def readShell (s : Session) (index : UInt32) : Action UInt32 :=
  request (.readShell s.handle index) 0

/-- Write a register of the device's configuration. -/
def writeShell (s : Session) (index value : UInt32) : Action Unit :=
  request (.writeShell s.handle index value) ()

/-- Read a register of the loaded image. -/
def readSoft (s : Session) (address : UInt64) : Action UInt64 :=
  request (.readSoft s.handle address) 0

/-- Write a register of the loaded image. -/
def writeSoft (s : Session) (address value : UInt64) : Action Unit :=
  request (.writeSoft s.handle address value) ()

/-- The register that holds the device's configuration. -/
def configRegister : UInt32 := 0

/-- The bit of the configuration register that enables PCIe. -/
def pcieEnableMask : UInt32 := 1

/-- A configuration with the enable bit set or cleared. -/
def withPcieBit (enabled : Bool) (configuration : UInt32) : UInt32 :=
  if enabled then configuration ||| pcieEnableMask else configuration &&& ~~~pcieEnableMask

/-- Whether PCIe is enabled. -/
def pcieEnabled (s : Session) : Action Bool := do
  return (← s.readShell configRegister) &&& pcieEnableMask ≠ 0

/-- Set or clear the enable bit; the other bits of the configuration are written back. -/
def setPcieEnabled (s : Session) (enabled : Bool) : Action Unit := do
  let current ← s.readShell configRegister
  s.writeShell configRegister (withPcieBit enabled current)

end Session

end Offload
