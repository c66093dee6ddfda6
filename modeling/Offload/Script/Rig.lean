/-
**The drivers that scripts run on.**

A script runs on a simulated device, either through the device's own driver or through a driver
library whose entry points forward to it.  Both keep a record of the calls that returned.

Main definitions:

* `Script.Workload` — what the simulated device computes;
* `Script.Rig` — a driver on recorded simulated devices, with the library it comes from;
* `Script.Rig.direct`, `Script.Rig.throughLibrary` — the two rigs.
-/

import Offload.Library.Binding
import Offload.Library.Entry
import Offload.Simulator.Driver

set_option autoImplicit false
set_option relaxedAutoImplicit false

namespace Offload.Script

open Native

/-- What a simulated device computes from a message. -/
inductive Workload where
  | echo
  | reverse
  /-- Every byte is raised by one. -/
  | increment
  /-- Every byte is combined with the number of the slot. -/
  | xorSlot
  /-- The first bytes only. -/
  | head (length : Nat)
  /-- Bytes that do not depend on the message. -/
  | constant (length : Nat)
  /-- The message twice. -/
  | double
  deriving DecidableEq

/-- The answer of a workload to a message of a slot. -/
def Workload.compute : Workload → UInt32 → Bytes → Bytes
  | echo, _, message => message
  | reverse, _, message => message.reverse
  | increment, _, message => message.map (· + 1)
  | xorSlot, slot, message => message.map (· ^^^ slot.toUInt8)
  | head length, _, message => message.take length
  | constant length, _, _ => List.replicate length 0xEE
  | double, _, message => message ++ message

/-- A driver on recorded simulated devices.  `ε` is the type of the recorded calls. -/
structure Rig (ε : Type) where
  driver : Driver (Recorded ε Simulator)
  /-- The path of the library that the driver comes from, if it comes from one. -/
  library : Option String
  linker : Library.Linker

/-- The driver of the simulated device itself. -/
def Rig.direct (workload : Workload) : Rig Call :=
  { driver := (Simulator.driver workload.compute).recorded
    library := none
    linker := Library.linkerOf [] }

/-- The driver that comes from a library at `path` whose entry points forward to the device. -/
def Rig.throughLibrary (workload : Workload) (full : Int32) (textStatus : Status) (path : String) :
    Rig Library.Entry :=
  let library := Library.forwarding (Simulator.driver workload.compute) full textStatus
  { driver := library.recorded.driver
    library := some path
    linker := Library.linkerOf [(path, Library.symbols)] }

/-- A bound on how often the slots of a recorded device say that they are not ready. -/
def patience {ε : Type} (r : Recorded ε Simulator) : Nat := r.inner.patience

end Offload.Script
