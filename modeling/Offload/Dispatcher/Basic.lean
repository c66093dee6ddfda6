/-
**The dispatcher: bringing a device up.**

A dispatcher owns an open device and the pool that runs jobs on it.  Bringing it up opens the
device, clears its configuration, enables PCIe and starts one worker for each slot; what has been
done is undone when a later step fails, and the first error stands.

Main definitions:

* `Dispatcher` — the device, the pool, and how far a teardown has come;
* `Dispatcher.bringUp` — a dispatcher on a driver that is bound already;
* `Dispatcher.load` — a dispatcher on the library that the configuration names;
* `Dispatcher.admission` — the jobs that are refused before any slot is chosen.
-/

import Offload.Config.Basic
import Offload.Device.Exchange
import Offload.Library.Entry

set_option autoImplicit false
set_option relaxedAutoImplicit false

namespace Offload

open Native

namespace Dispatcher

/-- Where the call that tears a dispatcher down stands. -/
inductive Teardown where
  | notBegun
  /-- Next it announces itself. -/
  | announcing
  /-- Next it closes the pool. -/
  | stopping
  /-- It waits for the pool. -/
  | waiting
  /-- It closes the device. -/
  | closing (rest : Program (Bool × Device))
  /-- Next it takes its own sink away. -/
  | releasing
  | finished

end Dispatcher

/-- A dispatcher. -/
structure Dispatcher where
  device : Device
  pool : Pool Exchange.Run
  /-- The sink that was installed for it. -/
  sink : Option Log.Sink
  /-- No job is admitted any more. -/
  tornDown : Bool
  teardown : Dispatcher.Teardown
  /-- Jobs that were admitted and have not reached the lock of the pool. -/
  arrivals : List Pool.Job

namespace Dispatcher

/-! ### Bringing up -/

/-- A path that can be handed to the driver. -/
def driverPath (path : String) : Outcome String :=
  if Text.hasNul path then .error (.config s!"path contains NUL: {path}") else .ok path

/-- What the device is told when it is opened. -/
def openParams (config : Config) : Outcome OpenParams := do
  let definitions ← config.definitions.mapM driverPath
  let manifest ← config.manifest.mapM driverPath
  return { definitions, manifest, logs := true }

/-- Set an open device up and build the pool for its slots. -/
def setUp (device : Device) : Action (Pool Exchange.Run) := do
  device.withSession fun session => session.writeShell Session.configRegister 0
  device.withSession fun session => session.setPcieEnabled true
  let slots := device.capabilities.bufferCount.toNat
  if slots = 0 then throw (.connection "device reports no buffers")
  let pool ← Pool.build slots
  logLine .info
    s!"accel: dispatcher ready on endpoint {device.endpoint.toNat} with {slots} slots"
  return pool

/-- Open the device and set it up; a device that cannot be set up is closed again. -/
def bringUpDevice (library : Option String) (config : Config) :
    Action (Device × Pool Exchange.Run) := do
  match openParams config with
  | .error e =>
      noteUnloaded library
      throw e
  | .ok params =>
      let device ← Device.bringUp library config.endpoint params
      match ← outcome (setUp device) with
      | .ok pool => return (device, pool)
      | .error e =>
          let _ ← device.close
          throw e

/-- Install a sink, if there is one. -/
def installSink (sink : Option Log.Sink) : Program Unit :=
  match sink with
  | some sink => perform (.log (.install sink))
  | none => pure ()

/-- Take a sink away if it is the installed one. -/
def removeSink (sink : Option Log.Sink) : Program Unit :=
  match sink with
  | some sink => perform (.log (.remove sink))
  | none => pure ()

/-- Bring a dispatcher up on a driver; `library` is the path of the driver's library, if it has one.
The configured sink is installed first and taken away again on failure. -/
def bringUp (library : Option String) (config : Config) : Action Dispatcher := do
  installSink config.sink
  match ← outcome (bringUpDevice library config) with
  | .ok (device, pool) =>
      return {
        device, pool
        sink := config.sink
        tornDown := false
        teardown := .notBegun
        arrivals := [] }
  | .error e =>
      removeSink config.sink
      throw e

/-- Load the configured library and bring a dispatcher up on it. -/
def load (linker : Library.Linker) (config : Config) : Action Dispatcher := do
  perform (.log .start)
  Library.load linker config.libraryPath
  bringUp (some config.libraryPath) config

/-! ### Admission -/

/-- The size of the regions of every slot. -/
def bufferSize (d : Dispatcher) : Nat := d.device.capabilities.bufferSize.toNat

/-- Whether a job is admitted: its input must not be empty and has to fit when padded, and the
dispatcher must not be torn down. -/
def admission (d : Dispatcher) (input : Bytes) : Outcome Unit :=
  if input = [] then .error .emptyInput
  else if d.bufferSize < Padding.paddedLength input.length then
    .error (.oversizedInput input.length d.bufferSize)
  else if d.tornDown then .error .closed
  else .ok ()

end Dispatcher

end Offload
