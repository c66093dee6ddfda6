/-
**Opening and closing a device.**

A device is opened by a presence check, the creation of a handle and three queries of its
capabilities; it is closed by clearing the enable bit and giving the handle back.  A device that is
closed answers every operation with `Error.closed`.

Main definitions:

* `Capabilities` — what an open device reports about itself;
* `Device` — the endpoint, the capabilities, and the session while the device is open;
* `Device.bringUp` — opening;
* `Device.close` — closing, which reports whether there was anything to close;
* `Device.withSession` — an operation on an open device.
-/

import Offload.Device.Session

set_option autoImplicit false
set_option relaxedAutoImplicit false

namespace Offload

open Native

/-- What a device reports about itself when it is opened. -/
structure Capabilities where
  shellRegisters : UInt32
  bufferCount : UInt32
  bufferSize : UInt32
  deriving DecidableEq, Inhabited

/-- A device.  `library` is the path of the driver library that is unloaded with the session, if
the driver came from one. -/
structure Device where
  endpoint : UInt32
  capabilities : Capabilities
  library : Option String
  session : Option Session
  deriving DecidableEq

/-- Note that the driver is gone with its library. -/
def noteUnloaded (library : Option String) : Program Unit :=
  match library with
  | some path => logLine .debug s!"accel: unloaded driver library {path}"
  | none => pure ()

namespace Device

/-! ### Opening -/

/-- Ask a device for its capabilities. -/
def queryCapabilities (handle : Handle) : Action Capabilities := do
  let shellRegisters ← request (.shellCount handle) 0
  let bufferCount ← request (.bufferCount handle) 0
  let bufferSize ← request (.bufferSize handle) 0
  return { shellRegisters, bufferCount, bufferSize }

/-- Give a handle back. -/
def closeHandle (handle : Handle) : Action Unit := request (.close handle) ()

/-- The presence check; only plain success counts. -/
def requirePresence (params : OpenParams) : Action Unit := do
  let reply ← call (.present params)
  unless reply.status = .success do
    let text ← lastErrorText
    throw (.connection s!"no device present: {reply.status.text} {text}")

/-- The creation of a handle; only plain success with a handle counts. -/
def createHandle (endpoint : UInt32) (params : OpenParams) : Action Handle := do
  let reply ← call (.create endpoint params)
  match reply.stored.getD none with
  | some handle =>
      if reply.status = .success then return handle
  | none => pure ()
  let text ← lastErrorText
  throw (.connection s!"create handle on endpoint {endpoint.toNat}: {reply.status.text} {text}")

/-- The capabilities behind a new handle; if they cannot be had, the handle is given back and the
first error stands. -/
def settleHandle (handle : Handle) : Action Capabilities := do
  match ← outcome (queryCapabilities handle) with
  | .ok capabilities => return capabilities
  | .error e =>
      match ← outcome (closeHandle handle) with
      | .ok () => pure ()
      | .error e' =>
          logLine .warn ("accel: open: closing handle after failed query: " ++ e'.message)
      throw e

/-- A handle on an endpoint with the capabilities behind it. -/
def acquire (endpoint : UInt32) (params : OpenParams) : Action (Handle × Capabilities) := do
  requirePresence params
  let handle ← createHandle endpoint params
  let capabilities ← settleHandle handle
  return (handle, capabilities)

/-- Open the device on an endpoint.  A driver whose device does not open is released. -/
def bringUp (library : Option String) (endpoint : UInt32) (params : OpenParams) :
    Action Device := do
  match ← outcome (acquire endpoint params) with
  | .error e =>
      noteUnloaded library
      throw e
  | .ok (handle, capabilities) =>
      logLine .info (s!"accel: device open on endpoint {endpoint.toNat}: " ++
        s!"{capabilities.shellRegisters.toNat} shell registers, " ++
        s!"{capabilities.bufferCount.toNat} buffers x {capabilities.bufferSize.toNat} bytes")
      return {
        endpoint, capabilities, library
        session := some { handle, bufferSize := capabilities.bufferSize.toNat } }

/-! ### Operations and closing -/

/-- The device is open. -/
def isOpen (d : Device) : Bool := d.session.isSome

/-- An operation on the session of an open device. -/
def withSession {α : Type} (d : Device) (operation : Session → Action α) : Action α :=
  match d.session with
  | some session => operation session
  | none => throw .closed

/-- Log a failure of a closing step and go on. -/
def warnOnError (what : String) (step : Action Unit) : Program Unit := do
  match ← step.run with
  | .ok () => pure ()
  | .error e => logLine .warn (what ++ e.message)

/-- The steps that end a session. -/
def endSession (d : Device) (session : Session) : Program Unit := do
  warnOnError "accel: close: clearing PCIe enable failed: " (session.setPcieEnabled false)
  warnOnError "accel: close: closing handle failed: " (closeHandle session.handle)
  noteUnloaded d.library
  logLine .debug s!"accel: device on endpoint {d.endpoint.toNat} closed"

/-- The device without its session. -/
def closed (d : Device) : Device := { d with session := none }

/-- Close the device.  Failures are logged; a device that is closed already is left alone, and the
result tells the two cases apart. -/
def close (d : Device) : Program (Bool × Device) := do
  match d.session with
  | none => return (false, d)
  | some session =>
      d.endSession session
      return (true, d.closed)

end Device

end Offload
