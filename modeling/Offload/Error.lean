/-
**The errors of the library.**

An error is a cause with the values that belong to it; the wording is one function of the cause.

Main definitions:

* `Error` — the nine causes;
* `Error.message` — the text of an error;
* `Error.status?` — the native code, for the one cause that comes from the device.
-/

import Offload.Status

set_option autoImplicit false
set_option relaxedAutoImplicit false

namespace Offload

/-- Byte strings: messages, regions and the texts that cross the native interface. -/
abbrev Bytes := List UInt8

/-- Why an operation failed. -/
inductive Error where
  /-- The device could not be reached or opened. -/
  | connection (reason : String)
  /-- A native call returned a fatal code; the driver's own account of it comes along. -/
  | deviceOperation (status : Status) (lastError : UInt32) (detail : String)
  /-- The padded input does not fit the buffer of a slot. -/
  | oversizedInput (length limit : Nat)
  /-- A job needs at least one byte. -/
  | emptyInput
  /-- An access reaches beyond its region. -/
  | bufferBounds (requested capacity : Nat)
  /-- The driver library could not be loaded. -/
  | library (reason : String)
  /-- The dispatcher, the pool or the device takes no more work. -/
  | closed
  /-- The configuration is not usable. -/
  | config (reason : String)
  /-- A worker could not be started. -/
  | workerSpawn (reason : String)
  deriving DecidableEq, Inhabited

namespace Error

/-- The account of a failed native call: the code, the driver's last error and its text. -/
def deviceDetail (status : Status) (lastError : UInt32) (detail : String) : String :=
  s!"{status.text} (last error {lastError.toNat}): {detail}"

/-- The text of an error. -/
def message : Error → String
  | connection reason => s!"connection error: {reason}"
  | deviceOperation status lastError detail =>
      "device operation failed: " ++ deviceDetail status lastError detail
  | oversizedInput length limit => s!"input of {length} bytes exceeds buffer size {limit}"
  | emptyInput => "input is empty"
  | bufferBounds requested capacity =>
      s!"buffer access of {requested} bytes exceeds region of {capacity} bytes"
  | library reason => s!"native library: {reason}"
  | closed => "dispatcher is closed"
  | config reason => s!"invalid configuration: {reason}"
  | workerSpawn reason => s!"failed to start slot worker: {reason}"

/-- The native code behind an error, if a native call caused it. -/
def status? : Error → Option Status
  | deviceOperation status _ _ => some status
  | _ => none

end Error

/-- What an operation or a job comes to: a value or the error that stopped it. -/
abbrev Outcome (α : Type) := Except Error α

instance Outcome.decidableEq {α : Type} [DecidableEq α] : DecidableEq (Outcome α)
  | .ok a, .ok b => if h : a = b then .isTrue (by rw [h]) else .isFalse fun e => h (by cases e; rfl)
  | .error d, .error e =>
      if h : d = e then .isTrue (by rw [h]) else .isFalse fun e => h (by cases e; rfl)
  | .ok _, .error _ => .isFalse fun e => by cases e
  | .error _, .ok _ => .isFalse fun e => by cases e

theorem Outcome.eq_ok_of_toOption {α : Type} {x : Outcome α} {a : α} (h : x.toOption = some a) :
    x = .ok a := by
  cases x with
  | error e => cases h
  | ok b => exact congrArg Except.ok (Option.some_inj.1 h)

end Offload
