/-
**The calls of the native driver.**

A driver is reached through sixteen calls that report a status, and two queries about the most
recent failure.  A call may store a value for its caller; one that fails early may store nothing,
and the caller then goes on with the value it had prepared.

Main definitions:

* `Native.Handle`, `Native.Region` — what a driver hands out: the token of an open device, and the
  name of a piece of shared memory;
* `Native.Call`, `Native.Call.Stored` — the calls, and the type of the value that each stores;
* `Native.Reply` — a status, the stored value, and the messages logged meanwhile.
-/

import Offload.Error
import Offload.Log.Level

set_option autoImplicit false
set_option relaxedAutoImplicit false

namespace Offload.Native

/-- The token of an open device.  A null handle is the missing one, `none : Option Handle`. -/
structure Handle where
  token : Nat
  deriving DecidableEq, Inhabited

/-- The direction in which a region carries data. -/
inductive Side where
  | input
  | output
  deriving DecidableEq, Inhabited

/-- The name of a region shared with the device.  A null pointer is the missing one,
`none : Option Region`. -/
structure Region where
  side : Side
  slot : UInt32
  deriving DecidableEq, Inhabited

/-- What a device is told when it is opened: two optional file paths, and whether it may log. -/
structure OpenParams where
  definitions : Option String
  manifest : Option String
  logs : Bool
  deriving DecidableEq, Inhabited

/-- A call of the driver with its arguments. -/
inductive Call where
  | present (params : OpenParams)
  | create (endpoint : UInt32) (params : OpenParams)
  | close (handle : Option Handle)
  | readShell (handle : Option Handle) (index : UInt32)
  | writeShell (handle : Option Handle) (index value : UInt32)
  | readSoft (handle : Option Handle) (address : UInt64)
  | writeSoft (handle : Option Handle) (address value : UInt64)
  | shellCount (handle : Option Handle)
  | bufferCount (handle : Option Handle)
  | bufferSize (handle : Option Handle)
  | inputPointer (handle : Option Handle) (slot : UInt32)
  | outputPointer (handle : Option Handle) (slot : UInt32)
  | inputFull (handle : Option Handle) (slot : UInt32)
  | send (handle : Option Handle) (slot length : UInt32)
  | wait (handle : Option Handle) (slot : UInt32)
  | discard (handle : Option Handle) (slot : UInt32)
  deriving DecidableEq

namespace Call

/-- The type of the value that a call stores for its caller. -/
abbrev Stored : Call → Type
  | present _ | close _ | writeShell _ _ _ | writeSoft _ _ _ | send _ _ _ | discard _ _ => Unit
  | create _ _ => Option Handle
  | readShell _ _ | shellCount _ | bufferCount _ | bufferSize _ | wait _ _ => UInt32
  | readSoft _ _ => UInt64
  | inputPointer _ _ | outputPointer _ _ => Option Region
  | inputFull _ _ => Bool

/-- The handle that a call passes; the two calls before there is one pass none. -/
def handle? : Call → Option (Option Handle)
  | present _ | create _ _ => none
  | close h | readShell h _ | writeShell h _ _ | readSoft h _ | writeSoft h _ _ | shellCount h
  | bufferCount h | bufferSize h | inputPointer h _ | outputPointer h _ | inputFull h _
  | send h _ _ | wait h _ | discard h _ => some h

/-- The slot that a call is about, if it is about one. -/
def slot? : Call → Option UInt32
  | inputPointer _ s | outputPointer _ s | inputFull _ s | send _ s _ | wait _ s
  | discard _ s => some s
  | _ => none

end Call

/-- A message that a driver logs through the callback it was given. -/
structure Notice where
  flags : Log.Flags
  message : Option Bytes
  deriving DecidableEq

/-- The answer to a call.  `stored` is missing when the call stored nothing. -/
structure Reply (c : Call) where
  status : Status
  stored : Option c.Stored
  notices : List Notice

namespace Reply

/-- An answer that stores nothing. -/
def plain {c : Call} (status : Status) : Reply c := ⟨status, none, []⟩

/-- A success that stores a value. -/
def value {c : Call} (v : c.Stored) : Reply c := ⟨.success, some v, []⟩

@[simp] theorem status_plain {c : Call} (s : Status) : (plain s : Reply c).status = s := rfl

@[simp] theorem stored_plain {c : Call} (s : Status) : (plain s : Reply c).stored = none := rfl

@[simp] theorem status_value {c : Call} (v : c.Stored) :
    (value v : Reply c).status = .success := rfl

@[simp] theorem stored_value {c : Call} (v : c.Stored) : (value v : Reply c).stored = some v := rfl

end Reply

end Offload.Native
