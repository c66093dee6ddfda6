/-
**A driver library as a driver, and a driver as a driver library.**

The binding turns each call into an entry point and each answer back.  It hands over a handle, a
pointer or a readiness flag whether or not the library stored one, null or false then; the other
values pass through.  The text of the last failure comes through a buffer of fixed size whose last
byte is always made a terminator.

Main definitions:

* `Library.driver` — a library as a driver;
* `Library.readErrorText` — the text behind such a buffer;
* `Library.forwarding` — a driver as a library, one entry point for each call.
-/

import Offload.Library.Entry
import Offload.Text.Utf8

set_option autoImplicit false
set_option relaxedAutoImplicit false

namespace Offload.Library

open Native

/-! ### From calls to entry points -/

/-- The flags passed when a handle is created. -/
def createFlags : UInt32 := 0

/-- Waiting uses the interrupt. -/
def waitUseInterrupt : UInt32 := 1

/-- Waiting has no timeout. -/
def waitInfinite : UInt32 := 0xFFFFFFFF

/-- The entry point behind a call. -/
def Entry.ofCall : Call → Entry
  | .present params => .isDevicePresent params
  | .create endpoint params => .createHandle endpoint createFlags params
  | .close h => .closeHandle h
  | .readShell h index => .readShellRegister h index
  | .writeShell h index value => .writeShellRegister h index value
  | .readSoft h address => .readSoftRegister h address
  | .writeSoft h address value => .writeSoftRegister h address value
  | .shellCount h => .numberShellRegisters h
  | .bufferCount h => .numberBuffers h
  | .bufferSize h => .bufferSize h
  | .inputPointer h slot => .inputBufferPointer h slot
  | .outputPointer h slot => .outputBufferPointer h slot
  | .inputFull h slot => .inputBufferFull h slot
  | .send h slot length => .sendInputBuffer h slot length
  | .wait h slot => .waitOutputBuffer h slot waitUseInterrupt waitInfinite
  | .discard h slot => .discardOutputBuffer h slot

/-- An integer other than zero says that the slot is not ready; nothing stored counts as zero. -/
def fullOf (stored : Option Int32) : Bool := stored.getD 0 ≠ 0

/-- The value handed over for what the entry point stored. -/
def handOver : (c : Call) → Option (Entry.ofCall c).Stored → Option c.Stored
  | .create _ _, stored => some (stored.getD none)
  | .inputPointer _ _, stored | .outputPointer _ _, stored => some (stored.getD none)
  | .inputFull _ _, stored => some (fullOf stored)
  | .present _, stored | .close _, stored | .writeShell _ _ _, stored
  | .writeSoft _ _ _, stored | .send _ _ _, stored | .discard _ _, stored => stored
  | .readShell _ _, stored | .shellCount _, stored | .bufferCount _, stored
  | .bufferSize _, stored | .wait _ _, stored => stored
  | .readSoft _ _, stored => stored

/-- The answer to a call from the answer of the entry point. -/
def replyOf (c : Call) (r : EntryReply (Entry.ofCall c)) : Reply c :=
  ⟨r.status, handOver c r.stored, r.notices⟩

/-! ### The text of the last failure -/

/-- The size of the buffer for the text of the last failure. -/
def errorTextLength : Nat := 1024

/-- A buffer of zeros with `written` at its beginning. -/
def fillBuffer (written : Bytes) : Bytes :=
  (written ++ List.replicate errorTextLength 0).take errorTextLength

/-- The text in the buffer after a request for it; a request that failed has no text. -/
def readErrorText (status : Status) (written : Bytes) : String :=
  if status = .success then
    Text.ofCString (some ((fillBuffer written).set (errorTextLength - 1) 0))
  else ""

/-! ### The binding -/

/-- A library as a driver. -/
def driver {σ : Type} (L : Library σ) : Driver σ where
  call c s := let (r, s) := L.enter (Entry.ofCall c) s; (replyOf c r, s)
  lastError := L.lastError
  lastErrorText s :=
    let ((status, written), s) := L.lastErrorText errorTextLength s
    (readErrorText status written, s)
  store := L.store
  fetch := L.fetch
  blocks c s := L.blocks (Entry.ofCall c) s
  staysBlocked c s := L.staysBlocked (Entry.ofCall c) s
  resume c s := let (r, s) := L.resume (Entry.ofCall c) s; (replyOf c r, s)
  traps c s := L.traps (Entry.ofCall c) s

/-! ### Forwarding libraries -/

/-- The call behind an entry point. -/
def Entry.toCall : Entry → Call
  | .isDevicePresent params => .present params
  | .createHandle endpoint _ params => .create endpoint params
  | .closeHandle h => .close h
  | .readShellRegister h index => .readShell h index
  | .writeShellRegister h index value => .writeShell h index value
  | .readSoftRegister h address => .readSoft h address
  | .writeSoftRegister h address value => .writeSoft h address value
  | .numberShellRegisters h => .shellCount h
  | .numberBuffers h => .bufferCount h
  | .bufferSize h => .bufferSize h
  | .inputBufferPointer h slot => .inputPointer h slot
  | .outputBufferPointer h slot => .outputPointer h slot
  | .inputBufferFull h slot => .inputFull h slot
  | .sendInputBuffer h slot length => .send h slot length
  | .waitOutputBuffer h slot _ _ => .wait h slot
  | .discardOutputBuffer h slot => .discard h slot

/-- The integer that reports whether a slot is not ready. -/
def reportFull (full : Int32) (isFull : Bool) : Int32 := if isFull then full else 0

/-- The value stored by an entry point for what the driver stored; `full` stands for a slot that is
not ready. -/
def forwardStored (full : Int32) : (e : Entry) → Option e.toCall.Stored → Option e.Stored
  | .inputBufferFull _ _, stored => stored.map (reportFull full)
  | .createHandle _ _ _, stored => stored
  | .inputBufferPointer _ _, stored | .outputBufferPointer _ _, stored => stored
  | .isDevicePresent _, stored | .closeHandle _, stored | .writeShellRegister _ _ _, stored
  | .writeSoftRegister _ _ _, stored | .sendInputBuffer _ _ _, stored
  | .discardOutputBuffer _ _, stored => stored
  | .readShellRegister _ _, stored | .numberShellRegisters _, stored | .numberBuffers _, stored
  | .bufferSize _, stored | .waitOutputBuffer _ _ _ _, stored => stored
  | .readSoftRegister _ _, stored => stored

/-- The answer of an entry point from the answer of the driver. -/
def forwardReply (full : Int32) (e : Entry) (r : Reply e.toCall) : EntryReply e :=
  ⟨r.status, forwardStored full e r.stored, r.notices⟩

/-- What a text leaves in a buffer of the given size: as much of it as fits, and a terminator if
there is room. -/
def writeText (size : Nat) (text : String) : Bytes := (Text.encode text ++ [0]).take size

/-- A driver as a library whose entry points forward one to one.  A slot that is not ready is
reported as `full`, and requests for the text of the last failure return `textStatus`. -/
def forwarding {σ : Type} (D : Driver σ) (full : Int32) (textStatus : Status) : Library σ where
  enter e s := let (r, s) := D.call e.toCall s; (forwardReply full e r, s)
  lastError := D.lastError
  lastErrorText size s :=
    let (text, s) := D.lastErrorText s
    ((textStatus, writeText size text), s)
  store := D.store
  fetch := D.fetch
  blocks e s := D.blocks e.toCall s
  staysBlocked e s := D.staysBlocked e.toCall s
  resume e s := let (r, s) := D.resume e.toCall s; (forwardReply full e r, s)
  traps e s := D.traps e.toCall s

@[simp] theorem toCall_ofCall (c : Call) : (Entry.ofCall c).toCall = c := by cases c <;> rfl

end Offload.Library
