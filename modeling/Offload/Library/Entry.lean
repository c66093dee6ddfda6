/-
**The entry points of a driver library.**

A driver library offers the calls of a driver as functions of a C interface.  The interface differs
from the calls in three places: creation and waiting take more arguments, readiness is reported as
an integer, and the text of the last failure is written into a buffer of the caller.

A library is loaded by its path, and every entry point is looked up at once, so that a library that
lacks one is refused before any call.

Main definitions:

* `Library.symbols` — the names of the entry points;
* `Library.Entry`, `Library.EntryReply` — the entry points with their arguments, and their answers;
* `Library` — a loaded library over a state type;
* `Library.recorded` — the library that keeps a record of its calls;
* `Library.Linker` — which libraries there are: the names that each exports, or why there is none;
* `Library.linkerOf` — the linker that knows a list of files;
* `Library.load` — loading.
-/

import Offload.Native.Driver
import Offload.Text.Utf8

set_option autoImplicit false
set_option relaxedAutoImplicit false

namespace Offload

open Native

namespace Library

/-- The names of the entry points, in the order in which they are looked up. -/
def symbols : List String :=
  ["FPGA_IsDevicePresent", "FPGA_CreateHandle", "FPGA_CloseHandle", "FPGA_ReadShellRegister",
    "FPGA_WriteShellRegister", "FPGA_ReadSoftRegister", "FPGA_WriteSoftRegister",
    "FPGA_GetNumberShellRegisters", "FPGA_GetNumberBuffers", "FPGA_GetBufferSize",
    "FPGA_GetInputBufferPointer", "FPGA_GetOutputBufferPointer", "FPGA_GetInputBufferFull",
    "FPGA_SendInputBuffer", "FPGA_WaitOutputBuffer", "FPGA_DiscardOutputBuffer",
    "FPGA_GetLastError", "FPGA_GetLastErrorText"]

/-- A call of an entry point with its arguments. -/
inductive Entry where
  | isDevicePresent (params : OpenParams)
  | createHandle (endpoint flags : UInt32) (params : OpenParams)
  | closeHandle (handle : Option Handle)
  | readShellRegister (handle : Option Handle) (index : UInt32)
  | writeShellRegister (handle : Option Handle) (index value : UInt32)
  | readSoftRegister (handle : Option Handle) (address : UInt64)
  | writeSoftRegister (handle : Option Handle) (address value : UInt64)
  | numberShellRegisters (handle : Option Handle)
  | numberBuffers (handle : Option Handle)
  | bufferSize (handle : Option Handle)
  | inputBufferPointer (handle : Option Handle) (slot : UInt32)
  | outputBufferPointer (handle : Option Handle) (slot : UInt32)
  | inputBufferFull (handle : Option Handle) (slot : UInt32)
  | sendInputBuffer (handle : Option Handle) (slot length : UInt32)
  | waitOutputBuffer (handle : Option Handle) (slot useInterrupt timeout : UInt32)
  | discardOutputBuffer (handle : Option Handle) (slot : UInt32)
  deriving DecidableEq

/-- The type of the value that an entry point stores for its caller. -/
abbrev Entry.Stored : Entry → Type
  | isDevicePresent _ | closeHandle _ | writeShellRegister _ _ _ | writeSoftRegister _ _ _
  | sendInputBuffer _ _ _ | discardOutputBuffer _ _ => Unit
  | createHandle _ _ _ => Option Handle
  | readShellRegister _ _ | numberShellRegisters _ | numberBuffers _ | bufferSize _
  | waitOutputBuffer _ _ _ _ => UInt32
  | readSoftRegister _ _ => UInt64
  | inputBufferPointer _ _ | outputBufferPointer _ _ => Option Region
  | inputBufferFull _ _ => Int32

/-- The answer of an entry point. -/
structure EntryReply (e : Entry) where
  status : Status
  stored : Option e.Stored
  notices : List Notice

end Library

/-- A loaded driver library with states of type `σ`. -/
structure Library (σ : Type) where
  enter : (e : Library.Entry) → σ → Library.EntryReply e × σ
  lastError : σ → UInt32 × σ
  /-- The status of a request for the text of the last failure, and the bytes that it leaves at the
  beginning of a buffer of the given size. -/
  lastErrorText : Nat → σ → (Status × Bytes) × σ
  store : Region → Bytes → σ → σ
  fetch : Region → Nat → σ → Bytes
  blocks : Library.Entry → σ → Bool
  staysBlocked : Library.Entry → σ → Bool
  resume : (e : Library.Entry) → σ → Library.EntryReply e × σ
  traps : Library.Entry → σ → Option σ

namespace Library

/-- The library that keeps a record of the calls that have returned. -/
def recorded {σ : Type} (L : Library σ) : Library (Recorded Entry σ) where
  enter e r :=
    let (reply, s) := L.enter e r.inner
    (reply, r.note e reply.status s)
  lastError r := let (code, s) := L.lastError r.inner; (code, { r with inner := s })
  lastErrorText size r :=
    let (answer, s) := L.lastErrorText size r.inner
    (answer, { r with inner := s })
  store region data r := { r with inner := L.store region data r.inner }
  fetch region length r := L.fetch region length r.inner
  blocks e r := L.blocks e r.inner
  staysBlocked e r := L.staysBlocked e r.inner
  resume e r := let (reply, s) := L.resume e r.inner; (reply, r.note e reply.status s)
  traps e r := (L.traps e r.inner).map fun s => { r with inner := s }

/-! ### Loading -/

/-- The names exported by the library at a path, or the reason why there is no library. -/
abbrev Linker : Type := String → Except String (List String)

/-- The linker that knows the given files.  The empty path names the running program, which exports
no entry point. -/
def linkerOf (files : List (String × List String)) : Linker := fun path =>
  if path = "" then .ok []
  else
    match files.lookup path with
    | some exported => .ok exported
    | none => .error s!"{path}: cannot open shared object file: No such file or directory"

/-- The first entry point that is not among the exported names. -/
def missing? (exported : List String) : Option String :=
  symbols.find? fun name => !exported.contains name

/-- Load the library at a path. -/
def load (linker : Linker) (path : String) : Action Unit := do
  if Text.hasNul path then throw (.library s!"path contains NUL: {path}")
  match linker path with
  | .error reason => throw (.library s!"dlopen {path}: {reason}")
  | .ok exported =>
      match missing? exported with
      | some name => throw (.library s!"missing symbol {name}")
      | none => logLine .debug s!"accel: loaded driver library {path}"

end Library

end Offload
