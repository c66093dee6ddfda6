/-
**The simulated device: its answers.**

Every call first meets the injected faults, then the checks of its handle and slot, then its own.
A fault with the code of success is used up like any other and lets the call go on without the two
checks.  Waiting is checked before it blocks, and meets the faults when it returns.

Main definitions:

* `Simulator.validate`, `Simulator.enter` — the checks at the beginning of a call;
* `Simulator.call` — the answer to a call;
* `Simulator.blocks`, `Simulator.staysBlocked`, `Simulator.resume` — waiting on a held slot;
* `Simulator.traps` — the calls that never return;
* `Simulator.driver` — the device as a driver, over the function that it computes.
-/

import Offload.Simulator.State
import Offload.Native.Driver

set_option autoImplicit false
set_option relaxedAutoImplicit false

namespace Offload.Simulator

open Native

/-- The only handle that the device ever hands out. -/
def token : Handle := ⟨1⟩

/-- Note a failure. -/
def fail (s : Simulator) (status : Status) (text : String) : Status × Simulator :=
  (status, { s with lastError := status.code, lastErrorText := text })

/-- The checks of a handle and of a slot; `none` is not checked. -/
def validate (s : Simulator) (handle : Option (Option Handle)) (slot : Option UInt32) :
    Status × Simulator :=
  if handle.any fun h => !s.isOpen || h ≠ some token then
    s.fail .invalidHandle "invalid handle"
  else
    match slot with
    | none => (.success, s)
    | some slot =>
        if slot < s.setup.bufferCount then (.success, s)
        else s.fail .bufferIndexOutOfRange s!"buffer {slot.toNat} out of range"

/-- The beginning of a call: the first matching fault decides, else the checks do. -/
def enter (s : Simulator) (operation : Operation) (handle : Option (Option Handle))
    (slot : Option UInt32) : Status × Simulator :=
  match takeFault operation slot s.faults with
  | some (status, faults) =>
      { s with faults }.fail status s!"injected {operation.name} fault"
  | none => s.validate handle slot

/-- Go on after the beginning of a call, or return the status that it ended with. -/
def proceed {c : Call} (entered : Status × Simulator) (go : Simulator → Reply c × Simulator) :
    Reply c × Simulator :=
  if entered.1 = .success then go entered.2 else (.plain entered.1, entered.2)

/-- Refuse a call. -/
def refuse {c : Call} (s : Simulator) (status : Status) (text : String) : Reply c × Simulator :=
  let r := s.fail status text
  (.plain r.1, r.2)

/-! ### The calls -/

/-- The slot after a message has been taken. -/
def Slot.take (slot : Slot) (message output : Bytes) : Slot :=
  { slot with
    output := Buffer.overwrite (output.take slot.output.length) slot.output
    inFlight := true
    sent := slot.sent ++ [message]
    pending := some (UInt32.ofNat output.length) }

/-- Take the first `length` bytes of the slot's input region as a message and compute the answer.
An answer longer than the output region is cut, and its full length reported. -/
def takeMessage (compute : UInt32 → Bytes → Bytes) (slot length : UInt32) (s : Simulator) :
    Simulator :=
  match s.slot? slot with
  | none => s
  | some t =>
      let message := t.input.take length.toNat
      { s.modifySlot slot (·.take message (compute slot message)) with
        overlaps := s.overlaps + if t.inFlight then 1 else 0 }

/-- The message that the device logs when it hands out its handle. -/
def createNotice (endpoint : UInt32) : Notice :=
  ⟨.verbose, some (Text.encode s!"mock: handle created on endpoint {endpoint.toNat}")⟩

/-- The end of a wait: the faults decide, then the pending length is handed over.  A wait that fails
here takes the message out of flight. -/
def endWait (h : Option Handle) (slot : UInt32) (s : Simulator) :
    Reply (.wait h slot) × Simulator :=
  let entered := s.enter .wait none (some slot)
  if entered.1 = .success then
    (.value (((entered.2.slot? slot).bind (·.pending)).getD 0),
      entered.2.modifySlot slot fun t => { t with pending := none })
  else (.plain entered.1, entered.2.modifySlot slot fun t => { t with inFlight := false })

/-- The answer to a call. -/
def call (compute : UInt32 → Bytes → Bytes) : (c : Call) → Simulator → Reply c × Simulator
  | .present _, s =>
      proceed (s.enter .present none none) fun s =>
        if s.setup.present then (.plain .success, s) else s.refuse .deviceNotFound "no device"
  | .create endpoint params, s =>
      proceed (s.enter .createHandle none none) fun s =>
        ({ status := .success, stored := some (some token),
           notices := if params.logs then [createNotice endpoint] else [] },
          { s with isOpen := true })
  | .close h, s =>
      proceed (s.enter .closeHandle (some h) none) fun s =>
        (.plain .success, { s with isOpen := false, closeCalls := s.closeCalls + 1 })
  | .readShell h index, s =>
      proceed (s.enter .readShell (some h) none) fun s =>
        match s.shell[index.toNat]? with
        | some value => (.value value, s)
        | none => s.refuse .registerOutOfRange "no such register"
  | .writeShell h index value, s =>
      proceed (s.enter .writeShell (some h) none) fun s =>
        if index.toNat < s.shell.length then
          (.plain .success, { s with shell := s.shell.set index.toNat value })
        else s.refuse .registerOutOfRange "no such register"
  | .readSoft h address, s =>
      proceed (s.enter .readSoft (some h) none) fun s => (.value (s.soft address), s)
  | .writeSoft h address value, s =>
      proceed (s.enter .writeSoft (some h) none) fun s =>
        (.plain .success, { s with soft := fun a => if a = address then value else s.soft a })
  | .shellCount h, s =>
      proceed (s.enter .queryCapabilities (some h) none) fun s => (.value s.setup.shellRegisters, s)
  | .bufferCount h, s =>
      proceed (s.enter .queryCapabilities (some h) none) fun s => (.value s.setup.bufferCount, s)
  | .bufferSize h, s =>
      proceed (s.enter .queryCapabilities (some h) none) fun s => (.value s.setup.bufferSize, s)
  | .inputPointer h slot, s =>
      proceed (s.enter .bufferPointer (some h) (some slot)) fun s =>
        (.value (some ⟨.input, slot⟩), s)
  | .outputPointer h slot, s =>
      proceed (s.enter .bufferPointer (some h) (some slot)) fun s =>
        (.value (some ⟨.output, slot⟩), s)
  | .inputFull h slot, s =>
      proceed (s.enter .inputFull (some h) (some slot)) fun s =>
        (.value (((s.slot? slot).map fun t => decide (0 < t.busyPolls)).getD false),
          s.modifySlot slot fun t =>
            { t with
              polls := t.polls + 1
              busyPolls := if t.busyPolls = 0 then 0 else t.busyPolls - 1 })
  | .send h slot length, s =>
      proceed (s.enter .send (some h) (some slot)) fun s =>
        if s.setup.bufferSize < length then
          s.refuse .invalidArgument "send length too large"
        else (.plain .success, s.takeMessage compute slot length)
  | .wait h slot, s =>
      proceed (s.validate (some h) (some slot)) (endWait h slot)
  | .discard h slot, s =>
      proceed (s.enter .discard (some h) (some slot)) fun s =>
        (.plain .success,
          s.modifySlot slot fun t => { t with inFlight := false, discards := t.discards + 1 })

/-- Waiting on a held slot does not return at once, provided that the handle and the slot are
accepted. -/
def blocks : Call → Simulator → Bool
  | .wait h slot, s => (s.validate (some h) (some slot)).1 = .success && s.isHeld slot
  | _, _ => false

/-- A wait that has blocked goes on as long as the slot is held. -/
def staysBlocked : Call → Simulator → Bool
  | .wait _ slot, s => s.isHeld slot
  | _, _ => false

/-- A wait that has blocked ends without a second check of its handle and slot. -/
def resume (compute : UInt32 → Bytes → Bytes) : (c : Call) → Simulator → Reply c × Simulator
  | .wait h slot, s => s.endWait h slot
  | c, s => call compute c s

/-- What is left behind by a call that has got through to a slot that does not exist, as only a
fault with the code of success makes possible. -/
def trapAt (slot : UInt32) (entered : Status × Simulator) : Option Simulator :=
  if entered.1 = .success ∧ entered.2.slot? slot = none then some entered.2 else none

/-- The calls that never return. -/
def traps : Call → Simulator → Option Simulator
  | .inputPointer h slot, s | .outputPointer h slot, s =>
      trapAt slot (s.enter .bufferPointer (some h) (some slot))
  | .inputFull h slot, s => trapAt slot (s.enter .inputFull (some h) (some slot))
  | .send h slot length, s =>
      if length ≤ s.setup.bufferSize then trapAt slot (s.enter .send (some h) (some slot)) else none
  | .discard h slot, s => trapAt slot (s.enter .discard (some h) (some slot))
  | _, _ => none

/-- The simulated device as a driver; `compute` is what it does with a message of a slot. -/
def driver (compute : UInt32 → Bytes → Bytes) : Driver Simulator where
  call := call compute
  lastError s := (s.lastError, s)
  lastErrorText s := (s.lastErrorText, s)
  store := store
  fetch := fetch
  blocks := blocks
  staysBlocked := staysBlocked
  resume := resume compute
  traps := traps

end Offload.Simulator
