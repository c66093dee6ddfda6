/-
**The exchange of one job with a slot.**

A job asks whether the slot is ready until it is, stores its padded message in the input region,
sends it, waits, copies the answer and gives the output region back.  The asking has no bound of
its own, so an exchange is a program that is begun anew as long as it ends without a result.

A worker of a device runs the exchange of its job one operation at a time.  A round that ends
without a result is followed by a new one; a call that blocks is entered once and answered when it
returns.

Main definitions:

* `Exchange.transfer` — all that follows once the slot is ready;
* `Exchange.round` — one round: a question, and the transfer if the slot is ready;
* `Exchange.deviceRound` — one round on a device, which may be closed;
* `Exchange.Run` — an exchange in progress;
* `Exchange.Site` — what all exchanges share: the driver, the state of logging and the device;
* `Exchange.executor` — exchanges as the jobs of a pool.
-/

import Offload.Device.Lifecycle
import Offload.Native.Driver
import Offload.Padding
import Offload.Pool.Basic

set_option autoImplicit false
set_option relaxedAutoImplicit false

namespace Offload

open Native

namespace Exchange

/-- The length of a message as the driver takes it. -/
def messageLength (message : Bytes) : Outcome UInt32 :=
  if message.length < UInt32.size then .ok (UInt32.ofNat message.length)
  else .error (.bufferBounds message.length (UInt32.size - 1))

/-- Send the padded input and bring the answer back.  The output region is given back even when
the copy out of it was refused, and the refusal is the error that stands. -/
def transfer (s : Session) (slot : UInt32) (input : Bytes) : Action Bytes := do
  let message := Padding.pad input
  let length ← messageLength message
  let inputView ← s.inputView slot
  let outputView ← s.outputView slot
  inputView.copyIn message
  s.send slot length
  logLine .debug
    s!"accel: slot {slot.toNat} sent {input.length} bytes ({length.toNat} padded)"
  let received ← s.waitOutput slot
  let response ← outcome (outputView.copyOut received.toNat)
  let discarded ← outcome (s.discard slot)
  let response ← response
  discarded
  logLine .debug s!"accel: slot {slot.toNat} received {response.length} bytes"
  return response

/-- One round: `none` when the slot was not ready and has to be asked again. -/
def round (s : Session) (slot : UInt32) (input : Bytes) : Program (Option (Outcome Bytes)) := do
  match ← (s.inputFull slot).run with
  | .ok true => return none
  | .ok false => return some (← (transfer s slot input).run)
  | .error e => return some (.error e)

/-- One round on a device; on a closed one it is over at once. -/
def deviceRound (d : Device) (slot : UInt32) (input : Bytes) :
    Program (Option (Outcome Bytes)) :=
  match d.session with
  | some session => round session slot input
  | none => return some (.error .closed)

/-! ### Exchanges as the jobs of a pool -/

/-- An exchange in progress. -/
structure Run where
  input : Bytes
  /-- What is left of the current round. -/
  rest : Program (Option (Outcome Bytes))
  /-- The next operation is a call that has been made and has blocked. -/
  entered : Bool

/-- What all exchanges share. -/
structure Site (σ : Type) where
  world : World σ
  device : Device

variable {σ : Type}

/-- Begin an exchange. -/
def begin (slot : Nat) (input : Bytes) (site : Site σ) : Run × Site σ :=
  (⟨input, deviceRound site.device (UInt32.ofNat slot) input, false⟩, site)

/-- Go on with the answer to an operation. -/
def goOn (run : Run) {o : Op} (next : o.Answer → Program (Option (Outcome Bytes)))
    (site : Site σ) (answered : o.Answer × World σ) : Pool.Progress Run (Site σ) :=
  .continues { run with rest := next answered.1, entered := false }
    { site with world := answered.2 }

/-- The next step of an exchange. -/
def step (D : Driver σ) (slot : Nat) (run : Run) (site : Site σ) : Pool.Progress Run (Site σ) :=
  match run.rest with
  | .done (some outcome) => .returned outcome site
  | .done none =>
      .continues { run with rest := deviceRound site.device (UInt32.ofNat slot) run.input } site
  | .step o next =>
      if run.entered then
        if D.isStillBlocked o site.world then .blocked
        else goOn run next site (D.resumed o site.world)
      else
        match D.trapped? o site.world with
        | some world => .died { site with world }
        | none =>
            if D.isBlocked o site.world then .continues { run with entered := true } site
            else goOn run next site (D.answer o site.world)

/-- A bound on the number of steps of an exchange, when the slots say at most `rounds` times that
they are not ready: a round is one call with at most three more operations for its failure, and the
transfer is seven operations of which five are such calls. -/
def effort (rounds : Nat) : Nat := 6 * (rounds + 1) + 32

/-- Exchanges as the jobs of a pool.  `patience` bounds how often slots say that they are not
ready. -/
def executor (D : Driver σ) (patience : σ → Nat) : Pool.Executor Run (Site σ) where
  begin := begin
  step := step D
  note level text site :=
    { site with world := { site.world with router := site.world.router.line level text } }
  effort site := effort (patience site.world.driver)
end Exchange

end Offload
