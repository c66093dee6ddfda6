/-
**Scripts: what they answer.**

A script is a list of operations on a pool or on a device with its dispatcher.  Each operation is
followed by letting everything run until it is quiet, and is answered by a value.

Main definitions:

* `Script.Refusal` — why an operation was not performed;
* `Script.Value`, `Script.Answer` — the answers;
* `Script.Step` — what a step of a script brought.
-/

import Offload.Device.Lifecycle
import Offload.Pool.Basic
import Offload.Simulator.State

set_option autoImplicit false
set_option relaxedAutoImplicit false

namespace Offload.Script

/-! ### Answers -/

/-- Why an operation was not performed, or not to its end. -/
inductive Refusal where
  /-- It would have had to wait for something that only a later operation can bring. -/
  | wouldBlock
  /-- The handle of the job has been given away. -/
  | gone
  | noSuchJob
  /-- Nobody waits for the job in the background. -/
  | noBackground
  | noDevice
  | noDispatcher
  | alreadyOpen
  /-- It reached beyond the slots or the registers of the device. -/
  | trapped
  deriving DecidableEq

/-- The value of an operation that succeeded. -/
inductive Value where
  | unit
  | flag (b : Bool)
  | word (n : UInt32)
  | long (n : UInt64)
  | count (n : Nat)
  | bytes (bs : Bytes)
  | view (capacity : Nat)
  deriving DecidableEq

/-- What a call stored in the place that its caller had prepared. -/
inductive Stored where
  | nothing
  | word (n : UInt32)
  | long (n : UInt64)
  | flag (b : Bool)
  /-- A pointer or a handle, of which only its presence is shown. -/
  | pointer (isPresent : Bool)
  deriving DecidableEq

/-- The answer to an operation. -/
inductive Answer where
  | nothing
  | flag (b : Bool)
  | number (n : Nat)
  | slot (slot : Option Nat)
  | text (s : String)
  | pending
  | result (r : Outcome Value)
  | refusal (why : Refusal)
  | wakes (counts : List (Waker × Nat))
  | submitted (job : Nat) (slot : Option Nat)
  | rejected (job : Nat) (e : Error)
  | stats (s : Pool.Stats)
  | messages (ms : List Bytes)
  | inputs (perSlot : List (List Bytes))
  | device (s : Simulator)
  | native (status : Status) (stored : Stored)
  | lastError (code : UInt32) (text : String)
  | capabilities (endpoint : UInt32) (c : Capabilities)
  | dispatcherCapabilities (c : Capabilities)
  | echoes (echoed failed : Nat)

/-- The answer of an operation that has an outcome. -/
def Answer.ofOutcome {α : Type} (value : α → Value) (r : Outcome α) : Answer :=
  .result (r.map value)

/-! ### Steps -/

/-- What a step of a script brought: the answer, the jobs that came to an end, and the log lines
that were delivered. -/
structure Step (ε : Type) where
  answer : Answer
  done : List Nat
  deliveries : List Log.Delivery
  /-- The native calls that returned. -/
  calls : List (ε × Status)

end Offload.Script
