/-
**Scripts on a region.**

Main definitions:

* `Script.BufferOp`, `Script.BufferOp.perform` — the operations on a region and their answers;
* `Script.runBuffer` — a whole script.
-/

import Offload.Buffer
import Offload.Script.Answer

set_option autoImplicit false
set_option relaxedAutoImplicit false

namespace Offload.Script

/-- The operations on a region. -/
inductive BufferOp where
  | copyIn (data : Bytes)
  | copyOut (length : Nat)
  | capacity
  | text

/-- Perform an operation on a region; one that is refused leaves the region alone. -/
def BufferOp.perform (op : BufferOp) (region : Bytes) : Answer × Bytes :=
  match op with
  | .copyIn data =>
      match Buffer.copyIn data region with
      | .ok region => (.result (.ok .unit), region)
      | .error e => (.result (.error e), region)
  | .copyOut length => (.ofOutcome .bytes (Buffer.copyOut length region), region)
  | .capacity => (.number region.length, region)
  | .text => (.text (Buffer.text region.length), region)

/-- The answers of a script, and the region at its end. -/
def runBuffer : List BufferOp → Bytes → List Answer × Bytes
  | [], region => ([], region)
  | op :: ops, region =>
      let (answer, region) := op.perform region
      let (answers, region) := runBuffer ops region
      (answer :: answers, region)

end Offload.Script
