/-
**Scripts on logging.**

Main definitions:

* `Script.LogOp`, `Script.LogOp.perform` — the operations on logging and their answers;
* `Script.runLog` — a whole script.
-/

import Offload.Log.Router
import Offload.Script.Answer

set_option autoImplicit false
set_option relaxedAutoImplicit false

namespace Offload.Script

open Log

/-- The operations on logging. -/
inductive LogOp where
  | setThreshold (l : Level)
  | install (sink : Sink)
  | uninstall
  | remove (sink : Sink)
  | line (l : Level) (text : String)
  | start
  /-- The threshold and the flush switch. -/
  | settings
  | flush
  | setFlush (on : Bool)
  | admits (l : Level)
  | emit (flags : Flags) (text : String)
  | native (flags : Flags) (message : Option Bytes)

/-- The answer to an operation on logging. -/
inductive LogAnswer where
  | nothing
  | flag (b : Bool)
  | settings (threshold : Level) (flush : Bool)

/-- Perform an operation on logging. -/
def LogOp.perform (op : LogOp) (r : Router) : LogAnswer × Router :=
  match op with
  | .setThreshold l => (.nothing, r.setThreshold l)
  | .install sink => (.nothing, r.install (some sink))
  | .uninstall => (.nothing, r.install none)
  | .remove sink => (.flag (r.isInstalled sink), r.remove sink)
  | .line l text => (.nothing, r.line l text)
  | .start => (.nothing, r.start)
  | .settings => (.settings r.start.threshold r.start.flush, r.start)
  | .flush => (.flag r.start.flush, r.start)
  | .setFlush on => (.nothing, r.setFlush on)
  | .admits l => let (answer, r) := r.admits l; (.flag answer, r)
  | .emit flags text => (.nothing, r.emit flags text)
  | .native flags message => (.nothing, r.native flags message)

/-- The deliveries made so far, and logging without them. -/
def drain (r : Router) : List Delivery × Router := (r.delivered, { r with delivered := [] })

/-- The answers of a script, each with the lines delivered meanwhile. -/
def runLog : List LogOp → Router → List (LogAnswer × List Delivery)
  | [], _ => []
  | op :: ops, r =>
      let (answer, r) := op.perform r
      let (deliveries, r) := drain r
      (answer, deliveries) :: runLog ops r

/-- The answer of an operation on logging in a script of another kind. -/
def LogAnswer.toAnswer : LogAnswer → Answer
  | .nothing | .settings _ _ => .nothing
  | .flag b => .flag b

end Offload.Script
