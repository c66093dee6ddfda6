/-
**Routing of log lines.**

The state of logging is one value: the threshold, the flush switch and the installed sink.  The
threshold and the switch are first read from the environment when something asks for them, once;
setting either of them asks first, so the environment never overrides an earlier setting.  A line
that passes the threshold goes to the installed sink, or else to the error stream.

Main definitions:

* `Log.Router` — the state of logging;
* `Log.Router.start` — reading the environment, once;
* `Log.Router.emit`, `Log.Router.line`, `Log.Router.native` — a message with a mask, a line of the
  library, and a message of the native driver;
* `Log.Router.install`, `Log.Router.remove` — the installed sink;
* `Log.Request` — the operations on logging that the library itself performs.
-/

import Offload.Log.Level
import Offload.Text.Utf8
import Offload.Text.Basic

set_option autoImplicit false
set_option relaxedAutoImplicit false

namespace Offload.Log

/-- The two variables that logging reads; one that is absent or not text is `none`. -/
structure Environment where
  level : Option String
  flush : Option String
  deriving DecidableEq, Inhabited

/-- A receiver of log lines.  Two sinks are the same exactly if their names are. -/
structure Sink where
  name : String
  deriving DecidableEq, Inhabited

/-- A line that has reached its receiver. -/
inductive Delivery where
  /-- A sink received the mask and the text. -/
  | toSink (sink : Sink) (flags : Flags) (text : String)
  /-- The error stream received these characters. -/
  | toErrorStream (written : String)
  deriving DecidableEq, Inhabited

/-- The state of logging, with the deliveries made so far. -/
structure Router where
  environment : Environment
  /-- The environment has been read. -/
  started : Bool
  threshold : Level
  flush : Bool
  sink : Option Sink
  delivered : List Delivery
  deriving DecidableEq, Inhabited

namespace Router

/-- Logging before anything has asked for the environment. -/
def fresh (environment : Environment) : Router :=
  { environment, started := false, threshold := .info, flush := false, sink := none,
    delivered := [] }

/-- Logging that has started with an empty environment. -/
def default : Router := { fresh ⟨none, none⟩ with started := true }

/-! ### The environment -/

/-- The texts that switch flushing on. -/
def flushWords : List String := ["1", "true", "yes", "on"]

/-- Read the environment, unless it has been read already.  A level that cannot be read counts as
`info`; a variable that is absent leaves its setting alone. -/
def start (r : Router) : Router :=
  if r.started then r
  else
    { r with
      started := true
      flush := match r.environment.flush with
        | some text => flushWords.contains text
        | none => r.flush
      threshold := match r.environment.level with
        | some text => (Level.parse? text).getD .info
        | none => r.threshold }

/-- Set the threshold. -/
def setThreshold (l : Level) (r : Router) : Router := { r.start with threshold := l }

/-- Set the flush switch. -/
def setFlush (on : Bool) (r : Router) : Router := { r.start with flush := on }

/-! ### Sinks -/

/-- Install a sink, or take the installed one away. -/
def install (sink : Option Sink) (r : Router) : Router := { r with sink }

/-- The given sink is the installed one. -/
def isInstalled (sink : Sink) (r : Router) : Bool := r.sink = some sink

/-- Take the given sink away if it is the installed one; a sink installed later stays. -/
def remove (sink : Sink) (r : Router) : Router :=
  if r.isInstalled sink then { r with sink := none } else r

/-! ### Lines -/

/-- Whether lines of a level pass.  Nothing passes at `off`, and asking for it does not read the
environment. -/
def admits (l : Level) (r : Router) : Bool × Router :=
  if l = .off then (false, r)
  else
    let r := r.start
    (l.rank ≤ r.threshold.rank, r)

/-- The characters of a line on the error stream. -/
def written (flags : Flags) (text : String) : String := s!"{flags.level.tag} {text}\n"

/-- Hand a message to its receiver. -/
def deliver (flags : Flags) (text : String) (r : Router) : Router :=
  let delivery := match r.sink with
    | some sink => .toSink sink flags text
    | none => .toErrorStream (written flags text)
  { r with delivered := r.delivered ++ [delivery] }

/-- Deliver a message if the level of its mask passes. -/
def emit (flags : Flags) (text : String) (r : Router) : Router :=
  match r.admits flags.level with
  | (true, r) => r.deliver flags text
  | (false, r) => r

/-- Deliver a line of the library if its level passes. -/
def line (l : Level) (text : String) (r : Router) : Router :=
  match r.admits l with
  | (true, r) => r.emit l.flags text
  | (false, r) => r

/-- A message of the native driver: its text is read as a C string and loses the blanks at its
end. -/
def native (flags : Flags) (message : Option Bytes) (r : Router) : Router :=
  r.emit flags (Text.trimEnd (Text.ofCString message))

end Router

/-! ### Requests -/

/-- An operation on logging that the library performs. -/
inductive Request where
  | start
  | line (level : Level) (text : String)
  | install (sink : Sink)
  | remove (sink : Sink)
  deriving DecidableEq

/-- Perform a request. -/
def Router.perform : Request → Router → Router
  | .start => Router.start
  | .line level text => Router.line level text
  | .install sink => Router.install (some sink)
  | .remove sink => Router.remove sink

@[simp] theorem Router.started_start (r : Router) : r.start.started = true := by
  unfold Router.start
  split
  · assumption
  · rfl

@[simp] theorem Router.start_start (r : Router) : r.start.start = r.start := by
  rw [Router.start, if_pos r.started_start]

end Offload.Log
