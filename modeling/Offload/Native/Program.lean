/-
**Programs of native calls.**

Everything that the library does with a device is a program: a finite tree whose nodes are single
operations and whose branches are the answers to them.  One program serves every driver, and can be
run at once or one operation at a time between the operations of other programs.

Main definitions:

* `Native.Op` — a native call, a query about the last failure, an access to shared memory, or an
  operation on logging;
* `Native.Program` — trees of operations, a lawful monad;
* `Native.Action` — programs that may end with an error;
* `Native.check` — the one place where a status is judged.
-/

import Offload.Native.Call
import Offload.Log.Router

set_option autoImplicit false
set_option relaxedAutoImplicit false

namespace Offload.Native

/-- A single operation of a program. -/
inductive Op where
  | call (c : Call)
  /-- The code of the most recent failure. -/
  | lastError
  /-- The driver's text about the most recent failure. -/
  | lastErrorText
  /-- Store bytes at the beginning of a region. -/
  | store (region : Region) (data : Bytes)
  /-- Read bytes from the beginning of a region. -/
  | fetch (region : Region) (length : Nat)
  | log (request : Log.Request)
  deriving DecidableEq

/-- The type of the answer to an operation. -/
abbrev Op.Answer : Op → Type
  | .call c => Reply c
  | .lastError => UInt32
  | .lastErrorText => String
  | .store _ _ => Unit
  | .fetch _ _ => Bytes
  | .log _ => Unit

/-- A finite tree of operations with results of type `α` at its leaves. -/
inductive Program (α : Type) : Type where
  | done (a : α)
  | step (o : Op) (next : o.Answer → Program α)

namespace Program

variable {α β γ : Type}

/-- Go on with the result of a program. -/
def bind : Program α → (α → Program β) → Program β
  | .done a, f => f a
  | .step o next, f => .step o fun x => (next x).bind f

instance : Monad Program where
  pure := .done
  bind := bind

@[simp] theorem pure_eq_done (a : α) : (pure a : Program α) = .done a := rfl

@[simp] theorem done_bind (a : α) (f : α → Program β) : (Program.done a >>= f) = f a := rfl

@[simp] theorem step_bind (o : Op) (next : o.Answer → Program α) (f : α → Program β) :
    (Program.step o next >>= f) = .step o fun x => next x >>= f := rfl

theorem bind_done (p : Program α) : (p >>= fun a => .done a) = p := by
  induction p with
  | done a => rfl
  | step o next ih => simp [ih]

theorem bind_bind (p : Program α) (f : α → Program β) (g : β → Program γ) :
    (p >>= f >>= g) = p >>= fun a => f a >>= g := by
  induction p with
  | done a => rfl
  | step o next ih => simp [ih]

instance : LawfulMonad Program :=
  LawfulMonad.mk' Program bind_done (fun _ _ => rfl) bind_bind

end Program

/-- A program that may end with an error. -/
abbrev Action (α : Type) : Type := ExceptT Error Program α

/-- Perform an action and hand over what it comes to, instead of raising its error. -/
def outcome {α : Type} (a : Action α) : Action (Outcome α) := ExceptT.lift a.run

/-! ### Single operations as programs -/

/-- Perform one operation. -/
def perform (o : Op) : Program o.Answer := .step o .done

/-- Make a native call. -/
def call (c : Call) : Program (Reply c) := perform (.call c)

/-- Ask for the code of the most recent failure. -/
def lastError : Program UInt32 := perform .lastError

/-- Ask for the text of the most recent failure. -/
def lastErrorText : Program String := perform .lastErrorText

/-- Store bytes in shared memory. -/
def store (region : Region) (data : Bytes) : Program Unit := perform (.store region data)

/-- Read bytes from shared memory. -/
def fetch (region : Region) (length : Nat) : Program Bytes := perform (.fetch region length)

/-- Write a log line. -/
def logLine (level : Log.Level) (text : String) : Program Unit :=
  perform (.log (.line level text))

/-! ### The verifier -/

/-- Judge a status: a benign one passes; for any other the driver's account of the failure is
fetched, logged and raised. -/
def check (s : Status) : Action Unit :=
  if s.isBenign then pure ()
  else do
    let code ← lastError
    let text ← lastErrorText
    logLine .debug ("accel: native call failed: " ++ Error.deviceDetail s code text)
    throw (.deviceOperation s code text)

/-- Make a native call and judge its status; the value is the stored one, or `prepared` when the
call stored nothing. -/
def request (c : Call) (prepared : c.Stored) : Action c.Stored := do
  let reply ← call c
  check reply.status
  return reply.stored.getD prepared

@[simp] theorem check_of_isBenign {s : Status} (h : s.isBenign = true) : check s = pure () :=
  if_pos h

end Offload.Native
