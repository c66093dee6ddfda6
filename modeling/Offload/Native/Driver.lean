/-
**Drivers, and running programs on them.**

A driver is a state machine of any kind: it answers every call from its state, may store any value,
and owns the memory that it shares.  A call may block: it has been made, but returns only after
something else has changed, and a driver may then answer it otherwise than a call that returns at
once.  A call may also trap and never return.

Main definitions:

* `Native.Driver` — a driver over a state type;
* `Native.World` — the state of a driver together with the state of logging;
* `Native.Driver.answer`, `Native.Driver.resumed` — the answer to one operation, and to one that
  had blocked;
* `Native.Driver.run` — a program run to its end;
* `Native.Driver.attempt` — the same, given up at the first call that traps;
* `Native.Driver.attemptRounds` — rounds of a program until one has a result;
* `Native.Driver.recorded` — the driver that keeps a record of its calls.

Main results:

* `Native.Driver.run_bind` — running is compositional.
-/

import Offload.Native.Program

set_option autoImplicit false
set_option relaxedAutoImplicit false

namespace Offload.Native

/-- A driver with states of type `σ`. -/
structure Driver (σ : Type) where
  call : (c : Call) → σ → Reply c × σ
  lastError : σ → UInt32 × σ
  lastErrorText : σ → String × σ
  /-- Store bytes at the beginning of a region. -/
  store : Region → Bytes → σ → σ
  /-- The first bytes of a region. -/
  fetch : Region → Nat → σ → Bytes
  /-- A call made in this state does not return at once. -/
  blocks : Call → σ → Bool := fun _ _ => false
  /-- A call that has blocked does not return in this state. -/
  staysBlocked : Call → σ → Bool := fun _ _ => false
  /-- The answer to a call that has blocked and now returns. -/
  resume : (c : Call) → σ → Reply c × σ := call
  /-- The state left behind by a call that never returns; missing for a call that does. -/
  traps : Call → σ → Option σ := fun _ _ => none

/-- A driver's state and the state of logging. -/
structure World (σ : Type) where
  driver : σ
  router : Log.Router

/-- Pass the messages of a driver on to logging. -/
def relay (notices : List Notice) (r : Log.Router) : Log.Router :=
  notices.foldl (fun r n => r.native n.flags n.message) r

namespace Driver

variable {σ : Type} {α β : Type}

/-! ### One operation -/

/-- The answer to one operation. -/
def answer (D : Driver σ) : (o : Op) → World σ → o.Answer × World σ
  | .call c, w =>
      let (reply, s) := D.call c w.driver
      (reply, { driver := s, router := relay reply.notices w.router })
  | .lastError, w => let (code, s) := D.lastError w.driver; (code, { w with driver := s })
  | .lastErrorText, w => let (text, s) := D.lastErrorText w.driver; (text, { w with driver := s })
  | .store region data, w => ((), { w with driver := D.store region data w.driver })
  | .fetch region length, w => (D.fetch region length w.driver, w)
  | .log request, w => ((), { w with router := w.router.perform request })

/-- The answer to an operation that has blocked and now returns. -/
def resumed (D : Driver σ) : (o : Op) → World σ → o.Answer × World σ
  | .call c, w =>
      let (reply, s) := D.resume c w.driver
      (reply, { driver := s, router := relay reply.notices w.router })
  | o, w => D.answer o w

/-- The operation does not return at once. -/
def isBlocked (D : Driver σ) : Op → World σ → Bool
  | .call c, w => D.blocks c w.driver
  | _, _ => false

/-- An operation that has blocked does not return yet. -/
def isStillBlocked (D : Driver σ) : Op → World σ → Bool
  | .call c, w => D.staysBlocked c w.driver
  | _, _ => false

/-- What is left behind by an operation that never returns; missing for one that does. -/
def trapped? (D : Driver σ) : Op → World σ → Option (World σ)
  | .call c, w => (D.traps c w.driver).map fun s => { w with driver := s }
  | _, _ => none

/-! ### Whole programs -/

/-- Run a program to its end. -/
def run (D : Driver σ) : Program α → World σ → α × World σ
  | .done a, w => (a, w)
  | .step o next, w => let r := D.answer o w; D.run (next r.1) r.2

/-- Run a program and give up at the first operation that traps. -/
def attempt (D : Driver σ) : Program α → World σ → Option α × World σ
  | .done a, w => (some a, w)
  | .step o next, w =>
      match D.trapped? o w with
      | some left => (none, left)
      | none => let r := D.answer o w; D.attempt (next r.1) r.2

/-- Run rounds of a program until one has a result.  The outer `none` means that the bound on the
number of rounds was reached, the inner one that a call trapped. -/
def attemptRounds (D : Driver σ) (round : Program (Option α)) :
    Nat → World σ → Option (Option α) × World σ
  | 0, w => (none, w)
  | bound + 1, w =>
      match D.attempt round w with
      | (none, w) => (some none, w)
      | (some (some a), w) => (some (some a), w)
      | (some none, w) => D.attemptRounds round bound w

@[simp] theorem run_done (D : Driver σ) (a : α) (w : World σ) : D.run (.done a) w = (a, w) := rfl

@[simp] theorem run_step (D : Driver σ) (o : Op) (next : o.Answer → Program α) (w : World σ) :
    D.run (.step o next) w = D.run (next (D.answer o w).1) (D.answer o w).2 := rfl

/-- Running is compositional. -/
theorem run_bind (D : Driver σ) (p : Program α) (f : α → Program β) (w : World σ) :
    D.run (p >>= f) w = D.run (f (D.run p w).1) (D.run p w).2 := by
  induction p generalizing w with
  | done a => rfl
  | step o next ih => simp [ih]

end Driver

/-! ### Records -/

/-- A state with the calls made so far, of type `ε`, and the status of each. -/
structure Recorded (ε σ : Type) where
  inner : σ
  calls : List (ε × Status)

/-- Note a call that has returned. -/
def Recorded.note {ε σ : Type} (r : Recorded ε σ) (call : ε) (status : Status) (inner : σ) :
    Recorded ε σ :=
  { inner, calls := r.calls ++ [(call, status)] }

/-- The driver that keeps a record of the calls that have returned. -/
def Driver.recorded {σ : Type} (D : Driver σ) : Driver (Recorded Call σ) where
  call c r :=
    let (reply, s) := D.call c r.inner
    (reply, r.note c reply.status s)
  lastError r := let (code, s) := D.lastError r.inner; (code, { r with inner := s })
  lastErrorText r := let (text, s) := D.lastErrorText r.inner; (text, { r with inner := s })
  store region data r := { r with inner := D.store region data r.inner }
  fetch region length r := D.fetch region length r.inner
  blocks c r := D.blocks c r.inner
  staysBlocked c r := D.staysBlocked c r.inner
  resume c r := let (reply, s) := D.resume c r.inner; (reply, r.note c reply.status s)
  traps c r := (D.traps c r.inner).map fun s => { r with inner := s }

end Offload.Native
