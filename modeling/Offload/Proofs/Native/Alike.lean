/-
**Programs that do the same whatever they are told about failures.**

The code and the text of the most recent failure are the device's own and change with every failing
call of anybody.  Two programs are alike when they perform the same operations and go on alike
wherever they get the same answers, except that a query about the last failure may be answered
differently, and that what they log may differ.

Main definitions:

* `Error.blurred`, `Outcome.blurred` — errors without the device's own account of the failure;
* `Native.Program.Alike` — programs that are alike, with results that are related;
* `Native.SameButReports` — outcomes that are equal but for that account.

Main results:

* `Native.alike_bind`, `Native.alike_action_bind` — sequences of programs that are alike;
* `Native.alike_request` — **a judged call does not depend on the account of a failure**.
-/

import Offload.Native.Program

set_option autoImplicit false
set_option relaxedAutoImplicit false

namespace Offload

variable {α β : Type}

/-- An error without the device's own account of the failure. -/
def Error.blurred : Error → Error
  | .deviceOperation status _ _ => .deviceOperation status 0 ""
  | e => e

/-- An outcome without the device's own account of the failure. -/
def Outcome.blurred : Outcome α → Outcome α
  | .ok a => .ok a
  | .error e => .error e.blurred

namespace Native

/-! ### Programs -/

/-- The operations whose answers are the device's own account of a failure, and logging. -/
def Op.isReport : Op → Bool
  | .lastError | .lastErrorText | .log _ => true
  | .call _ | .store _ _ | .fetch _ _ => false

/-- Two programs that do the same, but for what they are told about failures and what they log, and
have related results. -/
inductive Program.Alike (R : α → α → Prop) : Program α → Program α → Prop
  | done {a a' : α} (h : R a a') : Alike R (.done a) (.done a')
  | step (o : Op) (ho : o.isReport = false) {next next' : o.Answer → Program α}
      (h : ∀ x, Alike R (next x) (next' x)) : Alike R (.step o next) (.step o next')
  | lastError {next next' : UInt32 → Program α} (h : ∀ x x', Alike R (next x) (next' x')) :
      Alike R (.step .lastError next) (.step .lastError next')
  | lastErrorText {next next' : String → Program α} (h : ∀ x x', Alike R (next x) (next' x')) :
      Alike R (.step .lastErrorText next) (.step .lastErrorText next')
  | log (request request' : Log.Request) {next next' : Unit → Program α}
      (h : Alike R (next ()) (next' ())) :
      Alike R (.step (.log request) next) (.step (.log request') next')

theorem Program.Alike.symm {R : α → α → Prop} (hR : ∀ a a', R a a' → R a' a) {p p' : Program α}
    (h : p.Alike R p') : p'.Alike R p := by
  induction h with
  | done h => exact .done (hR _ _ h)
  | step o ho _ ih => exact .step o ho ih
  | lastError _ ih => exact .lastError fun x x' => ih x' x
  | lastErrorText _ ih => exact .lastErrorText fun x x' => ih x' x
  | log request request' _ ih => exact .log request' request ih

theorem Program.Alike.trans {R : α → α → Prop} (hR : ∀ a a' a'', R a a' → R a' a'' → R a a'')
    {p p' p'' : Program α} (h : p.Alike R p') (h' : p'.Alike R p'') : p.Alike R p'' := by
  induction h generalizing p'' with
  | done h =>
      cases h' with
      | done h' => exact .done (hR _ _ _ h h')
  | step o ho _ ih =>
      cases h' with
      | step _ _ h' => exact .step o ho fun x => ih x (h' x)
      | lastError | lastErrorText | log => cases ho
  -- whatever the two programs are told, they may be told something third
  | lastError _ ih =>
      cases h' with
      | step _ ho => cases ho
      | lastError h' => exact .lastError fun x x' => ih x x (h' x x')
  | lastErrorText _ ih =>
      cases h' with
      | step _ ho => cases ho
      | lastErrorText h' => exact .lastErrorText fun x x' => ih x x (h' x x')
  | log request request' _ ih =>
      cases h' with
      | step _ ho => cases ho
      | log _ request'' h' => exact .log request request'' (ih h')

/-- Sequences of programs that are alike. -/
theorem alike_bind {R : α → α → Prop} {R' : β → β → Prop} {p p' : Program α}
    {f f' : α → Program β} (hp : p.Alike R p') (hf : ∀ a a', R a a' → (f a).Alike R' (f' a')) :
    (p >>= f).Alike R' (p' >>= f') := by
  induction hp with
  | done h => exact hf _ _ h
  | step o ho _ ih => exact .step o ho ih
  | lastError _ ih => exact .lastError ih
  | lastErrorText _ ih => exact .lastErrorText ih
  | log request request' _ ih => exact .log request request' ih

theorem alike_perform {o : Op} (ho : o.isReport = false) : (perform o).Alike Eq (perform o) :=
  .step o ho fun _ => .done rfl

/-! ### Actions -/

/-- Outcomes with related values, or with errors that are equal but for the account of the
failure. -/
inductive SameButReports (R : α → α → Prop) : Outcome α → Outcome α → Prop
  | ok {a a' : α} (h : R a a') : SameButReports R (.ok a) (.ok a')
  | error {e e' : Error} (h : e'.blurred = e.blurred) : SameButReports R (.error e) (.error e')

theorem SameButReports.refl (r : Outcome α) : SameButReports Eq r r := by
  cases r with
  | ok a => exact .ok rfl
  | error e => exact .error rfl

theorem SameButReports.blurred_eq {r r' : Outcome α} (h : SameButReports Eq r r') :
    Outcome.blurred r' = Outcome.blurred r := by
  cases h with
  | ok h => rw [h]
  | error h => exact congrArg Except.error h

section

variable {R : α → α → Prop} {R' : β → β → Prop}

/-- Sequences of actions that are alike. -/
theorem alike_action_bind {a a' : Action α} {f f' : α → Action β}
    (ha : a.run.Alike (SameButReports R) a'.run)
    (hf : ∀ x x', R x x' → (f x).run.Alike (SameButReports R') (f' x').run) :
    (a >>= f).run.Alike (SameButReports R') (a' >>= f').run := by
  rw [ExceptT.run_bind, ExceptT.run_bind]
  refine alike_bind ha fun r r' hr => ?_
  cases hr with
  | ok h => exact hf _ _ h
  | error h => exact .done (.error h)

theorem alike_then {a : Action α} {f : α → Action β} (ha : a.run.Alike (SameButReports Eq) a.run)
    (hf : ∀ x, (f x).run.Alike (SameButReports R') (f x).run) :
    (a >>= f).run.Alike (SameButReports R') (a >>= f).run := by
  refine alike_action_bind ha fun x x' hx => ?_
  rw [← hx]
  exact hf x

theorem alike_liftOutcome {r r' : Outcome α} (h : SameButReports R r r') :
    (liftM r : Action α).run.Alike (SameButReports R) (liftM r' : Action α).run := .done h

/-- A program as an action that ends with no error. -/
theorem alike_lift {p p' : Program α} (hp : p.Alike R p') :
    (liftM p : Action α).run.Alike (SameButReports R) (liftM p' : Action α).run :=
  alike_bind hp fun _ _ h => .done (.ok h)

/-- Looking at what an action comes to instead of ending with its error. -/
theorem alike_outcome {a a' : Action α} (ha : a.run.Alike (SameButReports R) a'.run) :
    (outcome a).run.Alike (SameButReports (SameButReports R)) (outcome a').run :=
  alike_bind ha fun _ _ h => .done (.ok h)

theorem alike_logLine (level : Log.Level) (text text' : String) :
    (liftM (logLine level text) : Action Unit).run.Alike (SameButReports Eq)
      (liftM (logLine level text') : Action Unit).run :=
  .log _ _ (.done (.ok rfl))

end

/-- **Judging a status does not depend on the account of the failure**, but for what is reported. -/
theorem alike_check (status : Status) :
    (check status).run.Alike (SameButReports Eq) (check status).run := by
  by_cases hs : status.isBenign = true
  · rw [check_of_isBenign hs]
    exact .done (.ok rfl)
  · rw [check, if_neg hs]
    exact .lastError fun _ _ => .lastErrorText fun _ _ => .log _ _ (.done (.error rfl))

/-- **Neither does a judged call.** -/
theorem alike_request {c : Call} (prepared : c.Stored) :
    (request c prepared).run.Alike (SameButReports Eq) (request c prepared).run :=
  alike_then (alike_lift (alike_perform (o := .call c) rfl)) fun reply =>
    alike_then (alike_check reply.status) fun _ => .done (.ok rfl)

end Native

end Offload
