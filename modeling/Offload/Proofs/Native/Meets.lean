/-
**Programs under interference.**

Between two operations of a program the driver may be used by others.  What one operation guarantees
then is a transformer of conditions on the part of the state that others leave alone, and a program
guarantees what follows from its operations one after another.

Main definitions:

* `Native.OpSpec` — what each operation guarantees;
* `Native.Program.Meets` — **a program meets a condition** on its result and the state it leaves;
* `Native.Program.Every` — all operations of a program are of some kind;
* `Native.Program.Meddled` — a program run to its end with interference in between.

Main results:

* `Native.Program.meets_bind` — sequences meet what their parts meet one after another;
* `Native.Program.Meets.mono` — a program meets whatever is weaker;
* `Native.meets_action_bind`, `Native.meets_outcome`, `Native.meets_request_iff` — actions, which
  may end with an error;
* `Native.Program.Meets.meddled` — what is met holds of every run with interference.
-/

import Offload.Native.Driver

set_option autoImplicit false
set_option relaxedAutoImplicit false

namespace Offload.Native

variable {V α β : Type}

/-- What each operation guarantees: `spec o k v` says that every answer to `o` given in a state that
looks like `v` leads to where `k` holds. -/
abbrev OpSpec (V : Type) : Type := (o : Op) → (o.Answer → V → Prop) → V → Prop

/-- Operations guarantee whatever is weaker. -/
def OpSpec.IsMono (spec : OpSpec V) : Prop :=
  ∀ (o : Op) (k k' : o.Answer → V → Prop) (v : V), (∀ x v', k x v' → k' x v') →
    spec o k v → spec o k' v

namespace Program

/-- A program meets a condition on its result and on the state that it leaves. -/
def Meets (spec : OpSpec V) : Program α → (α → V → Prop) → V → Prop
  | .done a, Q, v => Q a v
  | .step o next, Q, v => spec o (fun x v' => (next x).Meets spec Q v') v

variable {spec : OpSpec V} {Q Q' : α → V → Prop} {v : V}

@[simp] theorem meets_done {a : α} : (Program.done a).Meets spec Q v ↔ Q a v := Iff.rfl

@[simp] theorem meets_perform {o : Op} {Q : o.Answer → V → Prop} :
    (perform o).Meets spec Q v ↔ spec o Q v := Iff.rfl

/-- Sequences meet what their parts meet one after another. -/
theorem meets_bind (p : Program α) (f : α → Program β) {Q : β → V → Prop} :
    (p >>= f).Meets spec Q v ↔ p.Meets spec (fun a v' => (f a).Meets spec Q v') v := by
  induction p generalizing v with
  | done a => rfl
  | step o next ih =>
      rw [step_bind, Meets, Meets]
      simp only [ih]

/-- A program meets whatever is weaker. -/
theorem Meets.mono (hspec : spec.IsMono) {p : Program α} (hp : p.Meets spec Q v)
    (hQ : ∀ a v', Q a v' → Q' a v') : p.Meets spec Q' v := by
  induction p generalizing v with
  | done a => exact hQ a v hp
  | step o next ih => exact hspec o _ _ v (fun x v' h => ih x h) hp

end Program

/-! ### Actions -/

/-- A condition on what an action comes to: one on its value, and one on its error. -/
def either (ok : α → V → Prop) (error : Error → V → Prop) : Outcome α → V → Prop
  | .ok a => ok a
  | .error e => error e

@[simp] theorem either_ok {ok : α → V → Prop} {error : Error → V → Prop} (a : α) :
    either ok error (.ok a) = ok a := rfl

@[simp] theorem either_error {ok : α → V → Prop} {error : Error → V → Prop} (e : Error) :
    either ok error (.error e) = error e := rfl

/-- An action goes on with its value, and ends with its error. -/
theorem meets_action_bind {spec : OpSpec V} {v : V} (a : Action α) (f : α → Action β)
    {Q : Outcome β → V → Prop} :
    (a >>= f).run.Meets spec Q v ↔
      a.run.Meets spec
        (either (fun x v' => (f x).run.Meets spec Q v') fun e => Q (.error e)) v := by
  rw [ExceptT.run_bind, Program.meets_bind]
  refine iff_of_eq (congrArg (fun R => a.run.Meets spec R v) ?_)
  funext r v'
  cases r <;> rfl

@[simp] theorem meets_pure {spec : OpSpec V} {v : V} {a : α} {Q : Outcome α → V → Prop} :
    (pure a : Action α).run.Meets spec Q v ↔ Q (.ok a) v := Iff.rfl

/-- A program as an action that ends with no error. -/
theorem meets_lift {spec : OpSpec V} {v : V} (p : Program α) {Q : Outcome α → V → Prop} :
    (ExceptT.lift p : Action α).run.Meets spec Q v ↔ p.Meets spec (fun a v' => Q (.ok a) v') v := by
  rw [ExceptT.run_lift, map_eq_pure_bind, Program.meets_bind]
  rfl

/-- Looking at what an action comes to instead of ending with its error. -/
theorem meets_outcome {spec : OpSpec V} {v : V} (a : Action α)
    {Q : Outcome (Outcome α) → V → Prop} :
    (outcome a).run.Meets spec Q v ↔ a.run.Meets spec (fun r v' => Q (.ok r) v') v :=
  meets_lift a.run

/-- A call whose status is judged. -/
theorem meets_request_iff {spec : OpSpec V} {v : V} {c : Call} {prepared : c.Stored}
    {Q : Outcome c.Stored → V → Prop} :
    (request c prepared).run.Meets spec Q v ↔
      spec (.call c) (fun r v' => (check r.status).run.Meets spec
        (either (fun _ => Q (.ok (r.stored.getD prepared))) fun e => Q (.error e)) v') v := by
  have heq : request c prepared = ExceptT.lift (call c) >>= fun r =>
      check r.status >>= fun _ => pure (r.stored.getD prepared) := rfl
  rw [heq, meets_action_bind, meets_lift, call, Program.meets_perform]
  simp only [meets_action_bind, meets_pure, either_ok]

/-! ### Programs of operations of one kind -/

/-- Every operation is of some kind, and may be answered in any way. -/
def everySpec (P : Op → Prop) : OpSpec Unit := fun o Q v => P o ∧ ∀ x, Q x v

/-- A kind of operations that takes in the queries about the last failure, and lines. -/
structure AdmitsReports (P : Op → Prop) : Prop where
  lastError : P .lastError
  lastErrorText : P .lastErrorText
  line : ∀ level text, P (.log (.line level text))

/-- All operations of a program are of some kind. -/
def Program.Every (P : Op → Prop) (p : Program α) : Prop :=
  p.Meets (everySpec P) (fun _ _ => True) ()

section

variable {P : Op → Prop}

theorem everySpec_isMono : (everySpec P).IsMono := by
  intro o Q Q' v hQ h
  exact ⟨h.1, fun x => hQ x v (h.2 x)⟩

theorem every_bind {p : Program α} {f : α → Program β} (hp : p.Every P) (hf : ∀ a, (f a).Every P) :
    (p >>= f).Every P :=
  (Program.meets_bind p f).2 (hp.mono everySpec_isMono fun a _ _ => hf a)

theorem every_action_bind {a : Action α} {f : α → Action β} (ha : a.run.Every P)
    (hf : ∀ x, (f x).run.Every P) : (a >>= f).run.Every P := by
  refine (meets_action_bind a f).2 (ha.mono everySpec_isMono ?_)
  intro r _ _
  cases r with
  | ok x => exact hf x
  | error e => trivial

theorem every_perform {o : Op} (ho : P o) : (perform o).Every P := ⟨ho, fun _ => trivial⟩

theorem every_logLine (hP : AdmitsReports P) {level : Log.Level} {text : String} :
    (logLine level text).Every P := every_perform (hP.line level text)

theorem every_lift {p : Program α} (hp : p.Every P) : (liftM p : Action α).run.Every P :=
  (meets_lift p).2 (hp.mono everySpec_isMono fun _ _ _ => trivial)

theorem every_outcome_bind {a : Action α} {f : Outcome α → Action β} (ha : a.run.Every P)
    (hf : ∀ r, (f r).run.Every P) : (outcome a >>= f).run.Every P :=
  every_action_bind (every_lift ha) hf

theorem every_lift_throw {p : Program Unit} {e : Error} (hp : p.Every P) :
    (liftM p >>= fun _ => throw e : Action α).run.Every P :=
  every_action_bind (every_lift hp) fun _ => trivial

theorem every_check (hP : AdmitsReports P) (status : Status) : (check status).run.Every P := by
  by_cases hs : status.isBenign = true
  · rw [check_of_isBenign hs]
    trivial
  · rw [check, if_neg hs]
    exact ⟨hP.lastError, fun _ => ⟨hP.lastErrorText, fun _ => ⟨hP.line _ _, fun _ => trivial⟩⟩⟩

theorem every_request (hP : AdmitsReports P) {c : Call} {prepared : c.Stored} (hc : P (.call c)) :
    (request c prepared).run.Every P := by
  refine meets_request_iff.2 ⟨hc, fun r => (every_check hP r.status).mono everySpec_isMono ?_⟩
  intro r _ _
  cases r <;> trivial

end

/-! ### Runs with interference -/

/-- A program run to its end on a driver, where the state may change in between as `meddle` says. -/
inductive Program.Meddled {σ : Type} (D : Driver σ) (meddle : World σ → World σ → Prop) :
    Program α → World σ → α → World σ → Prop
  | done (a : α) (w : World σ) : Meddled D meddle (.done a) w a w
  | meddle {p : Program α} {w w₁ w' : World σ} {a : α} (h : meddle w w₁)
      (hp : Meddled D meddle p w₁ a w') : Meddled D meddle p w a w'
  | step {o : Op} {next : o.Answer → Program α} {w w' : World σ} {a : α}
      (hp : Meddled D meddle (next (D.answer o w).1) (D.answer o w).2 a w') :
      Meddled D meddle (.step o next) w a w'

/-- A run without interference is one with interference. -/
theorem Program.meddled_run {σ : Type} (D : Driver σ) (meddle : World σ → World σ → Prop)
    (p : Program α) (w : World σ) : Meddled D meddle p w (D.run p w).1 (D.run p w).2 := by
  induction p generalizing w with
  | done a => exact .done a w
  | step o next ih => exact .step (ih _ _)

/-- What a program meets holds of every run of it, provided that interference leaves alone what is
looked at. -/
theorem Program.Meets.meddled {σ : Type} {D : Driver σ} {meddle : World σ → World σ → Prop}
    {spec : OpSpec V} (view : World σ → V) (hview : ∀ w w', meddle w w' → view w' = view w)
    (hspec : ∀ (o : Op) (k : o.Answer → V → Prop) (w : World σ), spec o k (view w) →
      k (D.answer o w).1 (view (D.answer o w).2))
    {p : Program α} {w w' : World σ} {a : α} {Q : α → V → Prop}
    (hp : p.Meets spec Q (view w)) (hrun : Meddled D meddle p w a w') : Q a (view w') := by
  -- by induction on the run: meddling is not seen, and an operation answers as it guarantees
  induction hrun with
  | done a w => exact hp
  | meddle h _ ih =>
      rw [← hview _ _ h] at hp
      exact ih hp
  | step _ ih => exact ih (hspec _ _ _ hp)

end Offload.Native
