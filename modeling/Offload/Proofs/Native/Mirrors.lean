/-
**Programs that do the same through twin drivers.**

Twin drivers differ in the blanks that one of them makes up for and in the texts of failures.  Two
programs mirror each other when they perform the same operations, and go on mirroring each other
where the one gets an answer of the first driver and the other the same answer as the second driver
gives it.  What they log may differ; and the second program may log more, where it is allowed to lag
behind.

Main definitions:

* `Error.retold`, `Error.Retold` — errors whose texts of the driver have gone through a function;
* `Outcome.Mirrors` — outcomes that differ in nothing else;
* `Native.Op.mirror` — the answer of the second driver, from that of the first;
* `Native.Program.Mirrors` — **programs that mirror each other**, with results that are related.

Main results:

* `Native.mirrors_bind`, `Native.mirrors_action_bind` — sequences of such programs;
* `Native.mirrors_check`, `Native.mirrors_request` — **a judged call whose caller prepares a blank
  value mirrors itself**;
* `Native.Twins.answer`, `Native.Twins.resumed` — twin drivers in the same state answer alike.
-/

import Offload.Proofs.Library.Twins

set_option autoImplicit false
set_option relaxedAutoImplicit false

namespace Offload

variable {f : String → String} {α β γ δ : Type}

/-! ### Errors -/

/-- An error whose text of the driver has gone through `f`. -/
def Error.retold (f : String → String) : Error → Error
  | .deviceOperation status code text => .deviceOperation status code (f text)
  | e => e

/-- Two errors that differ only in the text of the driver, which has gone through `f`.  An error of
the connection carries such a text behind its own words, unless the device has no buffers. -/
inductive Error.Retold (f : String → String) : Error → Error → Prop
  | plain (e : Error) (he : ∀ reason, e ≠ .connection reason) : Retold f e (e.retold f)
  | absent (status : Status) (text : String) :
      Retold f (.connection s!"no device present: {status.text} {text}")
        (.connection s!"no device present: {status.text} {f text}")
  | uncreated (endpoint : UInt32) (status : Status) (text : String) :
      Retold f (.connection s!"create handle on endpoint {endpoint.toNat}: {status.text} {text}")
        (.connection s!"create handle on endpoint {endpoint.toNat}: {status.text} {f text}")
  | noBuffers :
      Retold f (.connection "device reports no buffers") (.connection "device reports no buffers")

/-- An outcome whose error has been retold. -/
def Outcome.retold (f : String → String) : Outcome α → Outcome α
  | .ok a => .ok a
  | .error e => .error (e.retold f)

/-- Outcomes with related values, or with related errors. -/
inductive Outcome.Mirrors (K : Error → Error → Prop) (R : α → β → Prop) :
    Outcome α → Outcome β → Prop
  | ok {a : α} {b : β} (h : R a b) : Mirrors K R (.ok a) (.ok b)
  | error {e e' : Error} (h : K e e') : Mirrors K R (.error e) (.error e')

/-- The errors of everything that happens once a handle is there. -/
def Error.Echoes (f : String → String) (e e' : Error) : Prop :=
  (∀ reason, e ≠ .connection reason) ∧ e' = e.retold f

theorem Error.Echoes.retold {e e' : Error} (h : Error.Echoes f e e') : Error.Retold f e e' := by
  obtain ⟨he, rfl⟩ := h
  exact .plain e he

namespace Outcome.Mirrors

variable {K K' : Error → Error → Prop} {R R' : α → β → Prop} {r : Outcome α} {r' : Outcome β}

theorem mono (h : Mirrors K R r r') (hK : ∀ e e', K e e' → K' e e')
    (hR : ∀ a b, R a b → R' a b) : Mirrors K' R' r r' := by
  cases h with
  | ok h => exact .ok (hR _ _ h)
  | error h => exact .error (hK _ _ h)

/-- Outcomes of what happens once a handle is there. -/
theorem eq_retold {r r' : Outcome α} (h : Mirrors (Error.Echoes f) Eq r r') : r' = r.retold f := by
  cases h with
  | ok h => rw [h, retold]
  | error h => rw [h.2, retold]

end Outcome.Mirrors

/-! ### Programs -/

namespace Native

/-- The answer to an operation as the second of twin drivers gives it, from that of the first. -/
def Op.mirror (f : String → String) : (o : Op) → o.Answer → o.Answer
  | .call _, r => r.completed
  | .lastErrorText, text => f text
  | .lastError, x | .store _ _, x | .fetch _ _, x | .log _, x => x

/-- Two programs that do the same through twin drivers, but for what they log, and have related
results.  The second one may log more if it is allowed to lag behind. -/
inductive Program.Mirrors (f : String → String) (lag : Bool) (R : α → β → Prop) :
    Program α → Program β → Prop
  | done {a : α} {b : β} (h : R a b) : Mirrors f lag R (.done a) (.done b)
  | step (o : Op) {next : o.Answer → Program α} {next' : o.Answer → Program β}
      (h : ∀ x, Mirrors f lag R (next x) (next' (o.mirror f x))) :
      Mirrors f lag R (.step o next) (.step o next')
  | log (request request' : Log.Request) {next : Unit → Program α} {next' : Unit → Program β}
      (h : Mirrors f lag R (next ()) (next' ())) :
      Mirrors f lag R (.step (.log request) next) (.step (.log request') next')
  | extra (hlag : lag = true) (request : Log.Request) {p : Program α} {next' : Unit → Program β}
      (h : Mirrors f lag R p (next' ())) : Mirrors f lag R p (.step (.log request) next')

variable {lag : Bool} {R : α → β → Prop} {p : Program α} {p' : Program β}

theorem Program.Mirrors.mono {R' : α → β → Prop} (h : p.Mirrors f lag R p')
    (hR : ∀ a b, R a b → R' a b) : p.Mirrors f lag R' p' := by
  induction h with
  | done h => exact .done (hR _ _ h)
  | step o _ ih => exact .step o ih
  | log request request' _ ih => exact .log request request' ih
  | extra hlag request _ ih => exact .extra hlag request ih

/-- Sequences of programs that mirror each other. -/
theorem mirrors_bind {R' : γ → δ → Prop} {g : α → Program γ} {g' : β → Program δ}
    (hp : p.Mirrors f lag R p') (hg : ∀ a b, R a b → (g a).Mirrors f lag R' (g' b)) :
    (p >>= g).Mirrors f lag R' (p' >>= g') := by
  induction hp with
  | done h => exact hg _ _ h
  | step o _ ih => exact .step o ih
  | log request request' _ ih => exact .log request request' ih
  | extra hlag request _ ih => exact .extra hlag request ih

theorem mirrors_perform (o : Op) :
    (perform o).Mirrors f lag (fun x x' => x' = o.mirror f x) (perform o) :=
  .step o fun _ => .done rfl

/-! ### Actions -/

section

variable {K : Error → Error → Prop} {R' : γ → δ → Prop}

/-- Sequences of actions that mirror each other. -/
theorem mirrors_action_bind {a : Action α} {a' : Action β} {g : α → Action γ} {g' : β → Action δ}
    (ha : a.run.Mirrors f lag (Outcome.Mirrors K R) a'.run)
    (hg : ∀ x x', R x x' → (g x).run.Mirrors f lag (Outcome.Mirrors K R') (g' x').run) :
    (a >>= g).run.Mirrors f lag (Outcome.Mirrors K R') (a' >>= g').run := by
  rw [ExceptT.run_bind, ExceptT.run_bind]
  refine mirrors_bind ha fun r r' hr => ?_
  cases hr with
  | ok h => exact hg _ _ h
  | error h => exact .done (.error h)

theorem mirrors_then {a a' : Action α} {g : α → Action γ} {g' : α → Action δ}
    (ha : a.run.Mirrors f lag (Outcome.Mirrors K Eq) a'.run)
    (hg : ∀ x, (g x).run.Mirrors f lag (Outcome.Mirrors K R') (g' x).run) :
    (a >>= g).run.Mirrors f lag (Outcome.Mirrors K R') (a' >>= g').run := by
  refine mirrors_action_bind ha fun x x' hx => ?_
  rw [← hx]
  exact hg x

theorem mirrors_pure {a : α} {b : β} (h : R a b) :
    (pure a : Action α).run.Mirrors f lag (Outcome.Mirrors K R) (pure b : Action β).run :=
  .done (.ok h)

theorem mirrors_throw {e e' : Error} (h : K e e') :
    (throw e : Action α).run.Mirrors f lag (Outcome.Mirrors K R) (throw e' : Action β).run :=
  .done (.error h)

theorem mirrors_liftOutcome {r : Outcome α} {r' : Outcome β} (h : Outcome.Mirrors K R r r') :
    (liftM r : Action α).run.Mirrors f lag (Outcome.Mirrors K R) (liftM r' : Action β).run :=
  .done h

/-- A program as an action that ends with no error. -/
theorem mirrors_lift (hp : p.Mirrors f lag R p') :
    (liftM p : Action α).run.Mirrors f lag (Outcome.Mirrors K R) (liftM p' : Action β).run :=
  mirrors_bind hp fun _ _ h => .done (.ok h)

/-- Looking at what an action comes to instead of ending with its error. -/
theorem mirrors_outcome {K' : Error → Error → Prop} {a : Action α} {a' : Action β}
    (ha : a.run.Mirrors f lag (Outcome.Mirrors K' R) a'.run) :
    (outcome a).run.Mirrors f lag (Outcome.Mirrors K (Outcome.Mirrors K' R)) (outcome a').run :=
  mirrors_bind ha fun _ _ h => .done (.ok h)

theorem mirrors_logLine (level : Log.Level) (text text' : String) :
    (liftM (logLine level text) : Action Unit).run.Mirrors f lag (Outcome.Mirrors K Eq)
      (liftM (logLine level text') : Action Unit).run :=
  .log _ _ (.done (.ok rfl))

theorem mirrors_mono {K' : Error → Error → Prop} {a : Action α} {a' : Action β}
    (ha : a.run.Mirrors f lag (Outcome.Mirrors K R) a'.run) (hK : ∀ e e', K e e' → K' e e') :
    a.run.Mirrors f lag (Outcome.Mirrors K' R) a'.run :=
  ha.mono fun _ _ h => h.mono hK fun _ _ h => h

end

/-! ### The verifier -/

/-- **Judging a status mirrors itself.** -/
theorem mirrors_check (status : Status) :
    (check status).run.Mirrors f lag (Outcome.Mirrors (Error.Echoes f) Eq) (check status).run := by
  by_cases hs : status.isBenign = true
  · rw [check_of_isBenign hs]
    exact .done (.ok rfl)
  · rw [check, if_neg hs]
    exact .step _ fun _ => .step _ fun _ => .log _ _ (.done (.error ⟨by simp, rfl⟩))

/-- **So does a judged call**, if its caller has prepared the blank value. -/
theorem mirrors_request {c : Call} {prepared : c.Stored} (h : c.IsBlank prepared) :
    (request c prepared).run.Mirrors f lag (Outcome.Mirrors (Error.Echoes f) Eq)
      (request c prepared).run := by
  refine mirrors_action_bind (mirrors_lift (mirrors_perform (.call c))) fun r r' hr => ?_
  obtain rfl : r' = r.completed := hr
  refine mirrors_then (mirrors_check r.status) fun _ => ?_
  exact mirrors_pure (Call.getD_complete h r.stored).symm

/-! ### Answers -/

section

variable {σ : Type} {D E : Driver σ} {w w' : World σ}

/-- **Twin drivers in the same state answer alike**, and are in the same state again. -/
theorem Twins.answer (h : Twins f D E) (hw : w'.driver = w.driver) (o : Op) :
    (E.answer o w').1 = o.mirror f (D.answer o w).1 ∧
      (E.answer o w').2.driver = (D.answer o w).2.driver := by
  cases o with
  | call c => simp [Driver.answer, Op.mirror, h.call, hw]
  | lastError => simp [Driver.answer, Op.mirror, h.lastError, hw]
  | lastErrorText => simp [Driver.answer, Op.mirror, h.lastErrorText, hw]
  | store region data => simp [Driver.answer, Op.mirror, h.store, hw]
  | fetch region length => simp [Driver.answer, Op.mirror, h.fetch, hw]
  | log request => exact ⟨rfl, hw⟩

/-- So they do when an operation has blocked before. -/
theorem Twins.resumed (h : Twins f D E) (hw : w'.driver = w.driver) (o : Op) :
    (E.resumed o w').1 = o.mirror f (D.resumed o w).1 ∧
      (E.resumed o w').2.driver = (D.resumed o w).2.driver := by
  cases o with
  | call c => simp [Driver.resumed, Op.mirror, h.resume, hw]
  | lastError | lastErrorText | store region data | fetch region length | log request =>
      exact h.answer hw _

theorem Twins.isBlocked (h : Twins f D E) (hw : w'.driver = w.driver) (o : Op) :
    E.isBlocked o w' = D.isBlocked o w := by
  cases o <;> simp [Driver.isBlocked, h.blocks, hw]

theorem Twins.isStillBlocked (h : Twins f D E) (hw : w'.driver = w.driver) (o : Op) :
    E.isStillBlocked o w' = D.isStillBlocked o w := by
  cases o <;> simp [Driver.isStillBlocked, h.staysBlocked, hw]

theorem Twins.trapped (h : Twins f D E) (hw : w'.driver = w.driver) (o : Op) :
    Option.Rel (fun w w' => w'.driver = w.driver) (D.trapped? o w) (E.trapped? o w') := by
  cases o with
  | call c =>
      simp only [Driver.trapped?, h.traps, hw]
      cases D.traps c w.driver with
      | none => exact .none
      | some s => exact .some rfl
  | lastError | lastErrorText | store region data | fetch region length | log request =>
      exact .none

end

end Native

end Offload
