/-
**The steps of an exchange, one by one.**

Main definitions:

* `Exchange.returns`, `Exchange.answered` — whether an operation returns in a step, and its answer;
* `Exchange.Stepped` — all steps of an exchange.

Main results:

* `Exchange.stepped_of_step` — **every step is one of the listed ones**;
* `Exchange.step_of_returns` — the step with an operation that returns;
* `Exchange.eq_of_returned` — a step that returns touches nothing;
* `Exchange.still_or_running` — **only the step of a running job does anything to the device**.
-/

import Offload.Device.Exchange
import Offload.Proofs.Pool.Running

set_option autoImplicit false
set_option relaxedAutoImplicit false

namespace Offload.Exchange

open Native

variable {σ : Type} (D : Driver σ)

/-- The operation returns at once, or, if it has blocked, returns now. -/
def returns (late : Bool) (o : Op) (w : World σ) : Bool :=
  if late then !D.isStillBlocked o w else (D.trapped? o w).isNone && !D.isBlocked o w

/-- The answer to an operation, which may have blocked before. -/
def answered (late : Bool) (o : Op) (w : World σ) : o.Answer × World σ :=
  if late then D.resumed o w else D.answer o w

/-- The steps of an exchange. -/
inductive Stepped (i : Nat) (run : Run) (site : Site σ) : Pool.Progress Run (Site σ) → Prop
  | finish (outcome : Outcome Bytes) (hrest : run.rest = .done (some outcome)) :
      Stepped i run site (.returned outcome site)
  | again (hrest : run.rest = .done none) :
      Stepped i run site (.continues
        { run with rest := deviceRound site.device (UInt32.ofNat i) run.input } site)
  | answer (o : Op) (next : o.Answer → Program (Option (Outcome Bytes)))
      (hrest : run.rest = .step o next) (hreturns : returns D run.entered o site.world = true) :
      Stepped i run site (.continues
        { run with rest := next (answered D run.entered o site.world).1, entered := false }
        { site with world := (answered D run.entered o site.world).2 })
  | enter (o : Op) (next : o.Answer → Program (Option (Outcome Bytes)))
      (hrest : run.rest = .step o next) (hreturns : returns D run.entered o site.world = false)
      (hblocked : D.isBlocked o site.world = true) :
      Stepped i run site (.continues { run with entered := true } site)
  | wait (o : Op) (next : o.Answer → Program (Option (Outcome Bytes)))
      (hrest : run.rest = .step o next) (hentered : run.entered = true)
      (hblocked : D.isStillBlocked o site.world = true) : Stepped i run site .blocked
  | die (o : Op) (next : o.Answer → Program (Option (Outcome Bytes))) (world : World σ)
      (hrest : run.rest = .step o next) (hentered : run.entered = false)
      (htrap : D.trapped? o site.world = some world) :
      Stepped i run site (.died { site with world })

variable {D} in
/-- Every step of an exchange is one of the listed ones. -/
theorem stepped_of_step {slot : Nat} {run : Run} {site : Site σ}
    {progress : Pool.Progress Run (Site σ)} (h : step D slot run site = progress) :
    Stepped D slot run site progress := by
  subst h
  unfold step
  cases hrest : run.rest with
  | done r =>
      cases r with
      | some outcome => exact .finish outcome hrest
      | none => exact .again hrest
  | step o next =>
      dsimp only
      cases hentered : run.entered with
      | true =>
          have hanswered : answered D run.entered o site.world = D.resumed o site.world := by
            rw [answered, hentered, if_pos rfl]
          cases hblocked : D.isStillBlocked o site.world with
          | true => exact .wait o next hrest hentered hblocked
          | false =>
              have hreturns : returns D run.entered o site.world = true := by
                simp [returns, hentered, hblocked]
              have h := Stepped.answer (i := slot) o next hrest hreturns
              rw [hanswered] at h
              exact h
      | false =>
          have hanswered : answered D run.entered o site.world = D.answer o site.world := by
            rw [answered, hentered, if_neg Bool.false_ne_true]
          cases htrap : D.trapped? o site.world with
          | some world => exact .die o next world hrest hentered htrap
          | none =>
              cases hblocked : D.isBlocked o site.world with
              | true =>
                  have hreturns : returns D run.entered o site.world = false := by
                    simp [returns, hentered, hblocked]
                  have h := Stepped.enter (i := slot) o next hrest hreturns hblocked
                  rw [hrest] at h
                  exact h
              | false =>
                  have hreturns : returns D run.entered o site.world = true := by
                    simp [returns, hentered, hblocked, htrap]
                  have h := Stepped.answer (i := slot) o next hrest hreturns
                  rw [hanswered] at h
                  exact h

/-- A step with an operation that returns. -/
theorem step_of_returns {slot : Nat} {run : Run} {site : Site σ} {o : Op}
    {next : o.Answer → Program (Option (Outcome Bytes))} (hrest : run.rest = .step o next)
    (hreturns : returns D run.entered o site.world = true) :
    step D slot run site = .continues
      { run with rest := next (answered D run.entered o site.world).1, entered := false }
      { site with world := (answered D run.entered o site.world).2 } := by
  unfold step
  rw [hrest]
  cases hentered : run.entered with
  | true =>
      rw [hentered] at hreturns
      have hstill : D.isStillBlocked o site.world = false := by simpa [returns] using hreturns
      simp [hstill, goOn, answered]
  | false =>
      rw [hentered] at hreturns
      obtain ⟨htrap, hblocked⟩ : D.trapped? o site.world = none ∧
          D.isBlocked o site.world = false := by simpa [returns] using hreturns
      simp [htrap, hblocked, goOn, answered]

variable {D}

/-- A step that returns leaves everything alone that exchanges share. -/
theorem eq_of_returned {i : Nat} {run : Run} {site site' : Site σ} {outcome : Outcome Bytes}
    (hstep : step D i run site = .returned outcome site') :
    site' = site ∧ run.rest = .done (some outcome) := by
  cases stepped_of_step hstep with
  | finish _ hrest => exact ⟨rfl, hrest⟩

/-! ### Exchanges as jobs of a pool -/

variable {patience : σ → Nat}

theorem still_of_noted {site site' : Site σ}
    (h : site' = site ∨ ∃ level line, site' = (executor D patience).note level line site) :
    site'.device = site.device ∧ site'.world.driver = site.world.driver := by
  rcases h with rfl | ⟨level, line, rfl⟩
  · exact ⟨rfl, rfl⟩
  · exact ⟨rfl, rfl⟩

/-- **Only the step of a running job does anything to the device.** -/
theorem still_or_running {s s' : Pool.Scheduler Run (Site σ)} {move : Pool.Move}
    {e : Option Pool.Event}
    (h : Pool.Scheduler.Transition (executor D patience) s move e s') :
    (s'.shared.device = s.shared.device ∧ s'.shared.world.driver = s.shared.world.driver) ∨
      ∃ slot job run, s.pool.worker? slot = some (.running job run) ∧
        ((∃ run', step D slot run s.shared = .continues run' s'.shared) ∨
          step D slot run s.shared = .died s'.shared) := by
  cases Pool.effect_of_transition h with
  | calm _ _ _ hshared => exact Or.inl (still_of_noted hshared)
  | begin _ _ _ _ _ hshared =>
      rw [hshared]
      exact Or.inl ⟨rfl, rfl⟩
  | goOn slot job run run' _ hw _ hstep => exact Or.inr ⟨slot, job, run, hw, Or.inl ⟨run', hstep⟩⟩
  | «return» slot job run outcome _ _ _ hstep =>
      rw [(eq_of_returned hstep).1]
      exact Or.inl ⟨rfl, rfl⟩
  | die slot job run _ hw hstep => exact Or.inr ⟨slot, job, run, hw, Or.inr hstep⟩

end Offload.Exchange
