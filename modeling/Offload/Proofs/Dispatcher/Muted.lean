/-
**A dispatcher without what the handles of some jobs can show.**

What a dispatcher does when it takes in jobs, refuses them and is torn down depends as little as its
pool does on the outcomes and the wakers that are in the completions of jobs.

Main definitions:

* `Station.muted` — a station without the outcomes and wakers of all jobs but some.

Main results:

* `Station.muted_poolStep`, `Station.muted_wind` — steps of the pool and of the teardown;
* `Station.muted_step` — **no step depends on what is left out**.
-/

import Offload.Dispatcher.Station
import Offload.Proofs.Pool.Muted

set_option autoImplicit false
set_option relaxedAutoImplicit false

namespace Offload.Station

open Native

variable {σ : Type} {K : Ticket → Bool}

/-- A station, without the outcomes and wakers of all jobs but some. -/
def muted (K : Ticket → Bool) (s : Station σ) : Station σ :=
  { s with
    ledger := s.ledger.muted K
    dispatcher := { s.dispatcher with pool := s.dispatcher.pool.muted K } }

/-- What a step comes to, without them. -/
def mutedStep (K : Ticket → Bool) (r : Station σ × Option Pool.Event) :
    Station σ × Option Pool.Event := (r.1.muted K, r.2)

@[simp] theorem muted_muted (s : Station σ) : (s.muted K).muted K = s.muted K := by
  simp [muted]

/-- Stations that differ in nothing but what is left out. -/
theorem muted_eq_iff {s s' : Station σ} :
    s'.muted K = s.muted K ↔
      s'.world = s.world ∧ s'.ledger.muted K = s.ledger.muted K ∧
        { s'.dispatcher with pool := s'.dispatcher.pool.muted K } =
          { s.dispatcher with pool := s.dispatcher.pool.muted K } := by
  rw [muted, muted, mk.injEq]

variable {D : Driver σ} {patience : σ → Nat} (s : Station σ)

theorem map_muted {r r' : Station σ × Option Pool.Event} (h : r' = mutedStep K r) :
    (some r').map (mutedStep K) = (some r).map (mutedStep K) := by
  rw [h]
  simp [mutedStep]

theorem muted_refuse (ticket : Ticket) (e : Error) :
    ((s.muted K).refuse ticket e).muted K = (s.refuse ticket e).muted K := by
  have hresolve := Ledger.muted_resolve (K := K) (l := s.ledger) (t := ticket) (.error e)
  simp only [muted, refuse, hresolve, Pool.muted_muted]

/-! ### Steps of the pool -/

theorem muted_withScheduler {r r' : Pool.Scheduler Exchange.Run (Exchange.Site σ)}
    (h : r'.muted K = r.muted K) :
    ((s.muted K).withScheduler r').muted K = (s.withScheduler r).muted K :=
  congrArg (fun r => (s.muted K).withScheduler r) h

/-- **A step of the pool does not depend on what is left out.** -/
theorem muted_poolStep (move : Pool.Move) :
    ((s.muted K).poolStep D patience move).map (mutedStep K) =
      (s.poolStep D patience move).map (mutedStep K) := by
  rw [poolStep, poolStep, Option.map_map, Option.map_map]
  refine map_eq_of_map_eq (Pool.Scheduler.muted_step s.scheduler move) ?_
  rintro ⟨r, e⟩ ⟨r', e'⟩ h
  obtain ⟨hr, rfl⟩ := Prod.mk.inj h
  have hs := muted_withScheduler s (K := K) hr
  cases e' with
  | none => exact congrArg (·, none) hs
  | some event =>
      cases event with
      | refused job =>
          refine congrArg (·, some (Pool.Event.refused job)) ?_
          show (refuse _ job.ticket .closed).muted K = (refuse _ job.ticket .closed).muted K
          rw [← muted_refuse, hs, muted_refuse]
      | _ => exact congrArg (·, some _) hs

/-! ### The teardown -/

theorem muted_winding (teardown : Dispatcher.Teardown)
    {o o' : Option (Station σ × Option Pool.Event)}
    (h : o'.map (mutedStep K) = o.map (mutedStep K)) :
    (o'.map fun r => (winding teardown r.1, r.2)).map (mutedStep K) =
      (o.map fun r => (winding teardown r.1, r.2)).map (mutedStep K) := by
  rw [Option.map_map, Option.map_map]
  refine map_eq_of_map_eq h ?_
  rintro ⟨s, e⟩ ⟨s', e'⟩ h
  obtain ⟨hs, rfl⟩ := Prod.mk.inj h
  exact congrArg (fun s => (winding teardown s, e')) hs

/-- **The teardown does not depend on what is left out.** -/
theorem muted_wind :
    ((s.muted K).wind D patience).map (mutedStep K) = (s.wind D patience).map (mutedStep K) := by
  have hteardown : (s.muted K).dispatcher.teardown = s.dispatcher.teardown := rfl
  have hclosing : (s.muted K).dispatcher.pool.closing = s.dispatcher.pool.closing.muted K := rfl
  simp only [wind, hteardown]
  cases s.dispatcher.teardown with
  | notBegun | finished => rfl
  | announcing => exact map_muted rfl
  | stopping => exact muted_winding .waiting (muted_poolStep s .close)
  | waiting =>
      simp only [hclosing]
      cases s.dispatcher.pool.closing with
      | finished => exact map_muted rfl
      | notBegun | joining | draining => exact muted_poolStep s .wind
  | closing rest =>
      cases rest with
      | done r => exact map_muted rfl
      | step o next => exact map_muted rfl
  | releasing => exact map_muted rfl

/-! ### All moves -/

/-- **No step depends on what is left out.** -/
theorem muted_step (move : Move) :
    ((s.muted K).step D patience move).map (mutedStep K) =
      (s.step D patience move).map (mutedStep K) := by
  cases move with
  | execute job =>
      have hadmission : (s.muted K).dispatcher.admission job.input =
          s.dispatcher.admission job.input := rfl
      simp only [step, hadmission]
      cases s.dispatcher.admission job.input with
      | ok => exact map_muted rfl
      | error e =>
          exact congrArg (fun s => some (s, some (Pool.Event.refused job)))
            (muted_refuse s job.ticket e)
  | enter ticket =>
      have harrivals : (s.muted K).dispatcher.arrivals = s.dispatcher.arrivals := rfl
      simp only [step, harrivals]
      cases s.dispatcher.arrivals.find? _ with
      | none => rfl
      | some job =>
          exact muted_poolStep ({ s with dispatcher :=
            { s.dispatcher with arrivals := s.dispatcher.arrivals.erase job } }) (.submit job)
  | proceed => exact muted_poolStep s .proceed
  | work slot => exact muted_poolStep s (.work slot)
  | tearDown =>
      have htorn : (s.muted K).dispatcher.tornDown = s.dispatcher.tornDown := rfl
      simp only [step, htorn]
      split
      · exact map_muted rfl
      · exact map_muted rfl
  | wind => exact muted_wind s

end Offload.Station
