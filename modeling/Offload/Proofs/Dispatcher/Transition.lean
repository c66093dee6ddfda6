/-
**The steps of a station, one by one.**

Every possible step of a station is listed once.  Most are steps of its pool; the others take in and
refuse jobs and tear the dispatcher down.

Main definitions:

* `Station.Driving` — the steps that move the pool on;
* `Station.Transition` — all steps.

Main results:

* `Station.Driving.teardown_eq` — how far a step of the pool takes the teardown;
* `Station.transition_of_step` — **every step is one of the listed ones**.
-/

import Offload.Dispatcher.Station
import Offload.Proofs.Pool.Transition

set_option autoImplicit false
set_option relaxedAutoImplicit false

namespace Offload.Station

open Native

variable {σ : Type}

/-- The completions after an event: a job that the closed pool refuses is resolved at once. -/
def answering : Option Pool.Event → Ledger → Ledger
  | some (.refused job), l => (l.resolve job.ticket (.error .closed)).2
  | _, l => l

/-- The station after a step of its pool. -/
def driven (s : Station σ) (r : Pool.Scheduler Exchange.Run (Exchange.Site σ))
    (e : Option Pool.Event) (arrivals : List Pool.Job) (teardown : Dispatcher.Teardown) :
    Station σ :=
  { world := r.shared.world
    ledger := answering e r.ledger
    dispatcher := { s.dispatcher with
      pool := r.pool, device := r.shared.device, arrivals, teardown } }

/-- The moves that move the pool on, with the jobs that have not reached its lock then, and where
the teardown stands then. -/
inductive Driving (s : Station σ) :
    Move → Pool.Move → List Pool.Job → Dispatcher.Teardown → Prop
  | enter (job : Pool.Job) (hjob : job ∈ s.dispatcher.arrivals) :
      Driving s (.enter job.ticket) (.submit job) (s.dispatcher.arrivals.erase job)
        s.dispatcher.teardown
  | proceed : Driving s .proceed .proceed s.dispatcher.arrivals s.dispatcher.teardown
  | work (slot : Nat) :
      Driving s (.work slot) (.work slot) s.dispatcher.arrivals s.dispatcher.teardown
  | stop (h : s.dispatcher.teardown = .stopping) :
      Driving s .wind .close s.dispatcher.arrivals .waiting
  | wait (h : s.dispatcher.teardown = .waiting) :
      Driving s .wind .wind s.dispatcher.arrivals .waiting

/-- The teardown may go on from stopping to waiting, and otherwise stays where it is. -/
theorem Driving.teardown_eq {s : Station σ} {move : Move} {poolMove : Pool.Move}
    {arrivals : List Pool.Job} {teardown : Dispatcher.Teardown}
    (hd : Driving s move poolMove arrivals teardown) :
    teardown = s.dispatcher.teardown ∨
      s.dispatcher.teardown = .stopping ∧ teardown = .waiting := by
  cases hd with
  | stop h => exact Or.inr ⟨h, rfl⟩
  | wait h => exact Or.inl h.symm
  | _ => exact Or.inl rfl

theorem Driving.teardown_eq_notBegun {s : Station σ} {move : Move} {poolMove : Pool.Move}
    {arrivals : List Pool.Job} {teardown : Dispatcher.Teardown}
    (hd : Driving s move poolMove arrivals teardown) (h : s.dispatcher.teardown = .notBegun) :
    teardown = .notBegun := by
  rcases hd.teardown_eq with rfl | ⟨hstopping, -⟩
  · exact h
  · cases h.symm.trans hstopping

variable (D : Driver σ) (patience : σ → Nat)

/-- All steps of a station: whose turn it is, what is shown, and the state. -/
inductive Transition (s : Station σ) : Move → Option Pool.Event → Station σ → Prop
  | turnAway (job : Pool.Job) (e : Error) (h : s.dispatcher.admission job.input = .error e) :
      Transition s (.execute job) (some (.refused job)) (s.refuse job.ticket e)
  | takeIn (job : Pool.Job) (h : s.dispatcher.admission job.input = .ok ()) :
      Transition s (.execute job) none
        { s with dispatcher :=
          { s.dispatcher with arrivals := s.dispatcher.arrivals ++ [job] } }
  | pool (move : Move) (poolMove : Pool.Move) (arrivals : List Pool.Job)
      (teardown : Dispatcher.Teardown) (e : Option Pool.Event)
      (r : Pool.Scheduler Exchange.Run (Exchange.Site σ))
      (hd : Driving s move poolMove arrivals teardown)
      (ht : Pool.Scheduler.Transition (executor D patience) s.scheduler poolMove e r) :
      Transition s move e (s.driven r e arrivals teardown)
  | tearDownAgain (h : s.dispatcher.tornDown = true) : Transition s .tearDown none s
  | tearDown (h : s.dispatcher.tornDown = false) :
      Transition s .tearDown none
        { s with dispatcher :=
          { s.dispatcher with tornDown := true, teardown := .announcing } }
  | announce (router : Log.Router) (h : s.dispatcher.teardown = .announcing) :
      Transition s .wind none (winding .stopping { s with world := { s.world with router } })
  | endSession (h : s.dispatcher.teardown = .waiting)
      (hclosing : s.dispatcher.pool.closing = .finished) :
      Transition s .wind none (winding (.closing s.dispatcher.device.close) s)
  | closing (o : Op) (next : o.Answer → Program (Bool × Device))
      (h : s.dispatcher.teardown = .closing (.step o next)) :
      Transition s .wind none
        (winding (.closing (next (D.answer o s.world).1))
          { s with world := (D.answer o s.world).2 })
  | closed (was : Bool) (device : Device)
      (h : s.dispatcher.teardown = .closing (.done (was, device))) :
      Transition s .wind none
        (winding .releasing { s with dispatcher := { s.dispatcher with device } })
  | release (router : Log.Router) (h : s.dispatcher.teardown = .releasing) :
      Transition s .wind none (winding .finished { s with world := { s.world with router } })

variable {D patience} {s s' : Station σ} {e : Option Pool.Event}

theorem poolStep_eq {poolMove : Pool.Move} (h : s.poolStep D patience poolMove = some (s', e)) :
    ∃ r, Pool.Scheduler.Transition (executor D patience) s.scheduler poolMove e r ∧
      s' = s.driven r e s.dispatcher.arrivals s.dispatcher.teardown := by
  obtain ⟨⟨r, e'⟩, hr, hs⟩ := Option.map_eq_some_iff.1 h
  -- the completion of a refused job is resolved with the step that shows the refusal
  have heq : e' = e ∧ s' = s.driven r e' s.dispatcher.arrivals s.dispatcher.teardown := by
    cases e' with
    | none => cases hs; exact ⟨rfl, rfl⟩
    | some event => cases event <;> cases hs <;> exact ⟨rfl, rfl⟩
  obtain ⟨rfl, rfl⟩ := heq
  exact ⟨r, Pool.Scheduler.transition_of_step hr, rfl⟩

theorem transition_of_wind (h : s.wind D patience = some (s', e)) :
    Transition D patience s .wind e s' := by
  unfold wind at h
  cases ht : s.dispatcher.teardown with
  | notBegun | finished => simp [ht] at h
  | announcing => simp only [ht] at h; cases h; exact .announce _ ht
  | stopping =>
      simp only [ht] at h
      obtain ⟨⟨s₁, e'⟩, hs, h⟩ := Option.map_eq_some_iff.1 h
      cases h
      obtain ⟨r, hr, rfl⟩ := poolStep_eq hs
      exact .pool .wind .close _ .waiting e' r (.stop ht) hr
  | waiting =>
      simp only [ht] at h
      split at h
      · next hc => cases h; exact .endSession ht hc
      · obtain ⟨r, hr, rfl⟩ := poolStep_eq h
        rw [ht]
        exact .pool .wind .wind _ .waiting e r (.wait ht) hr
  | closing rest =>
      cases rest with
      | done r =>
          obtain ⟨was, device⟩ := r
          simp only [ht] at h
          cases h
          exact .closed was device ht
      | step o next => simp only [ht] at h; cases h; exact .closing o next ht
  | releasing =>
      simp only [ht] at h
      cases h
      cases hsink : s.dispatcher.sink with
      | none => exact .release s.world.router ht
      | some sink => exact .release (s.world.router.perform (.remove sink)) ht

/-- **Every step is one of the listed ones.** -/
theorem transition_of_step {move : Move} (h : s.step D patience move = some (s', e)) :
    Transition D patience s move e s' := by
  cases move with
  | execute job =>
      cases ha : s.dispatcher.admission job.input with
      | error err => simp only [step, ha] at h; cases h; exact .turnAway job err ha
      | ok => simp only [step, ha] at h; cases h; exact .takeIn job ha
  | enter ticket =>
      obtain ⟨job, hjob, hs⟩ := Option.bind_eq_some_iff.1 h
      obtain rfl : job.ticket = ticket := by simpa using List.find?_some hjob
      obtain ⟨r, hr, rfl⟩ := poolStep_eq hs
      exact .pool _ _ _ _ e r (.enter job (List.mem_of_find?_eq_some hjob)) hr
  | proceed =>
      obtain ⟨r, hr, rfl⟩ := poolStep_eq h
      exact .pool _ _ _ _ e r .proceed hr
  | work slot =>
      obtain ⟨r, hr, rfl⟩ := poolStep_eq h
      exact .pool _ _ _ _ e r (.work slot) hr
  | tearDown =>
      cases ht : s.dispatcher.tornDown with
      | true => simp only [step, ht, if_true] at h; cases h; exact .tearDownAgain ht
      | false => simp only [step, ht] at h; cases h; exact .tearDown ht
  | wind => exact transition_of_wind h

end Offload.Station
