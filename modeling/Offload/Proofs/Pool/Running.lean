/-
**What a step does to the jobs that are running.**

A step begins a job, goes on with one, ends one, or has nothing to do with running jobs at all: then
the state that the jobs share changes at most by a log line.

Main definitions:

* `Pool.Effect` — what a step does to the jobs that are running.

Main results:

* `Pool.effect_of_transition` — **every step has one of the listed effects**;
* `Pool.rejecting_of_transition` — a closed pool refuses to begin the job that a worker holds.
-/

import Offload.Proofs.Pool.Lane

set_option autoImplicit false
set_option relaxedAutoImplicit false

namespace Offload.Pool

variable {ρ S : Type} {exec : Executor ρ S} {s s' : Scheduler ρ S} {move : Move} {e : Option Event}

/-! ### Workers -/

theorem worker?_of_lane {p : Pool ρ} {slot : Nat} {lane : Lane ρ}
    (hl : p.lanes[slot]? = some lane) : p.worker? slot = some lane.worker := by
  rw [worker?, hl, Option.map_some]

theorem worker?_setWorker_self {p : Pool ρ} {slot : Nat} {lane : Lane ρ} {worker : Worker ρ}
    (hl : p.lanes[slot]? = some lane) : (p.setWorker slot worker).worker? slot = some worker := by
  rw [worker?, setWorker, lanes_modifyLane_self hl, Option.map_some]

theorem worker?_setWorker_of_ne {p : Pool ρ} {slot i : Nat} {worker : Worker ρ} (hi : slot ≠ i) :
    (p.setWorker slot worker).worker? i = p.worker? i := by
  rw [worker?, setWorker, modifyLane, List.getElem?_modify_ne _ _ hi, worker?]

theorem worker?_of_modify {p p' : Pool ρ} {slot : Nat} {change : Lane ρ → Lane ρ}
    (hl : p'.lanes = p.lanes.modify slot change)
    (hchange : ∀ lane, (change lane).worker = lane.worker) (i : Nat) :
    p'.worker? i = p.worker? i := by
  rw [worker?, worker?, hl, List.getElem?_modify]
  by_cases hi : slot = i <;> cases p.lanes[i]? <;> simp [hi, hchange]

/-- A worker that is put elsewhere is running nothing, unless it is put there to run something. -/
theorem running_of_setWorker {p : Pool ρ} {slot i : Nat} {worker : Worker ρ} {job : Job} {run : ρ}
    (hworker : ∀ job run, worker ≠ .running job run)
    (h : (p.setWorker slot worker).worker? i = some (.running job run)) :
    p.worker? i = some (.running job run) := by
  by_cases hi : slot = i
  · subst hi
    obtain ⟨lane, hl, hw⟩ := Option.map_eq_some_iff.1 h
    obtain ⟨lane₀, -, rfl⟩ :
        ∃ lane₀, p.lanes[slot]? = some lane₀ ∧ { lane₀ with worker } = lane := by
      simpa [setWorker, modifyLane] using hl
    exact absurd hw (hworker job run)
  · rwa [worker?_setWorker_of_ne hi] at h

theorem not_running_fresh {slots : Nat} (i : Nat) (job : Job) (run : ρ) :
    (fresh slots : Pool ρ).worker? i ≠ some (.running job run) := by
  intro h
  obtain ⟨lane, hl, hw⟩ := Option.map_eq_some_iff.1 h
  have hmem : lane ∈ List.replicate slots Lane.idle := List.mem_of_getElem? hl
  rw [(List.mem_replicate.1 hmem).2] at hw
  cases hw

/-- What holds of all running jobs, after one worker has gone on. -/
theorem running_of_others {P : ρ → Prop} {p p' : Pool ρ} {slot : Nat} {worker : Worker ρ}
    (hrunning : ∀ i job run, p.worker? i = some (.running job run) → P run)
    (hself : p'.worker? slot = some worker) (hworker : ∀ job run, worker = .running job run → P run)
    (hothers : ∀ i, slot ≠ i → p'.worker? i = p.worker? i) (i : Nat) (job : Job) (run : ρ)
    (h : p'.worker? i = some (.running job run)) : P run := by
  by_cases hi : slot = i
  · subst hi
    exact hworker job run (Option.some_inj.1 (hself.symm.trans h))
  · rw [hothers i hi] at h
    exact hrunning i job run h

/-! ### Effects -/

/-- What a step does to the jobs that are running. -/
inductive Effect (exec : Executor ρ S) (s : Scheduler ρ S) (move : Move) (e : Option Event)
    (s' : Scheduler ρ S) : Prop
  /-- It has nothing to do with them. -/
  | calm (hmove : ∀ slot job run, move = .work slot →
        s.pool.worker? slot ≠ some (.running job run))
      (he : ∀ e', e = some e' → e'.isStart = false ∧ e'.isEnd = false)
      (hrunning : ∀ i job run, s'.pool.worker? i = some (.running job run) →
        s.pool.worker? i = some (.running job run))
      (hshared : s'.shared = s.shared ∨ ∃ level line, s'.shared = exec.note level line s.shared)
  | begin (slot : Nat) (job : Job) (hmove : move = .work slot)
      (hw : s.pool.worker? slot = some (.holding job)) (he : e = some (.begun job slot))
      (hshared : s'.shared = (exec.begin slot job.input s.shared).2)
      (hw' : s'.pool.worker? slot =
        some (.running job (exec.begin slot job.input s.shared).1))
      (hothers : ∀ i, slot ≠ i → s'.pool.worker? i = s.pool.worker? i)
  | goOn (slot : Nat) (job : Job) (run run' : ρ) (hmove : move = .work slot)
      (hw : s.pool.worker? slot = some (.running job run)) (he : e = none)
      (hstep : exec.step slot run s.shared = .continues run' s'.shared)
      (hw' : s'.pool.worker? slot = some (.running job run'))
      (hothers : ∀ i, slot ≠ i → s'.pool.worker? i = s.pool.worker? i)
  | return (slot : Nat) (job : Job) (run : ρ) (outcome : Outcome Bytes) (hmove : move = .work slot)
      (hw : s.pool.worker? slot = some (.running job run))
      (he : e = some (.returned job slot outcome))
      (hstep : exec.step slot run s.shared = .returned outcome s'.shared)
      (hw' : s'.pool.worker? slot = some (.finishing (.begin job outcome)))
      (hothers : ∀ i, slot ≠ i → s'.pool.worker? i = s.pool.worker? i)
  | die (slot : Nat) (job : Job) (run : ρ) (hmove : move = .work slot)
      (hw : s.pool.worker? slot = some (.running job run))
      (hstep : exec.step slot run s.shared = .died s'.shared)
      (hw' : s'.pool.worker? slot = some (.died job))
      (hothers : ∀ i, slot ≠ i → s'.pool.worker? i = s.pool.worker? i)

private theorem calm_of_still (hmove : ∀ slot, move ≠ .work slot)
    (he : ∀ e', e = some e' → e'.isStart = false ∧ e'.isEnd = false)
    (hworkers : ∀ i, s'.pool.worker? i = s.pool.worker? i)
    (hshared : s'.shared = s.shared ∨ ∃ level line, s'.shared = exec.note level line s.shared) :
    Effect exec s move e s' :=
  .calm (fun slot _ _ h => absurd h (hmove slot)) he (fun i _ _ h => hworkers i ▸ h) hshared

/-- A step of a worker that is not running. -/
private theorem calm_of_work {slot : Nat} {lane : Lane ρ} {worker : Worker ρ}
    (hl : s.pool.lanes[slot]? = some lane) (hlane : ∀ job run, lane.worker ≠ .running job run)
    (hworker : ∀ job run, worker ≠ .running job run)
    (he : ∀ e', e = some e' → e'.isStart = false ∧ e'.isEnd = false)
    (hpool : ∀ i job run, s'.pool.worker? i = some (.running job run) →
      (s.pool.setWorker slot worker).worker? i = some (.running job run))
    (hshared : s'.shared = s.shared ∨ ∃ level line, s'.shared = exec.note level line s.shared) :
    Effect exec s (.work slot) e s' := by
  refine .calm ?_ he (fun i job run h => running_of_setWorker hworker (hpool i job run h)) hshared
  rintro _ job run ⟨⟩ hw
  rw [worker?_of_lane hl] at hw
  exact hlane job run (Option.some_inj.1 hw)

theorem finishing_still {slot : Nat} {f : Finish} {f' : Option Finish}
    (hf : Scheduler.Finishing s slot f f' e s') :
    (∀ i, s'.pool.worker? i = s.pool.worker? i) ∧ s'.shared = s.shared ∧
      ∀ e', e = some e' → e'.isStart = false ∧ e'.isEnd = false := by
  cases hf with
  | count job outcome => cases outcome <;> exact ⟨fun _ => rfl, rfl, by simp⟩
  | leave =>
      refine ⟨worker?_of_modify rfl ?_, rfl, by simp⟩
      exact fun _ => rfl
  | resolve => exact ⟨fun _ => rfl, rfl, by rintro e' ⟨⟩; exact ⟨rfl, rfl⟩⟩
  | wake => exact ⟨fun _ => rfl, rfl, by simp⟩

/-- **Every step has one of the listed effects.** -/
theorem effect_of_transition (ht : Scheduler.Transition exec s move e s') :
    Effect exec s move e s' := by
  cases ht with
  | lock | enter | glanceFree | glanceBusy | scanFree | scanBusy | scanOut | countSubmitted
  | closeAgain | close | joined | drainNext | drained =>
      exact calm_of_still (by simp) (by simp) (fun _ => rfl) (Or.inl rfl)
  | refuse =>
      exact calm_of_still (by simp) (by rintro e' ⟨⟩; exact ⟨rfl, rfl⟩) (fun _ => rfl) (Or.inl rfl)
  | enlist | deepen | drainFind =>
      refine calm_of_still (by simp) (by simp) (worker?_of_modify rfl ?_) (Or.inl rfl)
      exact fun _ => rfl
  | accept =>
      refine calm_of_still (by simp) (by rintro e' ⟨⟩; exact ⟨rfl, rfl⟩)
        (worker?_of_modify rfl ?_) (Or.inl rfl)
      exact fun _ => rfl
  | join next lane hc hl hw shared hshared =>
      exact calm_of_still (by simp) (by simp) (fun _ => rfl)
        (hshared.imp_right fun h => h.elim fun line h => ⟨.warn, line, h⟩)
  | drainFinish slot f f' e t hc hf =>
      obtain ⟨hworkers, hshared, he⟩ := finishing_still hf
      exact calm_of_still (by simp) he hworkers (Or.inl hshared)
  -- workers without a job: all that they do to the shared state is to log
  | start slot lane hl hw line | stop slot lane hl hw line =>
      exact calm_of_work hl (by simp [hw]) (by simp) (by simp) (fun _ _ _ h => h)
        (Or.inr ⟨_, line, rfl⟩)
  | miss slot lane hl hw | reject slot lane job hl hw | doubtOpen slot lane hl hw
  | doubtClosed slot lane hl hw =>
      exact calm_of_work hl (by simp [hw]) (by simp) (by simp) (fun _ _ _ h => h) (Or.inl rfl)
  | find slot lane job queue hl hw hq =>
      have hholding : ∀ job' run, (.holding job : Worker ρ) ≠ .running job' run := by simp
      refine calm_of_work hl (by simp [hw]) hholding (by simp) ?_ (Or.inl rfl)
      intro i job' run h
      rw [← h, worker?, worker?, setWorker, modifyLane, modifyLane, List.getElem?_modify,
        List.getElem?_modify]
      by_cases hi : slot = i <;> cases s.pool.lanes[i]? <;> simp [hi]
  | finish slot lane f f' e t hl hw hf =>
      -- whatever is left of finishing the job, the worker is not running after it
      obtain ⟨hworkers, hshared, he⟩ := finishing_still hf
      refine .calm ?_ he (fun i job run h => ?_) (Or.inl hshared)
      · rintro _ job run ⟨⟩ h
        rw [worker?_of_lane hl, hw] at h
        cases h
      · rw [← hworkers i]
        refine running_of_setWorker (fun job run => ?_) h
        cases f' <;> simp [Worker.afterFinish]
  | begin slot lane job hl hw hopen =>
      exact .begin slot job rfl (by rw [worker?_of_lane hl, hw]) rfl rfl (worker?_setWorker_self hl)
        fun i hi => worker?_setWorker_of_ne hi
  | goOn slot lane job run run' shared hl hw hstep =>
      exact .goOn slot job run run' rfl (by rw [worker?_of_lane hl, hw]) rfl hstep
        (worker?_setWorker_self hl) fun i hi => worker?_setWorker_of_ne hi
  | «return» slot lane job run outcome shared hl hw hstep =>
      exact .return slot job run outcome rfl (by rw [worker?_of_lane hl, hw]) rfl hstep
        (worker?_setWorker_self hl) fun i hi => worker?_setWorker_of_ne hi
  | die slot lane job run shared hl hw hstep =>
      exact .die slot job run rfl (by rw [worker?_of_lane hl, hw]) hstep (worker?_setWorker_self hl)
        fun i hi => worker?_setWorker_of_ne hi

/-! ### The steps of one worker -/

theorem worker?_of_transition (ht : Scheduler.Transition exec s move e s') {i : Nat}
    (hmove : move ≠ .work i) : s'.pool.worker? i = s.pool.worker? i := by
  cases ht with
  | lock | refuse | enter | glanceFree | glanceBusy | scanFree | scanBusy | scanOut | countSubmitted
  | closeAgain | close | join | joined | drainNext | drained => rfl
  | enlist | deepen | accept | drainFind =>
      refine worker?_of_modify rfl ?_ i
      exact fun _ => rfl
  | drainFinish slot f f' e t hc hf => exact (finishing_still hf).1 i
  | finish slot lane f f' e t hl hw hf =>
      have hne : slot ≠ i := fun h => hmove (congrArg Move.work h)
      exact (worker?_setWorker_of_ne hne).trans ((finishing_still hf).1 i)
  | find slot lane job queue hl hw hq =>
      have hne : slot ≠ i := fun h => hmove (congrArg Move.work h)
      simp only [worker?, modifyLane, List.getElem?_modify_ne _ _ hne]
  | start slot | miss slot | reject slot | begin slot | goOn slot | «return» slot | die slot
  | doubtOpen slot | doubtClosed slot | stop slot =>
      have hne : slot ≠ i := fun h => hmove (congrArg Move.work h)
      exact worker?_setWorker_of_ne hne

theorem finishing_of_transition {i : Nat} {f : Finish}
    (hw : s.pool.worker? i = some (.finishing f))
    (ht : Scheduler.Transition exec s (.work i) e s') :
    ∃ f' t, Scheduler.Finishing s i f f' e t ∧ s'.pool.worker? i = some (.afterFinish f') := by
  have hlane {lane : Lane ρ} (hl : s.pool.lanes[i]? = some lane) : lane.worker = .finishing f := by
    rw [worker?_of_lane hl] at hw
    exact Option.some_inj.1 hw
  cases ht with
  | finish slot lane f₀ f' e t hl hw₀ hf =>
      obtain rfl : f₀ = f := by
        have h := hw₀.symm.trans (hlane hl)
        injection h
      obtain ⟨lane', hl', -⟩ := Option.map_eq_some_iff.1
        (((finishing_still hf).1 i).trans (worker?_of_lane hl))
      exact ⟨f', t, hf, worker?_setWorker_self hl'⟩
  -- all other moves of this worker begin elsewhere
  | start _ _ hl hw₀ | miss _ _ hl hw₀ | find _ _ _ _ hl hw₀ | reject _ _ _ hl hw₀
  | begin _ _ _ hl hw₀ | goOn _ _ _ _ _ _ hl hw₀ | «return» _ _ _ _ _ _ hl hw₀
  | die _ _ _ _ _ hl hw₀ | doubtOpen _ _ hl hw₀ | doubtClosed _ _ hl hw₀ | stop _ _ hl hw₀ =>
      cases hw₀.symm.trans (hlane hl)

/-- A worker that holds a job of a closed pool refuses to begin it. -/
theorem rejecting_of_transition {i : Nat} {job : Job} (hw : s.pool.worker? i = some (.holding job))
    (hclosed : s.pool.closed = true) (ht : Scheduler.Transition exec s (.work i) e s') :
    s'.pool.worker? i = some (.finishing (.begin job (.error .closed))) := by
  have hlane {lane : Lane ρ} (hl : s.pool.lanes[i]? = some lane) : lane.worker = .holding job := by
    rw [worker?_of_lane hl] at hw
    exact Option.some_inj.1 hw
  cases ht with
  | reject slot lane job' hl hw₀ =>
      cases hw₀.symm.trans (hlane hl)
      exact worker?_setWorker_self hl
  | begin slot lane job' hl hw₀ hopen =>
      exact absurd (hopen.symm.trans hclosed) Bool.false_ne_true
  -- all other moves of this worker begin elsewhere
  | start _ _ hl hw₀ | miss _ _ hl hw₀ | find _ _ _ _ hl hw₀ | goOn _ _ _ _ _ _ hl hw₀
  | «return» _ _ _ _ _ _ hl hw₀ | die _ _ _ _ _ hl hw₀ | finish _ _ _ _ _ _ hl hw₀
  | doubtOpen _ _ hl hw₀ | doubtClosed _ _ hl hw₀ | stop _ _ hl hw₀ =>
      cases hw₀.symm.trans (hlane hl)

theorem not_begun_of_closed (hclosed : s.pool.closed = true)
    (ht : Scheduler.Transition exec s move e s') (job : Job) (i : Nat) :
    e ≠ some (.begun job i) := by
  rintro rfl
  cases ht with
  | begin slot lane job hl hw hopen => exact absurd (hopen.symm.trans hclosed) Bool.false_ne_true
  | finish _ _ _ _ _ _ _ _ hf | drainFinish _ _ _ _ _ _ hf => cases hf

theorem isSome_step_of_holding {i : Nat} {job : Job}
    (hw : s.pool.worker? i = some (.holding job)) : (s.step exec (.work i)).isSome = true := by
  obtain ⟨lane, hl, hlane⟩ := Option.map_eq_some_iff.1 hw
  simp only [Scheduler.step, hl, Option.bind_some, Scheduler.work, hlane]
  split <;> rfl

theorem isSome_step_of_running {i : Nat} {job : Job} {run : ρ}
    (hw : s.pool.worker? i = some (.running job run))
    (hstep : exec.step i run s.shared ≠ .blocked) :
    (s.step exec (.work i)).isSome = true := by
  obtain ⟨lane, hl, hlane⟩ := Option.map_eq_some_iff.1 hw
  simp only [Scheduler.step, hl, Option.bind_some, Scheduler.work, hlane]
  cases hs : exec.step i run s.shared with
  | blocked => exact absurd hs hstep
  | _ => rfl

theorem isSome_step_of_finishing {i : Nat} {f : Finish}
    (hw : s.pool.worker? i = some (.finishing f)) : (s.step exec (.work i)).isSome = true := by
  obtain ⟨lane, hl, hlane⟩ := Option.map_eq_some_iff.1 hw
  simp only [Scheduler.step, hl, Option.bind_some, Scheduler.work, hlane]
  split <;> rfl

end Offload.Pool
