/-
**Begun jobs come to their end.**

A job that has been begun is resolved once its worker has made a bounded number of steps, whatever
everybody else does meanwhile, unless its slot is held or made busy again.  Until then its worker
can always go on.

Main definitions:

* `Station.Turn.isWork`, `Station.Turn.hinders` — the steps of one worker, and what may hinder it;
* `Station.Run.IsPaced` — **the invariant**: every running exchange is near its end;
* `Station.Due` — a job is resolved once its worker has made a number of steps.

Main results:

* `Station.Due.work`, `Station.Due.aside` — every step of the worker counts, and no other turn
  hurts;
* `Station.Run.counted_down` — a count of the steps of a worker comes to its end;
* `Station.Due.resolved_of_turns` — **so the job is resolved in the end**.
-/

import Offload.Proofs.Device.Bounded
import Offload.Proofs.Dispatcher.SlotTurn

set_option autoImplicit false
set_option relaxedAutoImplicit false

namespace Offload.Station

open Native Simulator

/-! ### Turns that hinder nobody -/

/-- A step of the worker of a slot. -/
def Turn.isWork (i : Nat) : Turn → Bool
  | .move (.work j) => j = i
  | _ => false

theorem Turn.eq_work {i : Nat} {t : Turn} (h : t.isWork i = true) : t = .move (.work i) := by
  cases t with
  | move move =>
      cases move with
      | work j => rw [show j = i by simpa [isWork] using h]
      | _ => cases h
  | _ => cases h

/-- What may keep the jobs of a slot waiting: holding the slot, and making it busy. -/
def Turn.hinders (i : Nat) : Turn → Bool
  | .hook h => h.hinders (UInt32.ofNat i)
  | _ => false

variable {compute : UInt32 → Bytes → Bytes} {setup : Setup} {n : Nat} {r r' : Run}
  {i : Nat} {job : Pool.Job} {run : Exchange.Run} {t : Turn}

/-- The slots that a step of a running job leaves behind keep nobody waiting. -/
theorem eases_of_continues {slot : UInt32} {run' : Exchange.Run}
    {site site' : Exchange.Site Simulator}
    (hstep : Exchange.step (driver compute) i run site = .continues run' site') :
    Eases slot site.world.driver site'.world.driver := by
  cases Exchange.stepped_of_step hstep with
  | again | enter => exact .refl _ _
  | answer o next => exact Exchange.eases_answered compute slot run.entered o site.world

/-- **A step of the station keeps nobody waiting.** -/
theorem SlotInv.eases (ho : SlotInv setup n r) {slot : UInt32} {l : Ledger} {move : Move}
    {e : Option Pool.Event} {s : Station Simulator}
    (ht : Transition (driver compute) patience (r.withLedger l).station move e s) :
    Eases slot r.device s.world.driver := by
  cases ht with
  | pool _ _ _ _ _ q hd hq =>
      show Eases slot r.device q.shared.world.driver
      obtain ⟨-, hdriver⟩ | ⟨j, job, run, hw, ⟨run', hstep⟩ | hstep⟩ :=
        Exchange.still_or_running hq
      · rw [hdriver]
        exact .refl _ _
      · exact eases_of_continues hstep
      · exact absurd hstep (ho.keeps.not_died hw _)
  | closing o => exact Exchange.eases_answered compute slot false o r.station.world
  | _ => exact .refl _ _

/-- **A turn that does not hinder a slot keeps its jobs waiting no longer.** -/
theorem SlotInv.eases_turn (ho : SlotInv setup n r) (ht : r.turn compute t = some r')
    (hh : t.hinders i = false) : Eases (UInt32.ofNat i) r.device r'.device := by
  cases Run.turned_of_turn ht with
  | execute input e s hstep => exact ho.eases hstep
  | move move e s hmove hstep => exact ho.eases (l := r.station.ledger) hstep
  | hook hook s h => exact hook.eases hh h
  | operate o ho => exact Exchange.eases_answered compute _ false o r.station.world
  | look | take => exact .refl _ _

/-! ### Running exchanges are near their ends -/

/-- Every running exchange is near its end: how near depends on how busy its slot is. -/
def Run.IsPaced (r : Run) : Prop :=
  ∀ i job run, r.pool.worker? i = some (.running job run) →
    ∃ polls m, Exchange.Nears polls run.rest m

theorem isPaced_start {d : Dispatcher} {w : World Simulator} (hd : d.IsUp setup) :
    (Run.start d w).IsPaced :=
  fun i job run hw => absurd hw (Run.not_running_start hd w i job run)

/-- **Every turn keeps every running exchange near its end.** -/
theorem SlotInv.isPaced_turn (ho : SlotInv setup n r) (hp : r.IsPaced)
    (ht : r.turn compute t = some r') : r'.IsPaced := by
  intro i job run hw
  cases ho.slotTurn ht i with
  | aside _ _ _ _ _ hrunning => exact hp i job run (hrunning job run hw).1
  | begin _ _ hw' =>
      cases hw'.symm.trans hw
      exact ⟨0, _, Exchange.nears_deviceRound _ _ _ 0⟩
  | goOn _ run₀ _ _ hw₀ hw' hstep =>
      cases hw'.symm.trans hw
      -- the bound itself does not matter here, so it may be that of the present state
      obtain ⟨polls, m, hnear⟩ := hp i job run₀ hw₀
      obtain ⟨m', hnear', -⟩ := (hnear.renew _).continues (ho.keeps.about hw₀) hstep
      exact ⟨_, m', hnear'⟩
  | «return» _ _ _ _ _ hw' => cases hw'.symm.trans hw

/-! ### Jobs that are due -/

/-- How many steps are left until a job is resolved. -/
def stepsLeft : Pool.FinishStep → Nat
  | .count => 3
  | .leave => 2
  | .resolve => 1
  | .wake _ => 0

theorem stepsLeft_pos {f : Pool.Finish} (hhand : f.hand ≠ []) : 0 < stepsLeft f.next := by
  obtain ⟨job, outcome, next⟩ := f
  cases next with
  | wake => exact absurd rfl hhand
  | _ => simp [stepsLeft]

/-- A job is resolved, or it will be once its worker has made `n` steps, unless its slot is held. -/
inductive Due (r : Run) (i : Nat) (job : Pool.Job) (n : Nat) : Prop
  | running (run : Exchange.Run) (m : Nat) (hw : r.pool.worker? i = some (.running job run))
      (hnear : Exchange.Nears (r.device.busyPolls (UInt32.ofNat i)) run.rest m) (hle : m + 4 ≤ n)
  | finishing (f : Pool.Finish) (hw : r.pool.worker? i = some (.finishing f)) (hjob : f.job = job)
      (hhand : f.hand ≠ []) (hle : stepsLeft f.next ≤ n)
  | resolved (outcome : Outcome Bytes) (h : Pool.Event.resolved job i outcome ∈ r.history)

theorem Due.weaken {m : Nat} (hd : Due r i job n) (h : n ≤ m) : Due r i job m := by
  cases hd with
  | running run m' hw hnear hle => exact .running run m' hw hnear (Nat.le_trans hle h)
  | finishing f hw hjob hhand hle => exact .finishing f hw hjob hhand (Nat.le_trans hle h)
  | resolved outcome h => exact .resolved outcome h

/-- **A job that has been begun is due.** -/
theorem SlotInv.due (ho : SlotInv setup n r) (halive : ∀ job i, Pool.Event.died job i ∉ r.history)
    (hp : r.IsPaced) (hbegun : Pool.Event.begun job i ∈ r.history) :
    Due r i job (Exchange.effort (r.device.busyPolls (UInt32.ofNat i))) := by
  have heffort := Exchange.le_effort (r.device.busyPolls (UInt32.ofNat i))
  obtain ⟨lane, hl, hc⟩ := ho.sound.custody_of_accepted (ho.sound.accepted_of_mem hbegun rfl)
  have hworker : r.pool.worker? i = some lane.worker := Pool.worker?_of_lane hl
  -- a begun job has left its slot, or its worker has it
  rcases List.mem_append.1 (hc.begun_prefix.subset (Pool.mem_begun.2 hbegun)) with h | h
  · rcases Pool.mem_settled.1 h with h | h
    · obtain ⟨outcome, h⟩ := Pool.mem_resolved.1 h
      exact .resolved outcome h
    · exact absurd (Pool.mem_died.1 h) (halive job i)
  · cases hw : lane.worker with
    | running job' run =>
        rw [hw] at h hworker
        obtain rfl : job = job' := List.mem_singleton.1 h
        obtain ⟨polls, m, hnear⟩ := hp i job run hworker
        exact .running run _ hworker (hnear.renew _) heffort
    | finishing f =>
        rw [hw] at h hworker
        have hjob : f.job = job ∧ stepsLeft f.next ≤ 3 := by
          obtain ⟨job', outcome, next⟩ := f
          cases next with
          | wake => cases h
          | _ => exact ⟨(List.mem_singleton.1 h).symm, by simp [stepsLeft]⟩
        exact .finishing f hworker hjob.1 (List.ne_nil_of_mem h) (by omega)
    | _ =>
        rw [hw] at h
        cases h

/-! ### The steps of the worker -/

theorem Run.work_cases (ht : r.turn compute (.move (.work i)) = some r') :
    ∃ e q, Pool.Scheduler.Transition (executor (driver compute) patience) r.station.scheduler
        (.work i) e q ∧ r'.pool = q.pool ∧ r'.device = q.shared.world.driver ∧
      r'.history = r.history ++ e.toList := by
  obtain ⟨⟨s, e⟩, hstep, rfl⟩ := Option.map_eq_some_iff.1 ht
  obtain ⟨q, hq, rfl⟩ := poolStep_eq hstep
  exact ⟨e, q, hq, rfl, rfl, rfl⟩

/-- A worker that is finishing a job is one step nearer to its resolution. -/
theorem Run.finishing_work (ht : r.turn compute (.move (.work i)) = some r') {f : Pool.Finish}
    (hw : r.pool.worker? i = some (.finishing f)) (hhand : f.hand ≠ []) :
    (∃ f', r'.pool.worker? i = some (.finishing f') ∧ f'.job = f.job ∧ f'.hand ≠ [] ∧
      stepsLeft f'.next + 1 = stepsLeft f.next) ∨
    ∃ outcome, Pool.Event.resolved f.job i outcome ∈ r'.history := by
  obtain ⟨e, q, hq, hpool, -, hhistory⟩ := Run.work_cases ht
  obtain ⟨f', t, hf, hw'⟩ := Pool.finishing_of_transition hw hq
  rw [← hpool] at hw'
  cases hf with
  | count | leave => exact Or.inl ⟨_, hw', rfl, by simp [Pool.Finish.hand], rfl⟩
  | resolve job outcome =>
      refine Or.inr ⟨outcome, ?_⟩
      rw [hhistory]
      exact List.mem_append_right _ (List.mem_singleton_self _)
  | wake => exact absurd rfl hhand

/-- **Every step of the worker counts.** -/
theorem Due.work (hd : Due r i job (n + 1)) {size : Nat} (ho : SlotInv setup size r)
    (hheld : r.device.isHeld (UInt32.ofNat i) = false)
    (ht : r.turn compute (.move (.work i)) = some r') : Due r' i job n := by
  obtain ⟨e, q, hq, hpool, hdevice, hhistory⟩ := Run.work_cases ht
  cases hd with
  | running run m hw hnear hle =>
      cases Pool.effect_of_transition hq with
      | calm hmove => exact absurd hw (hmove i job run rfl)
      | begin _ _ hmove hw₀ =>
          cases hmove
          cases hw.symm.trans hw₀
      | goOn _ _ _ run' hmove hw₀ _ hstep hw' =>
          cases hmove
          cases hw.symm.trans hw₀
          obtain ⟨m', hnear', -, hlt⟩ := hnear.continues (ho.keeps.about hw) hstep
          -- a slot that is not held lets every step count
          have hm : m' < m := hlt hheld
          rw [← hpool] at hw'
          rw [← hdevice] at hnear'
          exact .running run' m' hw' hnear' (by omega)
      | «return» _ _ _ outcome hmove hw₀ _ _ hw' =>
          cases hmove
          cases hw.symm.trans hw₀
          rw [← hpool] at hw'
          have hleft : stepsLeft (Pool.Finish.begin job outcome).next = 3 := rfl
          exact .finishing _ hw' rfl (by simp) (by omega)
      | die _ _ _ hmove hw₀ hstep =>
          cases hmove
          cases hw.symm.trans hw₀
          exact absurd hstep (ho.keeps.not_died hw _)
  | finishing f hw hjob hhand hle =>
      rcases Run.finishing_work ht hw hhand with ⟨f', hw', hjob', hhand', hleft⟩ | ⟨outcome, h⟩
      · exact .finishing f' hw' (hjob'.trans hjob) hhand' (by omega)
      · exact .resolved outcome (hjob ▸ h)
  | resolved outcome h =>
      refine .resolved outcome ?_
      rw [hhistory]
      exact List.mem_append_left _ h

/-- **The worker of a job that is due can go on**, unless its slot is held. -/
theorem Due.isSome_turn_work (hd : Due r i job n) {size : Nat} (ho : SlotInv setup size r)
    (hheld : r.device.isHeld (UInt32.ofNat i) = false) :
    (∃ outcome, Pool.Event.resolved job i outcome ∈ r.history) ∨
      (r.turn compute (.move (.work i))).isSome = true := by
  have hturn (h : (r.station.scheduler.step (executor (driver compute) patience)
      (.work i)).isSome = true) : (r.turn compute (.move (.work i))).isSome = true := by
    simpa [Run.turn, Move.isExecution, step, poolStep] using h
  cases hd with
  | running run m hw hnear =>
      refine Or.inr (hturn (Pool.isSome_step_of_running hw ?_))
      exact Exchange.not_blocked_of_not_held hheld (ho.keeps.about hw)
  | finishing f hw => exact Or.inr (hturn (Pool.isSome_step_of_finishing hw))
  | resolved outcome h => exact Or.inl ⟨outcome, h⟩

/-! ### All other turns -/

theorem worker?_of_transition {s s' : Station Simulator} {move : Move} {e : Option Pool.Event}
    (ht : Transition (driver compute) patience s move e s') (hmove : move ≠ .work i) :
    s'.dispatcher.pool.worker? i = s.dispatcher.pool.worker? i := by
  cases ht with
  | pool _ poolMove _ _ _ q hd hq =>
      refine Pool.worker?_of_transition hq ?_
      rintro rfl
      cases hd
      exact hmove rfl
  | _ => rfl

theorem Run.history_subset_turn (ht : r.turn compute t = some r') : r.history ⊆ r'.history := by
  rcases Run.turn_cases ht with ⟨l, move, e, s, -, rfl⟩ | hstill
  · exact List.subset_append_left _ _
  · rw [hstill.history]
    exact List.Subset.refl _

theorem Run.history_subset {ts : List Turn} (hr : turns compute ts r = some r') :
    r.history ⊆ r'.history :=
  foldlM_induction (motive := fun r' => r.history ⊆ r'.history) hr (List.Subset.refl _)
    fun _ _ _ hsub ht => List.Subset.trans hsub (history_subset_turn ht)

/-- No turn but its own steps moves a worker. -/
theorem Run.worker?_turn (ht : r.turn compute t = some r') (hwork : t.isWork i = false) :
    r'.pool.worker? i = r.pool.worker? i := by
  cases Run.turned_of_turn ht with
  | execute input e s hstep =>
      have hworker := worker?_of_transition (i := i) hstep (by simp)
      exact hworker
  | move move e s hmove hstep =>
      refine worker?_of_transition hstep ?_
      rintro rfl
      simp [Turn.isWork] at hwork
  | hook | operate | look | take => rfl

/-- **No other turn hurts**, unless it hinders the slot. -/
theorem Due.aside (hd : Due r i job n) {size : Nat} (ho : SlotInv setup size r)
    (ht : r.turn compute t = some r') (hwork : t.isWork i = false) (hh : t.hinders i = false) :
    Due r' i job n := by
  have hworker := Run.worker?_turn ht hwork
  cases hd with
  | running run m hw hnear hle =>
      have hpolls := (ho.eases_turn ht hh).polls
      exact .running run m (hworker.trans hw) (hnear.mono hpolls (Nat.le_refl m)) hle
  | finishing f hw hjob hhand hle => exact .finishing f (hworker.trans hw) hjob hhand hle
  | resolved outcome h => exact .resolved outcome (Run.history_subset_turn ht h)

/-! ### Runs -/

/-- **A count of the steps of a worker comes to its end**: each of them counts down, and no other
turn counts up. -/
theorem Run.counted_down {P : Nat → Run → Prop} {allowed : Turn → Prop}
    (hweaken : ∀ r, P 0 r → P 1 r)
    (hwork : ∀ n r r', P (n + 1) r → r.turn compute (.move (.work i)) = some r' → P n r')
    (haside : ∀ n r r' t, P n r → r.turn compute t = some r' → t.isWork i = false → allowed t →
      P n r')
    {ts : List Turn} (h : P n r) (hr : Run.turns compute ts r = some r')
    (hallowed : ∀ t ∈ ts, allowed t) (hn : n ≤ ts.countP (Turn.isWork i)) : P 0 r' := by
  induction ts generalizing r n with
  | nil =>
      obtain rfl : r = r' := Option.some_inj.1 hr
      obtain rfl : n = 0 := Nat.le_zero.1 hn
      exact h
  | cons t ts ih =>
      obtain ⟨r₁, ht, hr₁⟩ := Option.bind_eq_some_iff.1 hr
      rw [List.forall_mem_cons] at hallowed
      rw [List.countP_cons] at hn
      cases hown : t.isWork i with
      | false =>
          rw [hown] at hn
          exact ih (haside n r r₁ t h ht hown hallowed.1) hr₁ hallowed.2 hn
      | true =>
          obtain rfl := Turn.eq_work hown
          rw [hown, if_pos rfl] at hn
          cases n with
          | zero => exact ih (hwork 0 r r₁ (hweaken r h) ht) hr₁ hallowed.2 (Nat.zero_le _)
          | succ n => exact ih (hwork n r r₁ h ht) hr₁ hallowed.2 (by omega)

theorem Due.resolved_of_zero (hd : Due r i job 0) :
    ∃ outcome, Pool.Event.resolved job i outcome ∈ r.history := by
  cases hd with
  | running _ _ _ _ hle => omega
  | finishing f _ _ hhand hle => exact absurd (stepsLeft_pos hhand) (by omega)
  | resolved outcome h => exact ⟨outcome, h⟩

/-- A slot that is not held stays so, unless somebody hinders it. -/
theorem SlotInv.isHeld_turn {size : Nat} (ho : SlotInv setup size r)
    (hheld : r.device.isHeld (UInt32.ofNat i) = false) (ht : r.turn compute t = some r')
    (hh : t.hinders i = false) : r'.device.isHeld (UInt32.ofNat i) = false := by
  refine Bool.eq_false_iff.2 fun h => ?_
  exact Bool.false_ne_true (hheld.symm.trans ((ho.eases_turn ht hh).held h))

/-- **A job that is due is resolved in the end**: when its worker has made as many steps as it
takes, whatever else has happened, unless its slot was held or made busy again. -/
theorem Due.resolved_of_turns {motive : Run → Prop} {size : Nat}
    (hmotive : ∀ r, motive r → SlotInv setup size r)
    (hturn : ∀ r r' t, motive r → r.turn compute t = some r' → motive r') {ts : List Turn}
    (hd : Due r i job n) (hr₀ : motive r)
    (hheld : r.device.isHeld (UInt32.ofNat i) = false) (hr : Run.turns compute ts r = some r')
    (hh : ∀ t ∈ ts, t.hinders i = false) (hn : n ≤ ts.countP (Turn.isWork i)) :
    ∃ outcome, Pool.Event.resolved job i outcome ∈ r'.history := by
  have hend := Run.counted_down
    (P := fun n r => Due r i job n ∧ motive r ∧ r.device.isHeld (UInt32.ofNat i) = false)
    (fun _ h => ⟨h.1.weaken (Nat.zero_le 1), h.2⟩) (fun n r r' h ht => ?_)
    (fun n r r' t h ht hown hht => ?_) ⟨hd, hr₀, hheld⟩ hr hh hn
  · exact hend.1.resolved_of_zero
  · obtain ⟨hd, hm, hheld⟩ := h
    exact ⟨hd.work (hmotive r hm) hheld ht, hturn r r' _ hm ht,
      (hmotive r hm).isHeld_turn hheld ht rfl⟩
  · obtain ⟨hd, hm, hheld⟩ := h
    exact ⟨hd.aside (hmotive r hm) ht hown hht, hturn r r' t hm ht,
      (hmotive r hm).isHeld_turn hheld ht hht⟩

end Offload.Station
