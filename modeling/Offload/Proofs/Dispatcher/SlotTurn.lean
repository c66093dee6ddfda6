/-
**What a turn does to one slot.**

As long as running jobs keep to their slots, what a turn does to one slot is one of four things: its
job begins, goes on, or returns, or the turn leaves alone all that the slot and its running job hold.

Main definitions:

* `Station.SlotInv` — the pool is sound, the dispatcher keeps its invariant, and running jobs keep
  to their slots;
* `Station.SlotTurn` — what a turn can do to one slot.

Main results:

* `Station.SlotInv.deviceInv_turn` — every turn keeps the invariant of the dispatcher;
* `Station.SlotInv.slotTurn` — **what every turn does to every slot**.
-/

import Offload.Proofs.Dispatcher.Jobs

set_option autoImplicit false
set_option relaxedAutoImplicit false

namespace Offload.Station

open Native Simulator

/-- A run in which running jobs keep to their slots. -/
structure SlotInv (setup : Setup) (n : Nat) (r : Run) : Prop where
  sound : r.IsSound
  deviceInv : DeviceInv setup n r.station
  keeps : KeepsToSlots r.station

/-- What a turn can do to one slot. -/
inductive SlotTurn (compute : UInt32 → Bytes → Bytes) (i : Nat) (r r' : Run) : Prop
  /-- It leaves alone what the slot holds, and what its running job sees. -/
  | aside (hcontent : r'.device.content? i = r.device.content? i)
      (hhistory : ∀ e ∈ r'.history, e.slot? = some i → e.isStart = true ∨ e.isEnd = true →
        e ∈ r.history)
      (hbegun : Pool.begun i r'.history = Pool.begun i r.history)
      (hended : Pool.ended i r'.history = Pool.ended i r.history)
      (hacts : ∀ job ∈ Pool.begun i r.history, r'.acts job = r.acts job)
      (hrunning : ∀ job run, r'.pool.worker? i = some (.running job run) →
        r.pool.worker? i = some (.running job run) ∧ r'.device.sight i = r.device.sight i)
  /-- Its worker begins the job that it holds. -/
  | begin (job : Pool.Job) (hw : r.pool.worker? i = some (.holding job))
      (hw' : r'.pool.worker? i =
        some (.running job (Exchange.begin i job.input r.station.scheduler.shared).1))
      (hdevice : r'.device = r.device) (hhistory : r'.history = r.history ++ [.begun job i])
      (hdeeds : r'.deeds = r.deeds)
  /-- Its job makes a step. -/
  | goOn (job : Pool.Job) (run run' : Exchange.Run) (site : Exchange.Site Simulator)
      (hw : r.pool.worker? i = some (.running job run))
      (hw' : r'.pool.worker? i = some (.running job run'))
      (hstep : Exchange.step (driver compute) i run r.station.scheduler.shared =
        .continues run' site)
      (hdevice : r'.device = site.world.driver) (hhistory : r'.history = r.history)
      (hdeeds : r'.deeds =
        r.deeds ++ (actsOf compute run r.station.world).map fun act => ⟨job, act⟩)
  /-- Its job returns. -/
  | return (job : Pool.Job) (run : Exchange.Run) (outcome : Outcome Bytes)
      (hw : r.pool.worker? i = some (.running job run)) (hrest : run.rest = .done (some outcome))
      (hw' : r'.pool.worker? i = some (.finishing (.begin job outcome)))
      (hdevice : r'.device = r.device)
      (hhistory : r'.history = r.history ++ [.returned job i outcome])
      (hdeeds : r'.deeds = r.deeds)

variable {compute : UInt32 → Bytes → Bytes} {setup : Setup} {n : Nat} {r r' : Run} {i : Nat}

namespace SlotInv

theorem keepsToSlots (ho : SlotInv setup n r) (l : Ledger) :
    KeepsToSlots (r.withLedger l).station := ho.keeps

/-- Every turn keeps the invariant of the dispatcher. -/
theorem deviceInv_turn (ho : SlotInv setup n r) {t : Turn} (ht : r.turn compute t = some r') :
    DeviceInv setup n r'.station := by
  rcases Run.turn_cases ht with ⟨l, move, e, s, hstep, rfl⟩ | hstill
  · have hdeviceInv : DeviceInv setup n (r.withLedger l).station := ho.deviceInv.still rfl rfl
    exact hdeviceInv.transition ho.sound.phased (ho.keepsToSlots l).keepsOpen hstep
  · exact ho.deviceInv.still hstill.dispatcher hstill.outline

/-! ### What every turn leaves alone -/

theorem session_eq (ho : SlotInv setup n r) {w : Pool.Worker Exchange.Run}
    (hw : r.pool.worker? i = some w) (halive : w.hasEnded = false) :
    r.station.dispatcher.device.session = some ⟨token, n⟩ :=
  ho.deviceInv.session (ho.deviceInv.early_of_alive ho.sound hw halive)

/-- Where a job was accepted, the session is one with the size of the regions. -/
theorem session_of_fits (ho : SlotInv setup n r) (hf : r.Fits n)
    (hn : n = setup.bufferSize.toNat ∨ n = 0) {job : Pool.Job} {j : Nat}
    (hacc : Pool.Event.accepted job j ∈ r.history) {w : Pool.Worker Exchange.Run}
    (hw : r.pool.worker? i = some w) (halive : w.hasEnded = false) :
    r.station.dispatcher.device.session = some ⟨token, setup.bufferSize.toNat⟩ := by
  rw [← (hf.size_eq hn hacc).1]
  exact ho.session_eq hw halive

theorem sight_eq (ho : SlotInv setup n r) {w : Pool.Worker Exchange.Run}
    (hw : r.pool.worker? i = some w) (halive : w.hasEnded = false) :
    r.device.sight i = ⟨setup, true, r.device.content? i⟩ := by
  have hsetup : r.device.setup = setup := ho.deviceInv.setup
  have hopen : r.device.isOpen = true :=
    ho.deviceInv.isOpen (ho.deviceInv.early_of_alive ho.sound hw halive)
  rw [sight, hsetup, hopen]

theorem length_slots (s : Simulator) : s.slots.length = s.outline.contents.length := by
  simp [outline]

theorem length_turn (ho : SlotInv setup n r) {t : Turn} (ht : r.turn compute t = some r') :
    r'.device.slots.length = r.device.slots.length := by
  rcases Run.turn_cases ht with ⟨l, move, e, s, hstep, rfl⟩ | hstill
  · cases hstep with
    | pool _ _ _ _ _ q hd hq =>
        obtain ⟨-, slot, htouch⟩ := (ho.keepsToSlots l).touches hq
        exact htouch.length
    | closing o next h =>
        have hcontents := (contents_answer compute (ho.deviceInv.closing _ h).1 r.station.world).2
        rw [length_slots, length_slots]
        exact congrArg List.length hcontents
    | _ => rfl
  · rw [length_slots, length_slots, hstill.outline]

theorem deeds_turn (ho : SlotInv setup n r) {t : Turn} (ht : r.turn compute t = some r')
    (hdeeds : ∀ d ∈ r.deeds, ∃ i, Pool.Event.begun d.job i ∈ r.history) :
    ∀ d ∈ r'.deeds, ∃ i, Pool.Event.begun d.job i ∈ r'.history := by
  intro d hd
  rcases Run.turn_cases ht with ⟨l, move, e, s, hstep, rfl⟩ | hstill
  · rcases List.mem_append.1 hd with hd | hd
    · obtain ⟨i, hi⟩ := hdeeds d hd
      exact ⟨i, List.mem_append_left _ hi⟩
    · obtain ⟨slot, run, hw⟩ := running_of_mem_deedsOf hd
      exact ⟨slot, List.mem_append_left _ (Pool.mem_begun.1 (ho.sound.mem_begun hw))⟩
  · rw [hstill.deeds] at hd
    rw [hstill.history]
    exact hdeeds d hd

theorem alive_turn (ho : SlotInv setup n r) {t : Turn} (ht : r.turn compute t = some r')
    (halive : ∀ job i, Pool.Event.died job i ∉ r.history) (job : Pool.Job) (i : Nat) :
    Pool.Event.died job i ∉ r'.history := by
  rcases Run.turn_cases ht with ⟨l, move, e, s, hstep, rfl⟩ | hstill
  · have hnone : e ≠ some (.died job i) := by
      rintro rfl
      cases hstep with
      | pool _ _ _ _ _ q hd hq =>
          cases Pool.effect_of_transition hq with
          | calm _ he => exact absurd (he _ rfl).2 (by simp)
          | die slot job run _ hw hdied => exact ho.keeps.not_died hw _ hdied
          | _ => simp_all
    intro h
    rcases List.mem_append.1 h with h | h
    · exact halive job i h
    · exact hnone (Option.mem_toList.1 h)
  · rw [hstill.history]
    exact halive job i

/-! ### Steps of the pool -/

variable {move : Move} {poolMove : Pool.Move} {arrivals : List Pool.Job}
  {teardown : Dispatcher.Teardown} {l : Ledger} {e : Option Pool.Event} {deeds : List Deed}
  {q : Pool.Scheduler Exchange.Run (Exchange.Site Simulator)} {s : Station Simulator}

/-- A run after a step of its pool, as far as its slots and jobs are concerned. -/
structure Follows (r r' : Run) (q : Pool.Scheduler Exchange.Run (Exchange.Site Simulator))
    (e : Option Pool.Event) (deeds : List Deed) : Prop where
  device : r'.device = q.shared.world.driver
  pool : r'.pool = q.pool
  history : r'.history = r.history ++ e.toList
  deeds : r'.deeds = r.deeds ++ deeds

/-- Events of other slots, or other events, change nothing about the jobs of a slot. -/
theorem jobsOf_of_ne {kind : Pool.Event → Bool} (hf : Follows r r' q e deeds)
    (he : ∀ e', e = some e' → ¬(kind e' = true ∧ e'.slot? = some i)) :
    Pool.jobsOf kind i r'.history = Pool.jobsOf kind i r.history := by
  rw [hf.history]
  cases e with
  | none => rw [Option.toList_none, List.append_nil]
  | some e' => exact Pool.jobsOf_concat_of_not (he e' rfl)

/-- A step that shows nothing of the jobs that run on a slot, and makes no calls for them. -/
theorem aside (hf : Follows r r' q e deeds)
    (he : ∀ e', e = some e' → e'.slot? = some i → e'.isStart = false ∧ e'.isEnd = false)
    (hcontent : q.shared.world.driver.content? i = r.device.content? i)
    (hacts : ∀ job ∈ Pool.begun i r.history, r'.acts job = r.acts job)
    (hrunning : ∀ job run, q.pool.worker? i = some (.running job run) →
      r.pool.worker? i = some (.running job run) ∧
        q.shared.world.driver.sight i = r.device.sight i) :
    SlotTurn compute i r r' := by
  refine .aside (by rw [hf.device, hcontent]) ?_ ?_ ?_ hacts ?_
  · intro e' h hslot hkind
    rw [hf.history] at h
    rcases List.mem_append.1 h with h | h
    · exact h
    · obtain ⟨hstart, hend⟩ := he e' (Option.mem_toList.1 h) hslot
      rw [hstart, hend] at hkind
      simp at hkind
  · exact jobsOf_of_ne hf fun e' h hk => Bool.false_ne_true ((he e' h hk.2).1.symm.trans hk.1)
  · exact jobsOf_of_ne hf fun e' h hk => Bool.false_ne_true ((he e' h hk.2).2.symm.trans hk.1)
  · intro job run hw
    rw [hf.pool] at hw
    rw [hf.device]
    exact hrunning job run hw

/-- A step that makes no call, and shows nothing of the jobs that run on a slot. -/
theorem aside_of_driver_eq (hf : Follows r r' q e [])
    (he : ∀ e', e = some e' → e'.slot? = some i → e'.isStart = false ∧ e'.isEnd = false)
    (hdriver : q.shared.world.driver = r.device)
    (hrunning : ∀ job run, q.pool.worker? i = some (.running job run) →
      r.pool.worker? i = some (.running job run)) :
    SlotTurn compute i r r' := by
  have hdeeds : r'.deeds = r.deeds := by rw [hf.deeds, List.append_nil]
  exact aside hf he (by rw [hdriver]) (fun _ _ => Run.acts_congr hdeeds) fun job run hw =>
    ⟨hrunning job run hw, by rw [hdriver]⟩

theorem slotTurn_of_driving (ho : SlotInv setup n r)
    (hd : Driving (r.withLedger l).station move poolMove arrivals teardown)
    (hq : Pool.Scheduler.Transition (executor (driver compute) patience)
      (r.withLedger l).station.scheduler poolMove e q)
    (hf : Follows r r' q e (r.station.deedsOf compute move)) (i : Nat) :
    SlotTurn compute i r r' := by
  cases Pool.effect_of_transition hq with
  | calm hmove he hrunning hshared =>
      have hnone : r.station.deedsOf compute move = [] := deedsOf_of_not_running compute hd hmove
      rw [hnone] at hf
      have hdriver : q.shared.world.driver = r.device := (Exchange.still_of_noted hshared).2
      exact aside_of_driver_eq hf (fun e' h _ => he e' h) hdriver (hrunning i)
  | begin slot job hmove hw he hshared hw' hothers =>
      subst he
      have hnone : r.station.deedsOf compute move = [] := by
        refine deedsOf_of_not_running compute hd fun slot' job' run h hw₁ => ?_
        cases hmove.symm.trans h
        cases hw.symm.trans hw₁
      rw [hnone] at hf
      have hdriver : q.shared.world.driver = r.device := by rw [hshared]; rfl
      have hsame : r'.deeds = r.deeds := by rw [hf.deeds, List.append_nil]
      by_cases hslot : slot = i
      · subst hslot
        exact .begin job hw (by rw [hf.pool]; exact hw') (hf.device.trans hdriver) hf.history hsame
      · refine aside_of_driver_eq hf ?_ hdriver fun job run h => (hothers i hslot).symm.trans h
        rintro e' ⟨⟩ h
        exact absurd (Option.some_inj.1 h) hslot
  | goOn slot job run run' hmove hw he hstep hw' hothers =>
      subst he
      rw [deedsOf_of_running compute hd hmove hw] at hf
      by_cases hslot : slot = i
      · subst hslot
        refine .goOn job run run' q.shared hw (by rw [hf.pool]; exact hw') hstep hf.device ?_
          hf.deeds
        rw [hf.history, Option.toList_none, List.append_nil]
      · have hsight := ho.keeps.sight_continues hw hstep hslot
        refine aside hf (by simp) (congrArg Sight.content? hsight)
          (fun job' h => Run.acts_of_ne hf.deeds (ho.sound.ne_of_running hw hslot h))
          fun job' run h => ?_
        rw [hothers i hslot] at h
        exact ⟨h, hsight⟩
  | «return» slot job run outcome hmove hw he hstep hw' hothers =>
      subst he
      obtain ⟨hshared, hrest⟩ := Exchange.eq_of_returned hstep
      have hdriver : q.shared.world.driver = r.device := by rw [hshared]; rfl
      have hnone : actsOf compute run r.station.world = [] := actsOf_of_returned hstep
      rw [deedsOf_of_running compute hd hmove hw, hnone] at hf
      have hsame : r'.deeds = r.deeds := by
        rw [hf.deeds]
        exact List.append_nil _
      by_cases hslot : slot = i
      · subst hslot
        exact .return job run outcome hw hrest (by rw [hf.pool]; exact hw')
          (hf.device.trans hdriver) hf.history hsame
      · refine aside_of_driver_eq hf ?_ hdriver fun job run h => (hothers i hslot).symm.trans h
        rintro e' ⟨⟩ h
        exact absurd (Option.some_inj.1 h) hslot
  | die _ _ _ _ hw hstep => exact absurd hstep (ho.keeps.not_died hw _)

theorem slotTurn_of_transition (ho : SlotInv setup n r)
    (ht : Transition (driver compute) patience (r.withLedger l).station move e s) (i : Nat) :
    SlotTurn compute i r (r.after s e (r.station.deedsOf compute move)) := by
  have hcalm {r' : Run} {e : Option Pool.Event} (hf : Follows r r' r.station.scheduler e [])
      (he : ∀ e', e = some e' → e'.isStart = false ∧ e'.isEnd = false) :
      SlotTurn compute i r r' :=
    aside_of_driver_eq hf (fun e' h _ => he e' h) rfl fun _ _ hw => hw
  cases ht with
  | pool _ _ _ _ _ q hd hq => exact ho.slotTurn_of_driving hd hq ⟨rfl, rfl, rfl, rfl⟩ i
  | turnAway job err => exact hcalm ⟨rfl, rfl, rfl, rfl⟩ (by rintro e' ⟨⟩; exact ⟨rfl, rfl⟩)
  | closing o next h =>
      have hlate : r.station.dispatcher.teardown.isEarly = false := by
        rw [show r.station.dispatcher.teardown = _ from h]
        rfl
      have hnot := Pool.not_running_of_finished ho.sound.phased (ho.deviceInv.late hlate) i
      refine .aside ?_ ?_ (by simp [Run.after]) (by simp [Run.after])
        (fun job _ => Run.acts_congr (List.append_nil _)) fun job run hw => absurd hw (hnot job run)
      · -- closing the device is about no slot, and no job is running any more
        have hcontents := (contents_answer compute (ho.deviceInv.closing _ h).1 r.station.world).2
        rw [content?_eq_outline, content?_eq_outline]
        exact congrArg (·[i]?) hcontents
      · intro e' h _ _
        simpa [Run.after] using h
  | _ => exact hcalm ⟨rfl, rfl, rfl, rfl⟩ (by simp)

/-- **What every turn does to every slot.** -/
theorem slotTurn (ho : SlotInv setup n r) {t : Turn} (ht : r.turn compute t = some r')
    (i : Nat) : SlotTurn compute i r r' := by
  rcases Run.turn_cases ht with ⟨l, move, e, s, hstep, rfl⟩ | hstill
  · exact ho.slotTurn_of_transition hstep i
  · have hsight : r'.device.sight i = r.device.sight i := sight_congr hstill.outline i
    have hpool : r'.pool = r.pool := congrArg Dispatcher.pool hstill.dispatcher
    refine .aside (congrArg Sight.content? hsight) ?_ (by rw [hstill.history])
      (by rw [hstill.history]) (fun job _ => Run.acts_congr hstill.deeds) fun job run hw => ?_
    · intro e h _ _
      rwa [hstill.history] at h
    · rw [hpool] at hw
      exact ⟨hw, hsight⟩

end SlotInv

end Offload.Station
