/-
**Messages in flight through a run.**

A turn of a run has nothing to do with messages in flight, or it is a step of one job on its own
slot.  So the account of overlaps that holds for the calls of one job holds for those of all jobs
together, and with it a dispatcher that has been torn down leaves nothing in flight that a job owes.

Main definitions:

* `Station.Run.IsOwing` — the job that runs on a slot has sent its message and owes the slot an end;
* `Station.Stir` — what a turn does to the messages in flight;
* `Station.Reckoned` — **the invariant of a run**.

Main results:

* `Station.SlotInv.stir` — every turn does one of these things;
* `Station.Reckoned.turn` — **every turn keeps the invariant**;
* `Station.Reckoned.not_isOwing_of_finished` — at the end of a dispatcher no job owes anything.
-/

import Offload.Proofs.Device.Stray
import Offload.Proofs.Dispatcher.RunInvariant

set_option autoImplicit false
set_option relaxedAutoImplicit false

namespace Offload

open Native Simulator

/-! ### The steps of one job -/

namespace Exchange

variable {compute : UInt32 → Bytes → Bytes}

theorem sameFlights_answered {slot : UInt32} {o : Op} (ho : IsAbout slot o)
    (hcall : ∀ c, o ≠ .call c) (late : Bool) (w : World Simulator) :
    SameFlights w.driver (answered (driver compute) late o w).2.driver := by
  cases o with
  | call c => exact absurd rfl (hcall c)
  | store region data =>
      have hstore : SameFlights w.driver (w.driver.store region data) := by
        refine sameFlights_modifySlot _ _ _ fun t => ?_
        cases region.side <;> rfl
      cases late <;> exact hstore
  | lastError | lastErrorText | fetch | log => cases late <;> exact .refl _

end Exchange

namespace Station

variable {compute : UInt32 → Bytes → Bytes} {setup : Setup} {n : Nat} {r r' : Run} {i : Nat}
  {job : Pool.Job} {run run' : Exchange.Run} {site : Exchange.Site Simulator}

theorem actsOf_of_stepped {w : World Simulator} {o : Op}
    {next : o.Answer → Program (Option (Outcome Bytes))} (hrest : run.rest = .step o next)
    (hreturns : Exchange.returns (driver compute) run.entered o w = true) :
    actsOf compute run w = Exchange.acted run.entered o
      (Exchange.answered (driver compute) run.entered o w).1 w.driver := by
  rw [actsOf, hrest]
  exact if_pos hreturns

/-- A step of a job leaves it owing nothing at its end. -/
theorem owing_continues {site' : Exchange.Site Simulator} {acts : List Exchange.Act}
    (hmeets : run.rest.Meets Exchange.owingSpec (fun _ owing => owing = false)
      (Exchange.owes acts))
    (hstep : Exchange.step (driver compute) i run site = .continues run' site') :
    run'.rest.Meets Exchange.owingSpec (fun _ owing => owing = false)
      (Exchange.owes (acts ++ actsOf compute run site.world)) := by
  cases Exchange.stepped_of_step hstep with
  | again hrest =>
      -- a round that has ended without a result owes nothing, and a new one begins
      rw [hrest] at hmeets
      rw [actsOf, hrest, List.append_nil, show Exchange.owes acts = false from hmeets]
      exact Exchange.owing_deviceRound _ _ _
  | answer o next hrest hreturns =>
      rw [hrest] at hmeets
      rw [actsOf_of_stepped hrest hreturns]
      have hnext := hmeets.2 (Exchange.answered (driver compute) run.entered o site.world).1
      cases o with
      | call c => simpa [Exchange.acted, Exchange.owingAfter] using hnext
      | lastError | lastErrorText | store | fetch | log =>
          simpa [Exchange.acted, Exchange.owingAfter] using hnext
  | enter o next hrest hreturns =>
      rw [actsOf, hrest]
      simpa [hreturns, ← hrest] using hmeets

namespace Run

/-- The worker of a slot runs a job that has sent its message and owes the slot an end. -/
def IsOwing (r : Run) (i : Nat) : Prop :=
  ∃ job run, r.pool.worker? i = some (.running job run) ∧ Exchange.owes (r.acts job) = true

/-- The native calls made for all jobs, oldest first. -/
def allActs (r : Run) : List Exchange.Act := r.deeds.map Deed.act

end Run

/-! ### What a turn does to the messages in flight -/

/-- What a step of a running job does to the messages in flight. -/
inductive Stride (i : Nat) (owed : Bool) (s s' : Simulator) : List Exchange.Act → Prop
  /-- Nothing, and it makes no call. -/
  | quiet (h : SameFlights s s') : Stride i owed s s' []
  /-- What its call does: it sends only if nothing is owed, and fails to give the output back only
  if a fault strikes it. -/
  | call (a : Exchange.Act) (hslot : a.slot? = some i) (hflown : Flown i a.call a.status s s')
      (hsend : carries a.call a.status = true → owed = false)
      (hlost : abandons a.call a.status = true → a.isLost = true) : Stride i owed s s' [a]

theorem Stride.of_reply (compute : UInt32 → Bytes → Bytes) (late : Bool) {s : Simulator} {c : Call}
    {slot : UInt32} {owed : Bool} (hopen : s.isOpen = true)
    (hhandle : c.handle? = some (some token)) (hc : c.slot? = some slot)
    (hslot : slot < s.setup.bufferCount) (ht : slot.toNat < s.slots.length)
    (hdue : Exchange.IsDueNow owed (.call c)) :
    Stride slot.toNat owed s (reply compute late c s).2
      [⟨c, strike? late c s, (reply compute late c s).1.status⟩] := by
  refine .call _ ?_
    (flown_reply compute late hopen hhandle hc hslot (List.getElem?_eq_getElem ht)) ?_ ?_
  · rw [Exchange.Act.slot?, hc, Option.map_some]
  · intro hcarries
    cases c with
    | send => exact hdue
    | _ => cases hcarries
  · intro habandons
    cases c with
    | discard h i =>
        obtain rfl : h = some token := Option.some_inj.1 hhandle
        obtain rfl : i = slot := Option.some_inj.1 hc
        obtain ⟨status, hstruck, hne⟩ :=
          struck_of_discard compute late hopen hslot (of_decide_eq_true habandons)
        simp [Exchange.Act.isLost, operation, Exchange.Act.isClean, hstruck, hne]
    | _ => cases habandons

/-- What a turn does to the messages in flight. -/
inductive Stir (compute : UInt32 → Bytes → Bytes) (r r' : Run) : Prop
  /-- Nothing, and it makes no calls; a running job goes on running unless it has a result. -/
  | quiet (hflights : SameFlights r.device r'.device) (hdeeds : r'.deeds = r.deeds)
      (hrunning : ∀ i job run, r.pool.worker? i = some (.running job run) →
        r'.pool.worker? i = some (.running job run) ∨
          ∃ outcome, run.rest = .done (some outcome))
  /-- A job makes a step. -/
  | goOn (i : Nat) (job : Pool.Job) (run run' : Exchange.Run) (site : Exchange.Site Simulator)
      (hw : r.pool.worker? i = some (.running job run))
      (hw' : r'.pool.worker? i = some (.running job run'))
      (hstep : Exchange.step (driver compute) i run r.station.scheduler.shared =
        .continues run' site)
      (hdevice : r'.device = site.world.driver)
      (hdeeds : r'.deeds =
        r.deeds ++ (actsOf compute run r.station.world).map fun act => ⟨job, act⟩)
      (hothers : ∀ j, i ≠ j → r'.pool.worker? j = r.pool.worker? j)

/-- What leaves the messages in flight, the calls and the pool alone. -/
theorem Stir.of_pool_eq (hflights : SameFlights r.device r'.device) (hdeeds : r'.deeds = r.deeds)
    (hpool : r'.pool = r.pool) : Stir compute r r' :=
  .quiet hflights hdeeds fun i job run hw => by
    rw [hpool]
    exact Or.inl hw

theorem RunInv.stride_call (hs : RunInv compute setup n r) {c : Call}
    (hw : r.pool.worker? i = some (.running job run))
    (habout : Exchange.IsAbout (UInt32.ofNat i) (.call c))
    (hdue : Exchange.IsDueNow (Exchange.owes (r.acts job)) (.call c)) :
    Stride i (Exchange.owes (r.acts job)) r.device
      (Exchange.answered (driver compute) run.entered (.call c) r.station.world).2.driver
      (Exchange.acted run.entered (.call c)
        (Exchange.answered (driver compute) run.entered (.call c) r.station.world).1 r.device) := by
  obtain ⟨hlt, hi⟩ := hs.deviceInv.lt_of_worker? hw
  have hslot : (UInt32.ofNat i).toNat = i := UInt32.toNat_ofNat_of_lt' hi
  have hopen : r.device.isOpen = true :=
    hs.deviceInv.isOpen (hs.deviceInv.early_of_alive hs.sound hw rfl)
  have hbound : UInt32.ofNat i < r.device.setup.bufferCount := by
    rw [show r.device.setup = setup from hs.deviceInv.setup]
    exact hs.deviceInv.ofNat_lt hw
  have ht : (UInt32.ofNat i).toNat < r.device.slots.length := by
    rw [hslot, hs.slots]
    exact hlt
  obtain ⟨hreply, hdriver⟩ := Exchange.answered_call compute run.entered c r.station.world
  have hstride := Stride.of_reply compute run.entered hopen habout.1 habout.2 hbound ht hdue
  rw [hslot] at hstride
  rw [Exchange.acted, hreply, hdriver]
  exact hstride

/-- **A running job that goes on keeps to its stride.** -/
theorem RunInv.stride (hs : RunInv compute setup n r)
    (hw : r.pool.worker? i = some (.running job run))
    (hmeets : run.rest.Meets Exchange.owingSpec (fun _ owing => owing = false)
      (Exchange.owes (r.acts job)))
    (hstep : Exchange.step (driver compute) i run r.station.scheduler.shared =
      .continues run' site) :
    Stride i (Exchange.owes (r.acts job)) r.device site.world.driver
      (actsOf compute run r.station.world) := by
  cases Exchange.stepped_of_step hstep with
  | again hrest =>
      rw [actsOf, hrest]
      exact .quiet (.refl _)
  | enter o next hrest hreturns =>
      have hnone : actsOf compute run r.station.world = [] := by
        rw [actsOf, hrest]
        exact if_neg (Bool.eq_false_iff.1 hreturns)
      rw [hnone]
      exact .quiet (.refl _)
  | answer o next hrest hreturns =>
      have habout := (hs.keepsToSlots r.station.ledger).about hw o next hrest
      have hacts : actsOf compute run r.station.world = _ := actsOf_of_stepped hrest hreturns
      rw [hacts]
      rw [hrest] at hmeets
      cases o with
      | lastError | lastErrorText | store | fetch | log =>
          exact .quiet (Exchange.sameFlights_answered habout (by simp) _ _)
      | call c => exact hs.stride_call hw habout hmeets.1

namespace SlotInv

variable {move : Move} {poolMove : Pool.Move} {arrivals : List Pool.Job}
  {teardown : Dispatcher.Teardown} {l : Ledger} {e : Option Pool.Event}
  {q : Pool.Scheduler Exchange.Run (Exchange.Site Simulator)} {s : Station Simulator}

/-- A step of the pool makes a step of one job, or has nothing to do with messages in flight. -/
theorem stir_of_driving (ho : SlotInv setup n r)
    (hd : Driving (r.withLedger l).station move poolMove arrivals teardown)
    (hq : Pool.Scheduler.Transition (executor (driver compute) patience)
      (r.withLedger l).station.scheduler poolMove e q)
    (hf : Follows r r' q e (r.station.deedsOf compute move)) : Stir compute r r' := by
  have hquiet (hdriver : q.shared.world.driver = r.device)
      (hnone : r.station.deedsOf compute move = [])
      (hrunning : ∀ i job run, r.pool.worker? i = some (.running job run) →
        q.pool.worker? i = some (.running job run) ∨ ∃ outcome, run.rest = .done (some outcome)) :
      Stir compute r r' := by
    refine .quiet ?_ (by rw [hf.deeds, hnone, List.append_nil]) ?_
    · rw [hf.device, hdriver]
      exact .refl _
    · rw [hf.pool]
      exact hrunning
  -- only the worker of a slot moves what is there
  have hother {i : Nat} {job : Pool.Job} {run : Exchange.Run} (hne : poolMove ≠ .work i)
      (hw : r.pool.worker? i = some (.running job run)) :
      q.pool.worker? i = some (.running job run) := (Pool.worker?_of_transition hq hne).trans hw
  cases Pool.effect_of_transition hq with
  | calm hmove he hrunning hshared =>
      have hdriver : q.shared.world.driver = r.device := (Exchange.still_of_noted hshared).2
      exact hquiet hdriver (deedsOf_of_not_running compute hd hmove) fun i job run hw =>
        Or.inl (hother (fun h => hmove i job run h hw) hw)
  | begin slot job hmove hw he hshared hw' hothers =>
      have hnot (i : Nat) (job' : Pool.Job) (run : Exchange.Run) (h : poolMove = .work i) :
          r.pool.worker? i ≠ some (.running job' run) := by
        intro hw₁
        cases hmove.symm.trans h
        cases hw.symm.trans hw₁
      exact hquiet (by rw [hshared]; rfl) (deedsOf_of_not_running compute hd hnot)
        fun i job' run hw₁ => Or.inl (hother (fun h => hnot i job' run h hw₁) hw₁)
  | goOn slot job run run' hmove hw he hstep hw' hothers =>
      rw [deedsOf_of_running compute hd hmove hw] at hf
      refine .goOn slot job run run' q.shared hw (by rw [hf.pool]; exact hw') hstep hf.device
        hf.deeds fun j hj => ?_
      rw [hf.pool]
      exact hothers j hj
  | «return» slot job run outcome hmove hw he hstep hw' hothers =>
      obtain ⟨hshared, hrest⟩ := Exchange.eq_of_returned hstep
      refine hquiet (by rw [hshared]; rfl) ?_ fun i job' run' hw₁ => ?_
      · have hnone : actsOf compute run r.station.world = [] := actsOf_of_returned hstep
        rw [deedsOf_of_running compute hd hmove hw, hnone]
        rfl
      · by_cases hslot : slot = i
        · subst hslot
          cases hw.symm.trans hw₁
          exact Or.inr ⟨outcome, hrest⟩
        · exact Or.inl ((hothers i hslot).trans hw₁)
  | die _ _ _ _ hw hstep => exact absurd hstep (ho.keeps.not_died hw _)

/-- So does a step of the station. -/
theorem stir_of_transition (ho : SlotInv setup n r)
    (ht : Transition (driver compute) patience (r.withLedger l).station move e s) :
    Stir compute r (r.after s e (r.station.deedsOf compute move)) := by
  have hnone : r.deeds ++ [] = r.deeds := List.append_nil _
  cases ht with
  | pool _ _ _ _ _ q hd hq => exact ho.stir_of_driving hd hq ⟨rfl, rfl, rfl, rfl⟩
  | closing o next h =>
      have hslotless := (ho.deviceInv.closing _ h).1
      exact .of_pool_eq (sameFlights_answer compute hslotless r.station.world) hnone rfl
  | _ => exact .of_pool_eq (.refl _) hnone rfl

/-- **Every turn is a step of one job, or has nothing to do with messages in flight.** -/
theorem stir (ho : SlotInv setup n r) {t : Turn} (ht : r.turn compute t = some r') :
    Stir compute r r' := by
  cases Run.turned_of_turn ht with
  | execute input e s hs => exact ho.stir_of_transition hs
  | move move e s hmove hs => exact ho.stir_of_transition (l := r.station.ledger) hs
  | hook hook s hs => exact .of_pool_eq (hook.sameFlights hs) rfl rfl
  | operate o hop =>
      exact .of_pool_eq (sameFlights_answer compute (isSlotless_of_isRegister hop) _) rfl rfl
  | look | take => exact .of_pool_eq (.refl _) rfl rfl

end SlotInv

/-! ### The invariant of a run -/

/-- What holds in every state of every run on a device that had other dispatchers before it: the
running jobs send only when they owe nothing, and every overlap and every message in flight is
accounted for. -/
structure Reckoned (compute : UInt32 → Bytes → Bytes) (setup : Setup) (n : Nat)
    (past : List Exchange.Act) (r : Run) : Prop where
  runInv : RunInv compute setup n r
  running : ∀ i job run, r.pool.worker? i = some (.running job run) →
    run.rest.Meets Exchange.owingSpec (fun _ owing => owing = false) (Exchange.owes (r.acts job))
  charged : Exchange.Charged (past ++ r.allActs) r.device r.IsOwing

namespace Reckoned

variable {past : List Exchange.Act} {t : Turn}

theorem owes_of_isOwing (hw : r.pool.worker? i = some (.running job run)) (ho : r.IsOwing i) :
    Exchange.owes (r.acts job) = true := by
  obtain ⟨job', run', hw', how⟩ := ho
  cases hw.symm.trans hw'
  exact how

theorem running_turn (ha : Reckoned compute setup n past r) (ht : r.turn compute t = some r')
    (hw : r'.pool.worker? i = some (.running job run)) :
    run.rest.Meets Exchange.owingSpec (fun _ owing => owing = false)
      (Exchange.owes (r'.acts job)) := by
  have hsound := ha.runInv.sound
  cases ha.runInv.slotInv.slotTurn ht i with
  | aside _ _ _ _ hacts hrunning =>
      have hw₀ := (hrunning job run hw).1
      rw [hacts job (hsound.mem_begun hw₀)]
      exact ha.running i job run hw₀
  | begin job' hw₀ hw' _ hhistory hdeeds =>
      cases hw'.symm.trans hw
      -- a job that begins to run is new, and has made no calls
      have hnew := (hsound.new_of_begin (hsound.turn ht) hhistory).2
      rw [Run.acts_congr hdeeds, Run.acts_eq_nil ha.runInv.deeds hnew]
      exact Exchange.owing_deviceRound _ _ _
  | goOn _ _ _ _ hw₀ hw' hstep _ _ hdeeds =>
      cases hw'.symm.trans hw
      rw [Run.acts_self hdeeds]
      exact owing_continues (ha.running i job _ hw₀) hstep
  | «return» _ _ _ _ _ hw' => cases hw'.symm.trans hw

theorem isOwing_of_same {made : List Exchange.Act} {j : Nat} {job' : Pool.Job}
    (ha : Reckoned compute setup n past r)
    (hw : r.pool.worker? i = some (.running job' run)) (hne : i ≠ j)
    (hdeeds : r'.deeds = r.deeds ++ made.map fun act => ⟨job', act⟩)
    (hsame : r'.pool.worker? j = r.pool.worker? j) (ho : r.IsOwing j) : r'.IsOwing j := by
  obtain ⟨job, run', hw', how⟩ := ho
  have hjobs := ha.runInv.sound.ne_of_running hw hne (ha.runInv.sound.mem_begun hw')
  exact ⟨job, run', hsame.trans hw', by rw [Run.acts_of_ne hdeeds hjobs]; exact how⟩

/-- A step of one job keeps the account. -/
theorem charged_goOn {site : Exchange.Site Simulator} (ha : Reckoned compute setup n past r)
    (hw : r.pool.worker? i = some (.running job run))
    (hw' : r'.pool.worker? i = some (.running job run'))
    (hstep : Exchange.step (driver compute) i run r.station.scheduler.shared =
      .continues run' site)
    (hdevice : r'.device = site.world.driver)
    (hdeeds : r'.deeds = r.deeds ++ (actsOf compute run r.station.world).map fun act => ⟨job, act⟩)
    (hothers : ∀ j, i ≠ j → r'.pool.worker? j = r.pool.worker? j) :
    Exchange.Charged (past ++ r'.allActs) r'.device r'.IsOwing := by
  have hstride := ha.runInv.stride hw (ha.running i job run hw) hstep
  generalize actsOf compute run r.station.world = made at hstride hdeeds
  have hacts : r'.acts job = r.acts job ++ made := Run.acts_self hdeeds
  have hall : r'.allActs = r.allActs ++ made := by simp [Run.allActs, hdeeds, Function.comp_def]
  have hself (how : Exchange.owes (r.acts job ++ made) = true) : r'.IsOwing i :=
    ⟨job, run', hw', by rw [hacts]; exact how⟩
  have hrest (j : Nat) (hne : i ≠ j) (ho : r.IsOwing j) : r'.IsOwing j :=
    ha.isOwing_of_same hw hne hdeeds (hothers j hne) ho
  rw [hall, hdevice, ← List.append_assoc]
  cases hstride with
  | quiet hflights =>
      rw [List.append_nil]
      refine ha.charged.still hflights fun j _ ho => ?_
      by_cases hne : i = j
      · subst hne
        refine hself ?_
        rw [List.append_nil]
        exact owes_of_isOwing hw ho
      · exact hrest j hne ho
  | call a hslot hflown hsend hlost =>
      refine ha.charged.act hslot hflown (owes_of_isOwing hw) hsend hlost (fun h => ?_) hrest
      exact hself (by rw [Exchange.owes_concat]; exact h)

/-- **Every turn keeps the account.** -/
theorem charged_turn (ha : Reckoned compute setup n past r) (ht : r.turn compute t = some r') :
    Exchange.Charged (past ++ r'.allActs) r'.device r'.IsOwing := by
  cases ha.runInv.slotInv.stir ht with
  | quiet hflights hdeeds hrunning =>
      rw [Run.allActs, hdeeds]
      refine ha.charged.still hflights ?_
      rintro i - ⟨job, run, hw, how⟩
      rcases hrunning i job run hw with hw' | ⟨outcome, hrest⟩
      · exact ⟨job, run, hw', by rw [Run.acts_congr hdeeds]; exact how⟩
      · -- a job that has a result owes nothing
        have hmeets := ha.running i job run hw
        rw [hrest] at hmeets
        exact absurd (how.symm.trans hmeets) (by simp)
  | goOn _ _ _ _ _ hw hw' hstep hdevice hdeeds hothers =>
      exact ha.charged_goOn hw hw' hstep hdevice hdeeds hothers

/-- **Every turn keeps the invariant.** -/
theorem turn (ha : Reckoned compute setup n past r) (ht : r.turn compute t = some r') :
    Reckoned compute setup n past r' where
  runInv := ha.runInv.turn ht
  running _ _ _ hw := ha.running_turn ht hw
  charged := ha.charged_turn ht

/-- Where nothing is running no job owes anything. -/
theorem not_isOwing_of_finished (ha : Reckoned compute setup n past r)
    (hlate : r.station.dispatcher.teardown.isEarly = false) (i : Nat) : ¬r.IsOwing i := by
  rintro ⟨job, run, hw, -⟩
  exact Pool.not_running_of_finished ha.runInv.sound.phased (ha.runInv.deviceInv.late hlate) i job run
    hw

end Reckoned

end Station

end Offload
