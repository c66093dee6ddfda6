/-
**The states that the simulated device gets into.**

A device that nobody has touched is called, waited for and interfered with in any order: a test
injects faults and holds slots, callers make native calls with any arguments, a call that has
blocked returns later, a call that never returns leaves its state behind, and bytes are stored in
the regions.  Whatever happens, the device keeps its shape: its setup, and how many registers, slots
and bytes it has.  The faults that are pending are among those that were injected, in the order in
which they were.

Main definitions:

* `Simulator.Shape`, `Simulator.shape` — the setup of a device and the lengths of what it keeps;
* `Simulator.Reachable` — **the states reached by hooks, native calls and stores**, with the faults
  injected so far and the calls that have blocked.

Main results:

* `Simulator.Reachable.shape_eq` — **the shape of a device never changes**;
* `Simulator.Reachable.faults_sublist` — **pending faults stand in the order of their injection**.
-/

import Offload.Proofs.Simulator.Apart
import Offload.Proofs.Simulator.Hooks

set_option autoImplicit false
set_option relaxedAutoImplicit false

namespace Offload.Simulator

open Native

/-! ### The shape of a device -/

/-- The setup of a device, the number of its registers, and the lengths of the regions of each
slot. -/
structure Shape where
  setup : Setup
  registers : Nat
  regions : List (Nat × Nat)

/-- The lengths of the regions of a slot. -/
def Slot.regions (t : Slot) : Nat × Nat := (t.input.length, t.output.length)

/-- The shape of a state. -/
def shape (s : Simulator) : Shape := ⟨s.setup, s.shell.length, s.slots.map Slot.regions⟩

section

variable {compute : UInt32 → Bytes → Bytes} {s s' : Simulator}

theorem shape_modifySlot (s : Simulator) (slot : UInt32) {change : Slot → Slot}
    (hchange : ∀ t, s.slot? slot = some t → (change t).regions = t.regions) :
    (s.modifySlot slot change).shape = s.shape := by
  have hsame : (s.slots.modify slot.toNat change).map Slot.regions =
      s.slots.map Slot.regions := by
    refine List.ext_getElem? fun i => ?_
    simp only [List.getElem?_map, List.getElem?_modify]
    by_cases hi : slot.toNat = i
    · subst hi
      cases ht : s.slots[slot.toNat]? with
      | none => rfl
      | some t => simpa using hchange t ht
    · simp [hi]
  simp only [shape, modifySlot, hsame]

theorem shape_validate (s : Simulator) (handle : Option (Option Handle)) (slot : Option UInt32) :
    (s.validate handle slot).2.shape = s.shape := by
  unfold validate
  split
  · rfl
  · split
    · rfl
    · split <;> rfl

theorem shape_enter (s : Simulator) (operation : Operation) (handle : Option (Option Handle))
    (slot : Option UInt32) : (s.enter operation handle slot).2.shape = s.shape := by
  unfold enter
  split
  · rfl
  · exact shape_validate s handle slot

theorem shape_proceed {c : Call} {entered : Status × Simulator}
    {go : Simulator → Reply c × Simulator} (hentered : entered.2.shape = s.shape)
    (hgo : ∀ t : Simulator, (go t).2.shape = t.shape) :
    (proceed entered go).2.shape = s.shape := by
  unfold proceed
  split
  · exact (hgo _).trans hentered
  · exact hentered

theorem shape_takeMessage (compute : UInt32 → Bytes → Bytes) (slot length : UInt32)
    (s : Simulator) : (s.takeMessage compute slot length).shape = s.shape := by
  unfold takeMessage
  split
  · rfl
  · next t ht =>
      refine shape_modifySlot s slot fun u hu => ?_
      -- an answer is cut to the length of the region that it is stored in
      simp only [Slot.regions, Slot.take]
      rw [Buffer.length_overwrite (List.length_take_le _ _)]

theorem shape_endWait (h : Option Handle) (slot : UInt32) (s : Simulator) :
    (s.endWait h slot).2.shape = s.shape := by
  have henter := shape_enter s .wait none (some slot)
  simp only [endWait]
  split
  · refine Eq.trans ?_ henter
    exact shape_modifySlot _ slot fun _ _ => rfl
  · refine Eq.trans ?_ henter
    exact shape_modifySlot _ slot fun _ _ => rfl

/-- **A call leaves the shape of the device alone.** -/
theorem shape_call (compute : UInt32 → Bytes → Bytes) (c : Call) (s : Simulator) :
    (call compute c s).2.shape = s.shape := by
  cases c with
  | present | readShell =>
      refine shape_proceed (shape_enter s _ _ _) fun t => ?_
      split <;> rfl
  | writeShell =>
      refine shape_proceed (shape_enter s _ _ _) fun t => ?_
      split
      · simp only [shape, List.length_set]
      · rfl
  | inputFull | discard =>
      exact shape_proceed (shape_enter s _ _ _) fun t => shape_modifySlot t _ fun _ _ => rfl
  | send =>
      refine shape_proceed (shape_enter s _ _ _) fun t => ?_
      split
      · rfl
      · exact shape_takeMessage compute _ _ t
  | wait h slot =>
      exact shape_proceed (shape_validate s _ _) fun t => shape_endWait h slot t
  | _ => exact shape_proceed (shape_enter s _ _ _) fun _ => rfl

theorem shape_resume (compute : UInt32 → Bytes → Bytes) (c : Call) (s : Simulator) :
    (resume compute c s).2.shape = s.shape := by
  cases c with
  | wait h slot => exact shape_endWait h slot s
  | _ => exact shape_call compute _ s

/-- A call that never returns has got no further than its beginning. -/
theorem eq_enter_of_traps {c : Call} (h : traps c s = some s') :
    ∃ operation handle slot, s' = (s.enter operation handle slot).2 := by
  have htrap {slot : UInt32} {entered : Status × Simulator}
      (h : trapAt slot entered = some s') : s' = entered.2 := by
    unfold trapAt at h
    split at h
    · exact (Option.some_inj.1 h).symm
    · cases h
  cases c with
  | inputPointer | outputPointer | inputFull | discard => exact ⟨_, _, _, htrap h⟩
  | send =>
      simp only [traps] at h
      split at h
      · exact ⟨_, _, _, htrap h⟩
      · cases h
  | _ => cases h

/-- **A hook leaves the shape of the device alone.** -/
theorem Hook.shape_eq {hook : Hook} (h : hook.apply s = some s') : s'.shape = s.shape := by
  cases applied_of_apply h with
  | failNext | setLastError => rfl
  | setBusyPolls | hold | release => exact shape_modifySlot s _ fun _ _ => rfl
  | releaseAll =>
      simp only [shape, Simulator.releaseAll, List.map_map]
      rfl
  | setShellRegister => simp only [shape, List.length_set]

/-! ### Stores -/

/-- The bytes fit the region that they are to be stored in. -/
def Fits (region : Region) (data : Bytes) (s : Simulator) : Prop :=
  ∀ t, s.slot? region.slot = some t →
    data.length ≤ match region.side with | .input => t.input.length | .output => t.output.length

theorem shape_store {region : Region} {data : Bytes} (h : Fits region data s) :
    (store region data s).shape = s.shape := by
  refine shape_modifySlot s region.slot fun t ht => ?_
  have hfits := h t ht
  cases hside : region.side with
  | input =>
      rw [hside] at hfits
      simp only [Slot.regions, Buffer.length_overwrite hfits]
  | output =>
      rw [hside] at hfits
      simp only [Slot.regions, Buffer.length_overwrite hfits]

/-! ### Faults -/

/-- The first fault for a call is the first of the list that is meant for it, and it alone is used
up. -/
theorem takeFault_eq (operation : Operation) (slot : Option UInt32) (faults : List Fault) :
    takeFault operation slot faults =
      (faults.find? (·.isFor operation slot)).map fun f =>
        (f.status, faults.eraseP (·.isFor operation slot)) := by
  induction faults with
  | nil => rfl
  | cons f faults ih =>
      rw [takeFault, List.find?_cons, List.eraseP_cons]
      cases hf : f.isFor operation slot with
      | true => rfl
      | false =>
          simp only [Bool.false_eq_true, if_false, ih, Option.map_map]
          rfl

theorem remaining_eq (operation : Operation) (slot : Option UInt32) (faults : List Fault) :
    remaining operation slot faults = faults.eraseP (·.isFor operation slot) := by
  rw [remaining, takeFault_eq]
  cases hf : faults.find? (·.isFor operation slot) with
  | some f => rfl
  | none => exact (List.eraseP_of_forall_not fun f hmem => by
      simpa using List.find?_eq_none.1 hf f hmem).symm

theorem faults_sublist_enter (s : Simulator) (operation : Operation)
    (handle : Option (Option Handle)) (slot : Option UInt32) :
    (s.enter operation handle slot).2.faults.Sublist s.faults := by
  rw [faults_enter, remaining_eq]
  exact List.eraseP_sublist

theorem faults_sublist_reply (compute : UInt32 → Bytes → Bytes) (late : Bool) (c : Call)
    (s : Simulator) : (reply compute late c s).2.faults.Sublist s.faults := by
  rw [faults_reply]
  split
  · rw [remaining_eq]
    exact List.eraseP_sublist
  · exact .refl _

/-- The faults that a hook injects. -/
def Hook.injects : Hook → List Fault
  | failNext fault => [fault]
  | _ => []

theorem Hook.faults_eq {hook : Hook} (h : hook.apply s = some s') :
    s'.faults = s.faults ++ hook.injects := by
  cases applied_of_apply h with
  | failNext => rfl
  | _ => exact (List.append_nil _).symm

/-! ### Reachable states -/

/-- The states that a device with this setup gets into, with the faults injected so far and the
calls that have blocked and not returned. -/
inductive Reachable (compute : UInt32 → Bytes → Bytes) (setup : Setup) :
    List Fault → List Call → Simulator → Prop
  | fresh : Reachable compute setup [] [] (fresh setup)
  | hook {injected : List Fault} {blocked : List Call} {s s' : Simulator} (hook : Hook)
      (hs : Reachable compute setup injected blocked s) (happly : hook.apply s = some s') :
      Reachable compute setup (injected ++ hook.injects) blocked s'
  | call {injected : List Fault} {blocked : List Call} {s : Simulator} (c : Call)
      (hs : Reachable compute setup injected blocked s) (hblocks : blocks c s = false)
      (htraps : traps c s = none) :
      Reachable compute setup injected blocked (call compute c s).2
  /-- A call that never returns. -/
  | trap {injected : List Fault} {blocked : List Call} {s s' : Simulator} (c : Call)
      (hs : Reachable compute setup injected blocked s) (htraps : traps c s = some s') :
      Reachable compute setup injected blocked s'
  /-- A call that does not return at once. -/
  | block {injected : List Fault} {blocked : List Call} {s : Simulator} (c : Call)
      (hs : Reachable compute setup injected blocked s) (hblocks : blocks c s = true) :
      Reachable compute setup injected (c :: blocked) s
  /-- A call that had blocked returns. -/
  | resume {injected : List Fault} {blocked : List Call} {s : Simulator} (c : Call)
      (hs : Reachable compute setup injected blocked s) (hc : c ∈ blocked)
      (hblocks : staysBlocked c s = false) :
      Reachable compute setup injected (blocked.erase c) (resume compute c s).2
  /-- The owner of a region stores bytes in it. -/
  | store {injected : List Fault} {blocked : List Call} {s : Simulator} (region : Region)
      (data : Bytes) (hs : Reachable compute setup injected blocked s)
      (hfits : Fits region data s) :
      Reachable compute setup injected blocked (store region data s)

variable {setup : Setup} {injected : List Fault} {blocked : List Call}

/-- **The shape of a device never changes.** -/
theorem Reachable.shape_eq (h : Reachable compute setup injected blocked s) :
    s.shape = (Simulator.fresh setup).shape := by
  induction h with
  | fresh => rfl
  | hook hook hs happly ih => exact (hook.shape_eq happly).trans ih
  | call c hs _ _ ih => exact (shape_call compute c _).trans ih
  | trap c hs htraps ih =>
      obtain ⟨operation, handle, slot, rfl⟩ := eq_enter_of_traps htraps
      exact (shape_enter _ operation handle slot).trans ih
  | block c hs _ ih => exact ih
  | resume c hs _ _ ih => exact (shape_resume compute c _).trans ih
  | store region data hs hfits ih => exact (shape_store hfits).trans ih

/-- **Pending faults stand in the order of their injection.** -/
theorem Reachable.faults_sublist (h : Reachable compute setup injected blocked s) :
    s.faults.Sublist injected := by
  induction h with
  | fresh => exact .refl _
  | hook hook hs happly ih =>
      rw [hook.faults_eq happly]
      exact ih.append (.refl _)
  | call c hs _ _ ih => exact (faults_sublist_reply compute false c _).trans ih
  | trap c hs htraps ih =>
      obtain ⟨operation, handle, slot, rfl⟩ := eq_enter_of_traps htraps
      exact (faults_sublist_enter _ operation handle slot).trans ih
  | block c hs _ ih => exact ih
  | resume c hs _ _ ih => exact (faults_sublist_reply compute true c _).trans ih
  | store region data hs _ ih => exact ih

theorem Reachable.setup_eq (h : Reachable compute setup injected blocked s) : s.setup = setup :=
  congrArg Shape.setup h.shape_eq

theorem Reachable.length_shell (h : Reachable compute setup injected blocked s) :
    s.shell.length = setup.shellRegisters.toNat := by
  have hregisters := congrArg Shape.registers h.shape_eq
  simpa [shape, Simulator.fresh] using hregisters

/-- There are as many slots as the setup says, and their regions are as long as it says. -/
theorem Reachable.regions (h : Reachable compute setup injected blocked s) :
    s.slots.map Slot.regions =
      List.replicate setup.bufferCount.toNat
        (setup.bufferSize.toNat, setup.bufferSize.toNat) := by
  have hregions := congrArg Shape.regions h.shape_eq
  simpa [shape, Simulator.fresh, Slot.regions, Slot.idle] using hregions

/-- The slots that are missing are those beyond the count. -/
theorem Reachable.slot?_eq_none_iff (h : Reachable compute setup injected blocked s)
    (slot : UInt32) : s.slot? slot = none ↔ setup.bufferCount ≤ slot := by
  have hlength := congrArg List.length h.regions
  rw [List.length_map, List.length_replicate] at hlength
  rw [slot?, List.getElem?_eq_none_iff, hlength, UInt32.le_iff_toNat_le]

theorem Reachable.length_input (h : Reachable compute setup injected blocked s) {slot : UInt32}
    {t : Slot} (ht : s.slot? slot = some t) : t.input.length = setup.bufferSize.toNat := by
  have hmem : t.regions ∈ s.slots.map Slot.regions :=
    List.mem_map_of_mem (List.mem_of_getElem? ht)
  rw [h.regions] at hmem
  exact congrArg Prod.fst (List.eq_of_mem_replicate hmem)

end

end Offload.Simulator
