/-
**How long a slot keeps its jobs waiting.**

A slot says a number of times that it is not ready, and as long as it is held no wait for its output
returns.  Only tests bring either about: no operation makes a slot keep its jobs waiting longer, and
every answer that a slot is not ready uses up one of them.

Main definitions:

* `Simulator.busyPolls` — how many more times a slot says that it is not ready;
* `Simulator.Eases` — a slot keeps its jobs waiting no longer than before;
* `Simulator.Hook.hinders` — the hooks that may keep the jobs of a slot waiting.

Main results:

* `Simulator.eases_reply`, `Simulator.Hook.eases` — calls and other hooks keep nobody waiting;
* `Simulator.busyPolls_of_full` — **an answer that a slot is not ready uses up one of them**.
-/

import Offload.Proofs.Simulator.Hooks

set_option autoImplicit false
set_option relaxedAutoImplicit false

namespace Offload.Simulator

open Native

/-- How many more times a slot says that it is not ready. -/
def busyPolls (slot : UInt32) (s : Simulator) : Nat :=
  ((s.slot? slot).map (·.busyPolls.toNat)).getD 0

/-- A slot keeps its jobs waiting no longer than before. -/
structure Eases (slot : UInt32) (s s' : Simulator) : Prop where
  polls : s'.busyPolls slot ≤ s.busyPolls slot
  held : s'.isHeld slot = true → s.isHeld slot = true

section

variable {slot : UInt32} {s s' s'' : Simulator}

theorem eases_of_slot (h : s'.slot? slot = s.slot? slot) : Eases slot s s' := by
  refine ⟨Nat.le_of_eq ?_, fun hheld => ?_⟩
  · rw [busyPolls, busyPolls, h]
  · rwa [isHeld, h] at hheld

theorem eases_of_slots (h : s'.slots = s.slots) : Eases slot s s' :=
  eases_of_slot (by rw [slot?, slot?, h])

theorem Eases.refl (slot : UInt32) (s : Simulator) : Eases slot s s := eases_of_slots rfl

theorem Eases.trans (h : Eases slot s s') (h' : Eases slot s' s'') : Eases slot s s'' :=
  ⟨Nat.le_trans h'.polls h.polls, fun hheld => h.held (h'.held hheld)⟩

/-- A state in which a slot has been changed. -/
theorem slot?_modifySlot (s : Simulator) (slot j : UInt32) (change : Slot → Slot) :
    (s.modifySlot j change).slot? slot =
      if j = slot then (s.slot? slot).map change else s.slot? slot := by
  simp only [slot?, modifySlot, List.getElem?_modify, UInt32.toNat_inj]
  by_cases hj : j = slot <;> simp [hj]

/-- A change of a slot that keeps nobody waiting. -/
theorem eases_modifySlot (j : UInt32) {change : Slot → Slot}
    (hpolls : ∀ t, (change t).busyPolls.toNat ≤ t.busyPolls.toNat)
    (hheld : ∀ t, (change t).held = true → t.held = true) :
    Eases slot s (s.modifySlot j change) := by
  by_cases hj : j = slot
  · have hslot : (s.modifySlot j change).slot? slot = (s.slot? slot).map change := by
      rw [slot?_modifySlot, if_pos hj]
    refine ⟨?_, fun h => ?_⟩
    · rw [busyPolls, busyPolls, hslot]
      cases s.slot? slot with
      | none => exact Nat.le_refl _
      | some t => exact hpolls t
    · rw [isHeld, hslot] at h
      rw [isHeld]
      cases hs : s.slot? slot with
      | none => simp [hs] at h
      | some t => exact hheld t (by simpa [hs] using h)
  · exact eases_of_slot (by rw [slot?_modifySlot, if_neg hj])

/-! ### Calls -/

theorem eases_validate (handle : Option (Option Handle)) (slot' : Option UInt32) :
    Eases slot s (s.validate handle slot').2 := by
  have h : Touches none true s (s.validate handle slot').2 := touches_validate _ _
  exact eases_of_slots (List.ext_getElem? fun i => h.others i (by simp))

theorem eases_enter (operation : Operation) (handle : Option (Option Handle))
    (slot' : Option UInt32) : Eases slot s (s.enter operation handle slot').2 :=
  eases_of_slots (slots_enter _ _ _).1

theorem eases_proceed {c : Call} {entered : Status × Simulator}
    {go : Simulator → Reply c × Simulator} (hentered : Eases slot s entered.2)
    (hgo : ∀ t, Eases slot t (go t).2) : Eases slot s (proceed entered go).2 := by
  unfold proceed
  split
  · exact hentered.trans (hgo _)
  · exact hentered

theorem eases_endWait (h : Option Handle) (j : UInt32) : Eases slot s (s.endWait h j).2 := by
  simp only [endWait]
  split
  · exact (eases_enter _ _ _).trans (eases_modifySlot j (fun _ => Nat.le_refl _) fun _ h => h)
  · exact (eases_enter _ _ _).trans (eases_modifySlot j (fun _ => Nat.le_refl _) fun _ h => h)

theorem eases_takeMessage (compute : UInt32 → Bytes → Bytes) (j length : UInt32) :
    Eases slot s (s.takeMessage compute j length) := by
  unfold takeMessage
  split
  · exact .refl _ _
  · next t ht =>
      have h : Eases slot s (s.modifySlot j
          (·.take (t.input.take length.toNat) (compute j (t.input.take length.toNat)))) :=
        eases_modifySlot j (fun _ => Nat.le_refl _) fun _ h => h
      exact ⟨h.polls, h.held⟩

/-- One busy poll less, if there was one. -/
theorem busyPolls_pred (n : UInt32) :
    (if n = 0 then 0 else n - 1 : UInt32).toNat = n.toNat - 1 := by
  by_cases hn : n = 0
  · simp [hn]
  · have hpos : 1 ≤ n.toNat := Nat.one_le_iff_ne_zero.2 fun h => hn (UInt32.toNat_inj.1 h)
    have hle : (1 : UInt32) ≤ n := UInt32.le_iff_toNat_le.2 hpos
    rw [if_neg hn, UInt32.toNat_sub_of_le _ _ hle]
    rfl

/-- **No call keeps the jobs of a slot waiting longer.** -/
theorem eases_call (compute : UInt32 → Bytes → Bytes) (c : Call) :
    Eases slot s (call compute c s).2 := by
  -- a call that is not about the slot does not touch it
  have hother (hc : c.slot?.map UInt32.toNat ≠ some slot.toNat) :
      Eases slot s (call compute c s).2 :=
    eases_of_slot ((touches_call compute c).others slot.toNat hc)
  cases c with
  | inputPointer | outputPointer =>
      exact eases_proceed (eases_enter _ _ _) fun _ => .refl _ _
  | inputFull _ j =>
      refine eases_proceed (eases_enter _ _ _) fun _ =>
        eases_modifySlot j (fun t => ?_) fun _ h => h
      rw [busyPolls_pred]
      exact Nat.sub_le _ _
  | discard _ j =>
      exact eases_proceed (eases_enter _ _ _) fun _ =>
        eases_modifySlot j (fun _ => Nat.le_refl _) fun _ h => h
  | send =>
      refine eases_proceed (eases_enter _ _ _) fun t => ?_
      split
      · exact eases_of_slots rfl
      · exact eases_takeMessage _ _ _
  | wait =>
      exact eases_proceed (eases_validate _ _) fun _ => eases_endWait _ _
  | _ => exact hother (by simp [Call.slot?])

/-- Neither does one that had blocked. -/
theorem eases_reply (compute : UInt32 → Bytes → Bytes) (late : Bool) (c : Call) :
    Eases slot s (reply compute late c s).2 := by
  cases c with
  | wait =>
      cases late with
      | false => exact eases_call compute (.wait _ _)
      | true => exact eases_endWait _ _
  | _ =>
      rw [reply_of_ne compute late (by simp [operation])]
      exact eases_call compute _

/-- **An answer that a slot is not ready uses up one of them.** -/
theorem busyPolls_of_full {compute : UInt32 → Bytes → Bytes} {h : Option Handle}
    (hfull : (call compute (.inputFull h slot) s).1.stored = some true) :
    (call compute (.inputFull h slot) s).2.busyPolls slot < s.busyPolls slot := by
  obtain ⟨hslots, -⟩ := slots_enter (s := s) .inputFull (some h) (some slot)
  have hsame : (s.enter .inputFull (some h) (some slot)).2.slot? slot = s.slot? slot := by
    rw [slot?, slot?, hslots]
  simp only [call, proceed] at hfull ⊢
  split at hfull
  · next hentered =>
      rw [if_pos hentered, busyPolls, busyPolls, slot?_modifySlot, if_pos rfl, hsame]
      rw [hsame] at hfull
      cases ht : s.slot? slot with
      | none => simp [ht] at hfull
      | some t =>
          have hpos : 0 < t.busyPolls.toNat := by
            simpa [ht, UInt32.lt_iff_toNat_lt] using hfull
          show UInt32.toNat (if t.busyPolls = 0 then 0 else t.busyPolls - 1) < t.busyPolls.toNat
          rw [busyPolls_pred]
          exact Nat.sub_lt hpos Nat.one_pos
  · cases hfull

/-! ### Hooks -/

/-- The hooks that may keep the jobs of a slot waiting. -/
def Hook.hinders (slot : UInt32) : Hook → Bool
  | hold j | setBusyPolls j _ => j = slot
  | _ => false

/-- **All other hooks keep nobody waiting.** -/
theorem Hook.eases {hook : Hook} (hhook : hook.hinders slot = false)
    (h : hook.apply s = some s') : Eases slot s s' := by
  cases applied_of_apply h with
  | failNext | setLastError | setShellRegister => exact eases_of_slots rfl
  | setBusyPolls j | hold j =>
      have hj : j ≠ slot := by simpa [hinders] using hhook
      exact eases_of_slot (by rw [slot?_modifySlot, if_neg hj])
  | release j => exact eases_modifySlot j (fun _ => Nat.le_refl _) fun _ h => by cases h
  | releaseAll =>
      have hslot : s.releaseAll.slot? slot =
          (s.slot? slot).map fun t => { t with held := false } := by
        simp [slot?, Simulator.releaseAll]
      refine ⟨?_, fun h => ?_⟩
      · rw [busyPolls, busyPolls, hslot, Option.map_map]
        exact Nat.le_refl _
      · rw [isHeld, hslot] at h
        cases hs : s.slot? slot <;> simp [hs] at h

end

end Offload.Simulator
