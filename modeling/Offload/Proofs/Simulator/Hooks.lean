/-
**What leaves the slots of the simulated device alone.**

A test may inject faults, make slots busy, hold and release them and set registers at any time; a
caller may read and write registers.  None of this changes what a slot holds for its jobs.

Main definitions:

* `Simulator.Hook`, `Simulator.Hook.apply` — what a test can do to the device besides calling it;
* `Simulator.Hook.Applied` — what each hook does;
* `Simulator.Outline` — what all slots hold;
* `Simulator.IsSlotless`, `Simulator.isRegister` — the operations that are about no slot, and those
  about registers.

Main results:

* `Simulator.Hook.outline_eq`, `Simulator.outline_answer` — **hooks and register operations leave
  the slots alone**.
-/

import Offload.Proofs.Simulator.Slots

set_option autoImplicit false
set_option relaxedAutoImplicit false

namespace Offload.Simulator

open Native

/-- What a test can do to the device besides calling it. -/
inductive Hook where
  | failNext (fault : Fault)
  | setBusyPolls (slot polls : UInt32)
  | hold (slot : UInt32)
  | release (slot : UInt32)
  | releaseAll
  | setLastError (code : UInt32) (text : String)
  | setShellRegister (index value : UInt32)

/-- The device after a hook, which is missing for a slot or a register that does not exist. -/
def Hook.apply : Hook → Simulator → Option Simulator
  | failNext fault, s => some (s.failNext fault)
  | setBusyPolls slot polls, s => s.setBusyPolls slot polls
  | hold slot, s => s.hold slot
  | release slot, s => s.release slot
  | releaseAll, s => some s.releaseAll
  | setLastError code text, s => some (s.setLastError code text)
  | setShellRegister index value, s => s.setShellRegister? index value

/-- What each hook does. -/
inductive Hook.Applied (s : Simulator) : Hook → Simulator → Prop
  | failNext (fault : Fault) : Applied s (.failNext fault) (s.failNext fault)
  | setBusyPolls (slot polls : UInt32) :
      Applied s (.setBusyPolls slot polls) (s.modifySlot slot ({ · with busyPolls := polls }))
  | hold (slot : UInt32) : Applied s (.hold slot) (s.modifySlot slot ({ · with held := true }))
  | release (slot : UInt32) :
      Applied s (.release slot) (s.modifySlot slot ({ · with held := false }))
  | releaseAll : Applied s .releaseAll s.releaseAll
  | setLastError (code : UInt32) (text : String) :
      Applied s (.setLastError code text) (s.setLastError code text)
  | setShellRegister (index value : UInt32) :
      Applied s (.setShellRegister index value)
        { s with shell := s.shell.set index.toNat value }

theorem Hook.applied_of_apply {hook : Hook} {s s' : Simulator} (h : hook.apply s = some s') :
    hook.Applied s s' := by
  have hslot {slot : UInt32} {change : Slot → Slot} (h : s.changeSlot? slot change = some s') :
      s' = s.modifySlot slot change := by
    unfold changeSlot? at h
    split at h
    · exact (Option.some_inj.1 h).symm
    · cases h
  cases hook with
  | failNext fault => cases h; exact .failNext fault
  | setBusyPolls slot polls => rw [hslot h]; exact .setBusyPolls slot polls
  | hold slot => rw [hslot h]; exact .hold slot
  | release slot => rw [hslot h]; exact .release slot
  | releaseAll => cases h; exact .releaseAll
  | setLastError code text => cases h; exact .setLastError code text
  | setShellRegister index value =>
      rw [apply, setShellRegister?] at h
      split at h
      · cases h; exact .setShellRegister index value
      · cases h

/-- The device as its jobs see it: its setup, whether it is open, and what its slots hold. -/
structure Outline where
  setup : Setup
  isOpen : Bool
  contents : List Content

/-- The outline of a state. -/
def outline (s : Simulator) : Outline := ⟨s.setup, s.isOpen, s.slots.map Slot.content⟩

section

variable {s s' : Simulator} {compute : UInt32 → Bytes → Bytes}

/-- A job sees what is in the outline. -/
theorem sight_eq_outline (i : Nat) (s : Simulator) :
    s.sight i = ⟨s.outline.setup, s.outline.isOpen, s.outline.contents[i]?⟩ := by
  simp [sight, outline, content?]

theorem content?_eq_outline (i : Nat) (s : Simulator) : s.content? i = s.outline.contents[i]? :=
  congrArg Sight.content? (sight_eq_outline i s)

theorem sight_congr (h : s'.outline = s.outline) (i : Nat) : s'.sight i = s.sight i := by
  rw [sight_eq_outline, sight_eq_outline, h]

theorem outline_modifySlot (s : Simulator) (slot : UInt32) {change : Slot → Slot}
    (hchange : ∀ t, (change t).content = t.content) :
    (s.modifySlot slot change).outline = s.outline := by
  have hsame : (s.slots.modify slot.toNat change).map Slot.content = s.slots.map Slot.content := by
    refine List.ext_getElem? fun i => ?_
    simp only [List.getElem?_map, List.getElem?_modify]
    by_cases hi : slot.toNat = i <;> cases s.slots[i]? <;> simp [hi, hchange]
  simp only [outline, modifySlot, hsame]

/-- **A hook leaves alone what the slots hold.** -/
theorem Hook.outline_eq {hook : Hook} (h : hook.apply s = some s') : s'.outline = s.outline := by
  cases applied_of_apply h with
  | failNext | setLastError | setShellRegister => rfl
  | setBusyPolls | hold | release => exact outline_modifySlot s _ fun _ => rfl
  | releaseAll =>
      simp only [outline, Simulator.releaseAll, List.map_map]
      rfl

/-! ### Operations without a slot -/

/-- An operation that is about no slot. -/
def IsSlotless : Op → Prop
  | .call c => c.slot? = none
  | .store _ _ | .fetch _ _ => False
  | .lastError | .lastErrorText | .log _ => True

/-- An operation on registers or on logging, or a query about the last failure. -/
def isRegister : Op → Bool
  | .call (.readShell _ _) | .call (.writeShell _ _ _) | .call (.readSoft _ _)
  | .call (.writeSoft _ _ _) | .lastError | .lastErrorText | .log _ => true
  | _ => false

theorem Touches.outline {o : Bool} (h : Touches none o s s') :
    s'.outline.setup = s.outline.setup ∧ s'.outline.contents = s.outline.contents ∧
      (o = false → s'.outline = s.outline) := by
  have hslots : s'.slots = s.slots := List.ext_getElem? fun i => h.others i (by simp)
  refine ⟨h.setup, by simp only [Simulator.outline, hslots], fun ho => ?_⟩
  rw [Simulator.outline, Simulator.outline, h.setup, h.isOpen ho, hslots]

theorem contents_answer (compute : UInt32 → Bytes → Bytes) {o : Op} (ho : IsSlotless o)
    (w : World Simulator) :
    ((driver compute).answer o w).2.driver.outline.setup = w.driver.outline.setup ∧
      ((driver compute).answer o w).2.driver.outline.contents = w.driver.outline.contents := by
  cases o with
  | call c =>
      have htouch := touches_call compute c (s := w.driver)
      rw [show c.slot? = none from ho] at htouch
      exact ⟨htouch.outline.1, htouch.outline.2.1⟩
  | store | fetch => cases ho
  | lastError | lastErrorText | log => exact ⟨rfl, rfl⟩

/-- **An operation on registers leaves alone what the slots hold**, and leaves the device open. -/
theorem outline_answer {o : Op} (ho : isRegister o = true) (w : World Simulator) :
    ((driver compute).answer o w).2.driver.outline = w.driver.outline := by
  cases o with
  | call c =>
      have htouch := touches_call compute c (s := w.driver)
      cases c with
      | readShell | writeShell | readSoft | writeSoft => exact htouch.outline.2.2 rfl
      | _ => cases ho
  | store | fetch => cases ho
  | lastError | lastErrorText | log => rfl

end

end Offload.Simulator
