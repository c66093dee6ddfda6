/-
**When the simulated device has nothing against a call.**

The device refuses a call about a slot for a reason of its own when the handle or the slot is wrong,
or when the message is longer than its regions.  Otherwise only injected faults speak against a call:
what it reports, and what it says about its most recent failure, is then told by them.

Main definitions:

* `Simulator.injected` — what the device says about an injected fault;
* `Simulator.Obliges` — **the device has no reason of its own to refuse a call**.

Main results:

* `Simulator.obliges_reply` — a call about a slot of an open device is not refused when its message
  is not too long;
* `Simulator.wait_cases` — a wait succeeds with a length, or stores none.
-/

import Offload.Proofs.Simulator.Slots

set_option autoImplicit false
set_option relaxedAutoImplicit false

namespace Offload.Simulator

open Native

/-- What the device says about a call of this kind that an injected fault strikes. -/
def injected (operation : Operation) : String := s!"injected {operation.name} fault"

/-- The device has no reason of its own to refuse a call: it reports success, or the code of the
fault that strikes the call, and it notes no failure besides that fault. -/
structure Obliges (compute : UInt32 → Bytes → Bytes) (late : Bool) (c : Call) (s : Simulator) :
    Prop where
  status : (reply compute late c s).1.status = .success ∨
    strike? late c s = some (reply compute late c s).1.status
  text : (reply compute late c s).2.lastErrorText =
    if (strike? late c s).isSome then injected (operation c) else s.lastErrorText

variable {compute : UInt32 → Bytes → Bytes} {s : Simulator} {slot : UInt32}

/-! ### What the device notes -/

theorem text_enter (operation : Operation) {handle : Option (Option Handle)}
    {slot : Option UInt32} (hv : s.validate handle slot = (.success, s)) :
    (s.enter operation handle slot).2.lastErrorText =
      if (takeFault operation slot s.faults).isSome then injected operation
      else s.lastErrorText := by
  unfold enter
  cases takeFault operation slot s.faults with
  | none => rw [hv]; rfl
  | some r => rfl

/-- The rest of a call notes nothing unless it refuses the call. -/
theorem text_proceed {c : Call} {entered : Status × Simulator}
    {go : Simulator → Reply c × Simulator}
    (hgo : (go entered.2).2.lastErrorText = entered.2.lastErrorText) :
    (proceed entered go).2.lastErrorText = entered.2.lastErrorText := by
  unfold proceed
  split
  · exact hgo
  · rfl

theorem text_takeMessage (compute : UInt32 → Bytes → Bytes) (slot length : UInt32)
    (s : Simulator) : (s.takeMessage compute slot length).lastErrorText = s.lastErrorText := by
  unfold takeMessage
  split <;> rfl

theorem text_endWait (h : Option Handle) (slot : UInt32) (s : Simulator) :
    (s.endWait h slot).2.lastErrorText = (s.enter .wait none (some slot)).2.lastErrorText := by
  simp only [endWait]
  split <;> rfl

/-- **A call notes the fault that strikes it**, and nothing else when it is not refused. -/
theorem text_reply (late : Bool) (c : Call) (hopen : s.isOpen = true)
    (hhandle : c.handle? = some (some token)) (hc : c.slot? = some slot)
    (hslot : slot < s.setup.bufferCount)
    (hsend : ∀ h i length, c = .send h i length → length ≤ s.setup.bufferSize) :
    (reply compute late c s).2.lastErrorText =
      if (strike? late c s).isSome then injected (operation c) else s.lastErrorText := by
  have hv := validate_of_open hopen hslot
  have hreply (hne : operation c ≠ .wait) := reply_of_ne compute late hne s
  have hstrike (hmeets : meetsFaults late c s = true) :
      (strike? late c s).isSome = (takeFault (operation c) (some slot) s.faults).isSome := by
    rw [strike?, if_pos hmeets, hc, Option.isSome_map]
  cases c with
  | present | create | close | readShell | writeShell | readSoft | writeSoft | shellCount
  | bufferCount | bufferSize => cases hc
  | send h i length =>
      obtain rfl : i = slot := Option.some_inj.1 hc
      obtain rfl : h = some token := Option.some_inj.1 hhandle
      rw [hstrike rfl, hreply (by simp [operation])]
      refine (text_proceed ?_).trans (text_enter _ hv)
      have hlength : ¬(s.enter .send (some (some token)) (some i)).2.setup.bufferSize < length := by
        rw [(slots_enter _ _ _).2]
        exact UInt32.not_lt.2 (hsend _ _ _ rfl)
      rw [if_neg hlength]
      exact text_takeMessage compute i length _
  | wait h i =>
      obtain rfl : i = slot := Option.some_inj.1 hc
      obtain rfl : h = some token := Option.some_inj.1 hhandle
      have hmeets : meetsFaults late (.wait (some token) i) s = true := by simp [meetsFaults, hv]
      rw [hstrike hmeets, reply_wait late hv, text_endWait]
      exact text_enter _ (by simp [validate, hslot])
  | _ =>
      cases hc
      cases hhandle
      rw [hstrike rfl, hreply (by simp [operation])]
      exact (text_proceed rfl).trans (text_enter _ hv)

/-- **The device does not refuse a call about a slot** when it is open, the slot is one of its own,
and the message to be sent is not longer than its regions. -/
theorem obliges_reply {t : Content} (late : Bool) (c : Call) (hopen : s.isOpen = true)
    (hhandle : c.handle? = some (some token)) (hc : c.slot? = some slot)
    (hslot : slot < s.setup.bufferCount)
    (hsend : ∀ h i length, c = .send h i length → length ≤ s.setup.bufferSize)
    (ht : s.content? slot.toNat = some t) : Obliges compute late c s where
  status := by
    rcases comes_reply compute late c hopen hhandle hc hslot hsend ht with
      ⟨status, hfault, -, hr, -⟩ | ⟨-, hsuccess, -⟩
    · right
      rw [hfault, hr]
      rfl
    · exact Or.inl hsuccess
  text := text_reply late c hopen hhandle hc hslot hsend

/-! ### What a wait reports -/

/-- A wait stores a length if it succeeds, and nothing if it does not. -/
theorem wait_cases (compute : UInt32 → Bytes → Bytes) (late : Bool) (h : Option Handle)
    (slot : UInt32) (s : Simulator) :
    (∃ status, (reply compute late (.wait h slot) s).1 = .plain status) ∨
      ∃ length, (reply compute late (.wait h slot) s).1 = .value length := by
  have hend (s : Simulator) : (∃ status, (s.endWait h slot).1 = .plain status) ∨
      ∃ length, (s.endWait h slot).1 = .value length := by
    simp only [endWait]
    split
    · exact Or.inr ⟨_, rfl⟩
    · exact Or.inl ⟨_, rfl⟩
  cases late with
  | true => exact hend s
  | false =>
      have hreply : reply compute false (.wait h slot) s =
          proceed (s.validate (some h) (some slot)) (endWait h slot) := rfl
      rw [hreply, proceed]
      split
      · exact hend _
      · exact Or.inl ⟨_, rfl⟩

end Offload.Simulator
