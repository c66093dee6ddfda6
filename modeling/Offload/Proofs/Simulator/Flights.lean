/-
**Messages in flight.**

A slot has a message in flight from the call that sends it to the call that gives its output back,
or to a wait that fails.  The device counts the messages that are sent to a slot that still has one
in flight.  Only these three calls, when they come to this end, change anything about it, and only
about their own slot.

Main definitions:

* `Simulator.inFlight` — a slot has a message in flight;
* `Simulator.SameFlights` — nothing has changed about messages in flight;
* `Simulator.settles`, `Simulator.carries`, `Simulator.abandons` — a call that decides whether its
  slot has a message in flight, one that puts a message in flight, and one that fails to take it out;
* `Simulator.Flown` — **what a call does to the messages in flight**.

Main results:

* `Simulator.flown_reply` — a call about a slot of an open device does this;
* `Simulator.sameFlights_answer`, `Simulator.Hook.sameFlights` — what is about no slot changes
  nothing.
-/

import Offload.Proofs.Simulator.Apart
import Offload.Proofs.Simulator.Hooks

set_option autoImplicit false
set_option relaxedAutoImplicit false

namespace Offload.Simulator

open Native

/-- Slot number `i` has a message in flight. -/
def inFlight (s : Simulator) (i : Nat) : Bool := ((s.slots[i]?).map Slot.inFlight).getD false

/-- Nothing has changed about messages in flight. -/
structure SameFlights (s s' : Simulator) : Prop where
  inFlight : ∀ i, s'.inFlight i = s.inFlight i
  overlaps : s'.overlaps = s.overlaps

section

variable {s s' s'' : Simulator}

/-! ### What changes nothing -/

theorem sameFlights_of_slots (hslots : s'.slots = s.slots) (hoverlaps : s'.overlaps = s.overlaps) :
    SameFlights s s' :=
  ⟨fun i => by rw [Simulator.inFlight, hslots, Simulator.inFlight], hoverlaps⟩

theorem SameFlights.refl (s : Simulator) : SameFlights s s := ⟨fun _ => rfl, rfl⟩

theorem SameFlights.trans (h : SameFlights s s') (h' : SameFlights s' s'') : SameFlights s s'' :=
  ⟨fun i => (h'.inFlight i).trans (h.inFlight i), h'.overlaps.trans h.overlaps⟩

theorem inFlight_modifySlot (s : Simulator) (slot : UInt32) (change : Slot → Slot) (i : Nat) :
    (s.modifySlot slot change).inFlight i =
      if slot.toNat = i then ((s.slots[i]?).map fun t => (change t).inFlight).getD false
      else s.inFlight i := by
  unfold inFlight modifySlot
  rw [List.getElem?_modify]
  split
  · cases s.slots[i]? <;> rfl
  · cases s.slots[i]? <;> rfl

/-- A change of a slot that does not concern the message in flight. -/
theorem sameFlights_modifySlot (s : Simulator) (slot : UInt32) (change : Slot → Slot)
    (hchange : ∀ t, (change t).inFlight = t.inFlight) :
    SameFlights s (s.modifySlot slot change) := by
  refine ⟨fun i => ?_, rfl⟩
  rw [inFlight_modifySlot]
  simp only [hchange, ite_eq_right_iff]
  exact fun _ => rfl

theorem sameFlights_fail (s : Simulator) (status : Status) (text : String) :
    SameFlights s (s.fail status text).2 := sameFlights_of_slots rfl rfl

theorem sameFlights_validate (s : Simulator) (handle : Option (Option Handle))
    (slot : Option UInt32) : SameFlights s (s.validate handle slot).2 := by
  unfold validate
  split
  · exact sameFlights_fail _ _ _
  · split
    · exact .refl s
    · split
      · exact .refl s
      · exact sameFlights_fail _ _ _

theorem sameFlights_enter (s : Simulator) (operation : Operation)
    (handle : Option (Option Handle)) (slot : Option UInt32) :
    SameFlights s (s.enter operation handle slot).2 := by
  unfold enter
  split
  · exact sameFlights_of_slots rfl rfl
  · exact sameFlights_validate _ _ _

theorem sameFlights_proceed {c : Call} {entered : Status × Simulator}
    {go : Simulator → Reply c × Simulator} (hentered : SameFlights s entered.2)
    (hgo : ∀ t, SameFlights t (go t).2) : SameFlights s (proceed entered go).2 := by
  unfold proceed
  split
  · exact hentered.trans (hgo _)
  · exact hentered

theorem sameFlights_call (compute : UInt32 → Bytes → Bytes) {c : Call} (hc : c.slot? = none)
    (s : Simulator) : SameFlights s (call compute c s).2 := by
  cases c with
  | present | readShell | writeShell =>
      refine sameFlights_proceed (sameFlights_enter _ _ _ _) fun t => ?_
      split <;> exact sameFlights_of_slots rfl rfl
  | create | close | readSoft | writeSoft | shellCount | bufferCount | bufferSize =>
      exact sameFlights_proceed (sameFlights_enter _ _ _ _) fun t => sameFlights_of_slots rfl rfl
  | _ => cases hc

/-- **An operation about no slot changes nothing.** -/
theorem sameFlights_answer (compute : UInt32 → Bytes → Bytes) {o : Op} (ho : IsSlotless o)
    (w : World Simulator) : SameFlights w.driver ((driver compute).answer o w).2.driver := by
  cases o with
  | call c => exact sameFlights_call compute ho w.driver
  | store | fetch => cases ho
  | lastError | lastErrorText | log => exact .refl _

theorem isSlotless_of_isRegister {o : Op} (ho : isRegister o = true) : IsSlotless o := by
  unfold isRegister at ho
  split at ho <;> first | rfl | trivial

/-- **A hook changes nothing.** -/
theorem Hook.sameFlights {hook : Hook} (h : hook.apply s = some s') : SameFlights s s' := by
  cases applied_of_apply h with
  | failNext | setLastError | setShellRegister => exact sameFlights_of_slots rfl rfl
  | setBusyPolls slot | hold slot | release slot =>
      exact sameFlights_modifySlot s slot _ fun _ => rfl
  | releaseAll =>
      refine ⟨fun i => ?_, rfl⟩
      simp only [inFlight, Simulator.releaseAll, List.getElem?_map, Option.map_map]
      rfl

end

/-! ### Calls about a slot -/

/-- The call decides whether its slot has a message in flight. -/
def settles : Call → Status → Bool
  | .send _ _ _, status | .discard _ _, status => status = .success
  | .wait _ _, status => status ≠ .success
  | _, _ => false

/-- The call puts a message in flight. -/
def carries : Call → Status → Bool
  | .send _ _ _, status => status = .success
  | _, _ => false

/-- The call was to take the message of its slot out of flight, and did not. -/
def abandons : Call → Status → Bool
  | .discard _ _, status => status ≠ .success
  | _, _ => false

/-- **What a call about slot number `i` does to the messages in flight.** -/
structure Flown (i : Nat) (c : Call) (status : Status) (s s' : Simulator) : Prop where
  self : s'.inFlight i = if settles c status then carries c status else s.inFlight i
  others : ∀ j, i ≠ j → s'.inFlight j = s.inFlight j
  overlaps : s'.overlaps = s.overlaps + if carries c status && s.inFlight i then 1 else 0

section

variable {s s' s'' : Simulator} {c : Call} {status : Status} {i : Nat}

theorem SameFlights.flown (h : SameFlights s s') (hsettles : settles c status = false)
    (hcarries : carries c status = false) : Flown i c status s s' where
  self := by simp [hsettles, h.inFlight i]
  others j _ := h.inFlight j
  overlaps := by simp [hcarries, h.overlaps]

theorem Flown.after (h : SameFlights s s') (h' : Flown i c status s' s'') :
    Flown i c status s s'' where
  self := by rw [h'.self, h.inFlight i]
  others j hj := (h'.others j hj).trans (h.inFlight j)
  overlaps := by rw [h'.overlaps, h.overlaps, h.inFlight i]

theorem flown_modifySlot {slot : UInt32} {change : Slot → Slot} {t : Slot}
    (ht : s.slots[slot.toNat]? = some t) (hsettles : settles c status = true)
    (hcarries : carries c status = false) (hchange : ∀ t, (change t).inFlight = false) :
    Flown slot.toNat c status s (s.modifySlot slot change) where
  self := by rw [inFlight_modifySlot, if_pos rfl, ht, if_pos hsettles, hcarries]; exact hchange t
  others j hj := by rw [inFlight_modifySlot, if_neg hj]
  overlaps := by simp [hcarries, modifySlot]

theorem flown_takeMessage (compute : UInt32 → Bytes → Bytes) {slot : UInt32} {t : Slot}
    (ht : s.slots[slot.toNat]? = some t) (h : Option Handle) (length : UInt32) :
    Flown slot.toNat (.send h slot length) .success s (s.takeMessage compute slot length) := by
  have hslot : s.slot? slot = some t := ht
  have hflight : s.inFlight slot.toNat = t.inFlight := by rw [inFlight, ht]; rfl
  have hmodified (j : Nat) : (s.takeMessage compute slot length).inFlight j =
      (s.modifySlot slot (·.take (t.input.take length.toNat)
        (compute slot (t.input.take length.toNat)))).inFlight j := by
    rw [takeMessage, hslot]
    rfl
  refine ⟨?_, fun j hj => ?_, ?_⟩
  · rw [hmodified, inFlight_modifySlot, if_pos rfl, ht]
    rfl
  · rw [hmodified, inFlight_modifySlot, if_neg hj]
  · rw [takeMessage, hslot, hflight]
    rfl

/-- The end of a wait: one that fails takes the message out of flight. -/
theorem flown_endWait {slot : UInt32} {t : Slot} (ht : s.slots[slot.toNat]? = some t)
    (h : Option Handle) :
    Flown slot.toNat (.wait h slot) (s.endWait h slot).1.status s (s.endWait h slot).2 := by
  have hentered := sameFlights_enter s .wait none (some slot)
  have ht' : (s.enter .wait none (some slot)).2.slots[slot.toNat]? = some t := by
    rw [(slots_enter .wait none (some slot)).1, ht]
  simp only [endWait]
  split
  · have hsettles : settles (.wait h slot) .success = false := rfl
    have htaken := sameFlights_modifySlot (s.enter .wait none (some slot)).2 slot
      ({ · with pending := none }) fun _ => rfl
    exact (hentered.trans htaken).flown hsettles rfl
  · next hfailed =>
      have hsettles : settles (.wait h slot) (s.enter .wait none (some slot)).1 = true :=
        decide_eq_true hfailed
      exact (flown_modifySlot ht' hsettles rfl fun _ => rfl).after hentered

/-- **What a call about a slot of an open device does to the messages in flight.** -/
theorem flown_reply (compute : UInt32 → Bytes → Bytes) (late : Bool) {slot : UInt32} {t : Slot}
    (hopen : s.isOpen = true) (hhandle : c.handle? = some (some token)) (hc : c.slot? = some slot)
    (hslot : slot < s.setup.bufferCount) (ht : s.slots[slot.toNat]? = some t) :
    Flown slot.toNat c (reply compute late c s).1.status s (reply compute late c s).2 := by
  have hreply (hne : operation c ≠ .wait) := reply_of_ne compute late hne s
  have hentered (operation : Operation) (handle : Option (Option Handle)) :=
    sameFlights_enter s operation handle (some slot)
  have hslots (operation : Operation) (handle : Option (Option Handle)) :
      (s.enter operation handle (some slot)).2.slots[slot.toNat]? = some t := by
    rw [(slots_enter operation handle (some slot)).1, ht]
  cases c with
  | inputPointer h i | outputPointer h i =>
      obtain rfl : i = slot := Option.some_inj.1 hc
      rw [hreply (by simp [operation])]
      exact (sameFlights_proceed (hentered _ _) fun u => .refl u).flown rfl rfl
  | inputFull h i =>
      obtain rfl : i = slot := Option.some_inj.1 hc
      rw [hreply (by simp [operation])]
      refine (sameFlights_proceed (hentered _ _) fun u => ?_).flown rfl rfl
      exact sameFlights_modifySlot u i _ fun _ => rfl
  | send h i length =>
      obtain rfl : i = slot := Option.some_inj.1 hc
      rw [hreply (by simp [operation])]
      simp only [call, proceed]
      split
      · split
        · exact ((hentered _ _).trans (sameFlights_fail _ _ _)).flown rfl rfl
        · exact (flown_takeMessage compute (hslots _ _) h length).after (hentered _ _)
      · next hfailed =>
          exact (hentered _ _).flown (decide_eq_false hfailed) (decide_eq_false hfailed)
  | wait h i =>
      obtain rfl : i = slot := Option.some_inj.1 hc
      obtain rfl : h = some token := Option.some_inj.1 hhandle
      have hend : reply compute late (.wait (some token) i) s = s.endWait (some token) i := by
        cases late with
        | false =>
            show proceed (s.validate (some (some token)) (some i)) (endWait (some token) i) = _
            rw [validate_of_open hopen hslot, proceed, if_pos rfl]
        | true => rfl
      rw [hend]
      exact flown_endWait ht (some token)
  | discard h i =>
      obtain rfl : i = slot := Option.some_inj.1 hc
      rw [hreply (by simp [operation])]
      simp only [call, proceed]
      split
      · exact (flown_modifySlot (hslots _ _) rfl rfl fun _ => rfl).after (hentered _ _)
      · next hfailed => exact (hentered _ _).flown (decide_eq_false hfailed) rfl
  | _ => cases hc

/-- A call to give an output back fails only when it is struck. -/
theorem struck_of_discard (compute : UInt32 → Bytes → Bytes) (late : Bool) {slot : UInt32}
    (hopen : s.isOpen = true) (hslot : slot < s.setup.bufferCount)
    (hfailed : (reply compute late (.discard (some token) slot) s).1.status ≠ .success) :
    ∃ status, strike? late (.discard (some token) slot) s = some status ∧ status ≠ .success := by
  rw [reply_of_ne compute late (by simp [operation])] at hfailed
  rcases proceed_cases (c := .discard (some token) slot) .discard (some (some token)) (some slot)
      (fun s => (.plain .success,
        s.modifySlot slot fun t => { t with inFlight := false, discards := t.discards + 1 }))
      (validate_of_open hopen hslot) with ⟨status, hstruck, hne, -⟩ | ⟨-, s₁, -, -, hdone⟩
  · exact ⟨status, hstruck, hne⟩
  · refine absurd ?_ hfailed
    show (proceed (s.enter .discard (some (some token)) (some slot)) _).1.status = _
    rw [hdone]
    rfl

end

end Offload.Simulator
