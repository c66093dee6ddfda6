/-
**Calls about different slots do not meet.**

A call about a slot looks at its own share of the device only: the slot, and the faults that are
meant for it.  The list of faults and the number of overlaps belong to all slots together, but what
a call takes from the one and adds to the other depends on its own share alone, and where every
fault names a slot it does not matter in which order two slots take theirs.

Main definitions:

* `Simulator.IsNamed`, `Simulator.meant` — every fault names a slot, and the faults of one slot;
* `Simulator.Level` — two states that calls about a slot cannot tell apart;
* `Simulator.Spares` — registers, the open flag and the calls to close are left alone;
* `Simulator.IsLocal` — what is done depends on the share of a slot only;
* `Simulator.Pays` — what an operation takes from what all slots share.

Main results:

* `Simulator.remaining_comm` — **faults of different slots are used up independently**;
* `Simulator.isLocal_reply`, `Simulator.Level.reply` — **a call depends on the share of its slot
  only**;
* `Simulator.Pays.level` — **what is done about another slot is not seen**.
-/

import Offload.Proofs.Simulator.Slots

set_option autoImplicit false
set_option relaxedAutoImplicit false

namespace Offload.Simulator

open Native

/-! ### Faults that name a slot -/

/-- Every fault is meant for the calls about one slot. -/
def IsNamed (faults : List Fault) : Prop := ∀ f ∈ faults, f.slot ≠ none

/-- The faults that are meant for the calls about a slot. -/
def meant (slot : UInt32) (faults : List Fault) : List Fault :=
  faults.filter fun f => f.slot = some slot

/-- The code of the first fault for a call. -/
def first? (operation : Operation) (slot : Option UInt32) (faults : List Fault) : Option Status :=
  (takeFault operation slot faults).map (·.1)

section

variable {operation operation' : Operation} {slot slot' : UInt32} {f : Fault} {faults : List Fault}

theorem isFor_of_named (hf : f.slot ≠ none) :
    f.isFor operation (some slot) = (decide (f.operation = operation) && f.slot = some slot) := by
  obtain ⟨i, hi⟩ := Option.ne_none_iff_exists'.1 hf
  simp [Fault.isFor, hi]

theorem isFor_of_ne (hf : f.slot ≠ none) (hne : f.slot ≠ some slot) :
    f.isFor operation (some slot) = false := by
  simp [isFor_of_named hf, hne]

theorem first?_cons (operation : Operation) (slot : Option UInt32) (f : Fault)
    (faults : List Fault) :
    first? operation slot (f :: faults) =
      if f.isFor operation slot then some f.status else first? operation slot faults := by
  rw [first?, takeFault]
  split
  · rfl
  · rw [Option.map_map]
    rfl

theorem remaining_cons (operation : Operation) (slot : Option UInt32) (f : Fault)
    (faults : List Fault) :
    remaining operation slot (f :: faults) =
      if f.isFor operation slot then faults else f :: remaining operation slot faults := by
  unfold remaining
  rw [takeFault]
  split
  · rfl
  · cases takeFault operation slot faults <;> rfl

theorem meant_cons (slot : UInt32) (f : Fault) (faults : List Fault) :
    meant slot (f :: faults) =
      if f.slot = some slot then f :: meant slot faults else meant slot faults := by
  by_cases h : f.slot = some slot <;> simp [meant, h]

theorem isNamed_cons : IsNamed (f :: faults) ↔ f.slot ≠ none ∧ IsNamed faults :=
  List.forall_mem_cons

theorem isNamed_remaining (h : IsNamed faults) (operation : Operation) (slot : Option UInt32) :
    IsNamed (remaining operation slot faults) := by
  induction faults with
  | nil => exact h
  | cons f faults ih =>
      obtain ⟨hf, h⟩ := isNamed_cons.1 h
      rw [remaining_cons]
      split
      · exact h
      · exact isNamed_cons.2 ⟨hf, ih h⟩

/-- The faults meant for other slots do not strike a call. -/
theorem first?_meant (h : IsNamed faults) :
    first? operation (some slot) (meant slot faults) = first? operation (some slot) faults := by
  induction faults with
  | nil => rfl
  | cons f faults ih =>
      obtain ⟨hf, h⟩ := isNamed_cons.1 h
      rw [meant_cons, first?_cons]
      by_cases hslot : f.slot = some slot
      · rw [if_pos hslot, first?_cons, ih h]
      · rw [if_neg hslot, isFor_of_ne hf hslot, if_neg Bool.false_ne_true, ih h]

/-- What is left of the faults meant for a slot depends on no others. -/
theorem meant_remaining (h : IsNamed faults) :
    meant slot (remaining operation (some slot) faults) =
      remaining operation (some slot) (meant slot faults) := by
  induction faults with
  | nil => rfl
  | cons f faults ih =>
      obtain ⟨hf, h⟩ := isNamed_cons.1 h
      rw [meant_cons, remaining_cons]
      by_cases hslot : f.slot = some slot
      · rw [if_pos hslot, remaining_cons]
        split
        · rfl
        · rw [meant_cons, if_pos hslot, ih h]
      · rw [if_neg hslot, isFor_of_ne hf hslot, if_neg Bool.false_ne_true, meant_cons,
          if_neg hslot, ih h]

/-- A call about one slot uses up none of the faults meant for another. -/
theorem meant_remaining_of_ne (h : IsNamed faults) (hne : slot ≠ slot') :
    meant slot' (remaining operation (some slot) faults) = meant slot' faults := by
  induction faults with
  | nil => rfl
  | cons f faults ih =>
      obtain ⟨hf, h⟩ := isNamed_cons.1 h
      rw [remaining_cons]
      split
      · next hfor =>
          rw [isFor_of_named hf, Bool.and_eq_true, decide_eq_true_iff, decide_eq_true_iff] at hfor
          rw [meant_cons, if_neg]
          rw [hfor.2]
          exact fun heq => hne (Option.some_inj.1 heq)
      · rw [meant_cons, meant_cons, ih h]

/-- **Faults of different slots are used up independently**, also from the middle of the list. -/
theorem remaining_comm (h : IsNamed faults) (hne : slot ≠ slot') :
    remaining operation (some slot) (remaining operation' (some slot') faults) =
      remaining operation' (some slot') (remaining operation (some slot) faults) := by
  induction faults with
  | nil => rfl
  | cons f faults ih =>
      obtain ⟨hf, h⟩ := isNamed_cons.1 h
      -- a fault is for at most one of the two calls
      by_cases hslot : f.slot = some slot
      · have hother : f.isFor operation' (some slot') = false :=
          isFor_of_ne hf (by rw [hslot]; exact fun heq => hne (Option.some_inj.1 heq))
        rw [remaining_cons operation', hother, if_neg Bool.false_ne_true, remaining_cons,
          remaining_cons operation]
        split
        · rfl
        · rw [remaining_cons, hother, if_neg Bool.false_ne_true, ih h]
      · have hother : f.isFor operation (some slot) = false := isFor_of_ne hf hslot
        rw [remaining_cons operation (some slot), hother, if_neg Bool.false_ne_true,
          remaining_cons, remaining_cons operation']
        split
        · rfl
        · rw [remaining_cons, hother, if_neg Bool.false_ne_true, ih h]

end

/-! ### What a call about a slot can tell -/

/-- Two states of the device that calls about a slot cannot tell apart. -/
structure Level (slot : UInt32) (s s' : Simulator) : Prop where
  setup : s'.setup = s.setup
  isOpen : s'.isOpen = s.isOpen
  slot? : s'.slot? slot = s.slot? slot
  meant : meant slot s'.faults = meant slot s.faults
  named : IsNamed s.faults
  named' : IsNamed s'.faults

/-- What concerns no slot is left alone. -/
structure Spares (s s' : Simulator) : Prop where
  shell : s'.shell = s.shell
  soft : s'.soft = s.soft
  isOpen : s'.isOpen = s.isOpen
  closeCalls : s'.closeCalls = s.closeCalls

/-- What comes of doing the same in two states: the result is the same, calls about the slot cannot
tell the states apart afterwards, and as many overlaps have been added. -/
structure SameWork {β : Type} (slot : UInt32) (s s' : Simulator) (r r' : β × Simulator) :
    Prop where
  result : r'.1 = r.1
  level : Level slot r.2 r'.2
  overlaps : ∃ extra, r.2.overlaps = s.overlaps + extra ∧ r'.2.overlaps = s'.overlaps + extra
  spares : Spares s r.2

/-- What is done depends on what calls about a slot can tell, and on nothing else. -/
def IsLocal {β : Type} (slot : UInt32) (f : Simulator → β × Simulator) : Prop :=
  ∀ s s', Level slot s s' → SameWork slot s s' (f s) (f s')

section

variable {slot : UInt32} {s s' s'' : Simulator} {α β : Type}

theorem Level.symm (h : Level slot s s') : Level slot s' s :=
  ⟨h.setup.symm, h.isOpen.symm, h.slot?.symm, h.meant.symm, h.named', h.named⟩

theorem Level.trans (h : Level slot s s') (h' : Level slot s' s'') : Level slot s s'' :=
  ⟨h'.setup.trans h.setup, h'.isOpen.trans h.isOpen, h'.slot?.trans h.slot?,
    h'.meant.trans h.meant, h.named, h'.named'⟩

theorem Level.refl (slot : UInt32) (h : IsNamed s.faults) : Level slot s s :=
  ⟨rfl, rfl, rfl, rfl, h, h⟩

theorem Spares.refl (s : Simulator) : Spares s s := ⟨rfl, rfl, rfl, rfl⟩

theorem Spares.trans (h : Spares s s') (h' : Spares s' s'') : Spares s s'' :=
  ⟨h'.shell.trans h.shell, h'.soft.trans h.soft, h'.isOpen.trans h.isOpen,
    h'.closeCalls.trans h.closeCalls⟩

/-! ### Doing one thing after the other -/

theorem isLocal_pure (slot : UInt32) (a : α) : IsLocal slot fun s => (a, s) :=
  fun s _ h => ⟨rfl, h, ⟨0, rfl, rfl⟩, .refl s⟩

theorem isLocal_bind {f : Simulator → α × Simulator} {g : α → Simulator → β × Simulator}
    (hf : IsLocal slot f) (hg : ∀ a, IsLocal slot (g a)) :
    IsLocal slot fun s => g (f s).1 (f s).2 := by
  intro s s' h
  obtain ⟨hresult, hlevel, ⟨n, hn, hn'⟩, hspares⟩ := hf s s' h
  obtain ⟨hresult', hlevel', ⟨m, hm, hm'⟩, hspares'⟩ := hg (f s).1 _ _ hlevel
  dsimp only
  rw [hresult]
  refine ⟨hresult', hlevel', ⟨n + m, ?_, ?_⟩, hspares.trans hspares'⟩
  · rw [hm, hn, Nat.add_assoc]
  · rw [hm', hn', Nat.add_assoc]

/-- Choosing what to do by what calls about the slot can tell. -/
theorem isLocal_ite {p : Simulator → Prop} [DecidablePred p] {f g : Simulator → β × Simulator}
    (hp : ∀ s s', Level slot s s' → (p s' ↔ p s)) (hf : IsLocal slot f) (hg : IsLocal slot g) :
    IsLocal slot fun s => if p s then f s else g s := by
  intro s s' h
  by_cases hs : p s
  · simp only [if_pos hs, if_pos ((hp s s' h).2 hs)]
    exact hf s s' h
  · simp only [if_neg hs, if_neg fun hs' => hs ((hp s s' h).1 hs')]
    exact hg s s' h

/-- The same change of the slot in two states. -/
theorem Level.modifySlot (h : Level slot s s') (change : Slot → Slot) :
    Level slot (s.modifySlot slot change) (s'.modifySlot slot change) := by
  have hslot (t : Simulator) : (t.modifySlot slot change).slot? slot = (t.slot? slot).map change :=
    List.getElem?_modify_eq _ _ _
  refine ⟨h.setup, h.isOpen, ?_, h.meant, h.named, h.named'⟩
  rw [hslot, hslot, h.slot?]

/-- A change of the slot, with a result that depends on what the slot holds. -/
theorem isLocal_modifySlot (result : Option Slot → β) (change : Slot → Slot) :
    IsLocal slot fun s => (result (s.slot? slot), s.modifySlot slot change) :=
  fun _ _ h => ⟨congrArg result h.slot?, h.modifySlot change, ⟨0, rfl, rfl⟩, ⟨rfl, rfl, rfl, rfl⟩⟩

/-! ### The parts of a call -/

theorem isLocal_fail (slot : UInt32) (status : Status) (text : String) :
    IsLocal slot fun s => s.fail status text :=
  fun _ _ h => ⟨rfl, ⟨h.setup, h.isOpen, h.slot?, h.meant, h.named, h.named'⟩, ⟨0, rfl, rfl⟩,
    ⟨rfl, rfl, rfl, rfl⟩⟩

theorem isLocal_refuse {c : Call} (slot : UInt32) (status : Status) (text : String) :
    IsLocal slot fun s => s.refuse (c := c) status text :=
  isLocal_bind (isLocal_fail slot status text) fun status =>
    isLocal_pure slot (.plain status : Reply c)

theorem isLocal_validate (slot : UInt32) (handle : Option (Option Handle)) :
    IsLocal slot fun s => s.validate handle (some slot) := by
  refine isLocal_ite (fun s s' h => by rw [h.isOpen]) (isLocal_fail slot _ _) ?_
  exact isLocal_ite (fun s s' h => by rw [h.setup]) (isLocal_pure slot _) (isLocal_fail slot _ _)

/-- The first fault for a call is used up. -/
theorem isLocal_strike (slot : UInt32) (operation : Operation) :
    IsLocal slot fun s => (first? operation (some slot) s.faults,
      { s with faults := remaining operation (some slot) s.faults }) := by
  intro s s' h
  refine ⟨?_, ?_, ⟨0, rfl, rfl⟩, ⟨rfl, rfl, rfl, rfl⟩⟩
  · dsimp only
    rw [← first?_meant h.named', h.meant, first?_meant h.named]
  · refine ⟨h.setup, h.isOpen, h.slot?, ?_, isNamed_remaining h.named _ _,
      isNamed_remaining h.named' _ _⟩
    dsimp only
    rw [meant_remaining h.named, meant_remaining h.named', h.meant]

/-- The beginning of a call: the first fault for it decides, else the checks do. -/
theorem enter_eq (s : Simulator) (operation : Operation) (handle : Option (Option Handle))
    (slot : Option UInt32) :
    s.enter operation handle slot =
      match first? operation slot s.faults with
      | some status =>
          { s with faults := remaining operation slot s.faults }.fail status
            s!"injected {operation.name} fault"
      | none => { s with faults := remaining operation slot s.faults }.validate handle slot := by
  unfold enter first? remaining
  cases takeFault operation slot s.faults <;> rfl

theorem isLocal_enter (slot : UInt32) (operation : Operation) (handle : Option (Option Handle)) :
    IsLocal slot fun s => s.enter operation handle (some slot) := by
  simp only [enter_eq]
  refine isLocal_bind (isLocal_strike slot operation) (g := fun status s =>
    match status with
    | some status => s.fail status s!"injected {operation.name} fault"
    | none => s.validate handle (some slot)) fun status => ?_
  cases status with
  | some status => exact isLocal_fail slot _ _
  | none => exact isLocal_validate slot handle

theorem isLocal_proceed {c : Call} {entered : Simulator → Status × Simulator}
    {go : Simulator → Reply c × Simulator} (hentered : IsLocal slot entered)
    (hgo : IsLocal slot go) : IsLocal slot fun s => proceed (entered s) go := by
  refine isLocal_bind hentered (g := fun status s => proceed (status, s) go) fun status => ?_
  exact isLocal_ite (fun _ _ _ => Iff.rfl) hgo (isLocal_pure slot (.plain status : Reply c))

theorem isLocal_endWait (h : Option Handle) (slot : UInt32) :
    IsLocal slot fun s => s.endWait h slot := by
  refine isLocal_bind (isLocal_enter slot .wait none)
    (g := fun status s => ((if status = .success then
      (.value (((s.slot? slot).bind (·.pending)).getD 0),
        s.modifySlot slot fun t => { t with pending := none })
      else (.plain status, s.modifySlot slot fun t => { t with inFlight := false })) :
        Reply (.wait h slot) × Simulator)) fun status => ?_
  refine isLocal_ite (fun _ _ _ => Iff.rfl) ?_ ?_
  · exact isLocal_modifySlot
      (fun t => (.value ((t.bind (·.pending)).getD 0) : Reply (.wait h slot))) _
  · exact isLocal_modifySlot (fun _ => (.plain status : Reply (.wait h slot))) _

/-- How many overlaps a message adds depends on its slot. -/
theorem isLocal_takeMessage {c : Call} (compute : UInt32 → Bytes → Bytes) (slot length : UInt32)
    (reply : Reply c) : IsLocal slot fun s => (reply, s.takeMessage compute slot length) := by
  intro s s' h
  cases ht : s.slot? slot with
  | none =>
      have hnone (u : Simulator) (hu : u.slot? slot = none) :
          u.takeMessage compute slot length = u := by rw [takeMessage, hu]
      dsimp only
      rw [hnone s ht, hnone s' (h.slot?.trans ht)]
      exact ⟨rfl, h, ⟨0, rfl, rfl⟩, .refl s⟩
  | some t =>
      have hsome (u : Simulator) (hu : u.slot? slot = some t) :
          u.takeMessage compute slot length =
            { u.modifySlot slot (·.take (t.input.take length.toNat)
                (compute slot (t.input.take length.toNat))) with
              overlaps := u.overlaps + if t.inFlight then 1 else 0 } := by rw [takeMessage, hu]
      have hlevel := h.modifySlot (·.take (t.input.take length.toNat)
        (compute slot (t.input.take length.toNat)))
      dsimp only
      rw [hsome s ht, hsome s' (h.slot?.trans ht)]
      exact ⟨rfl, ⟨hlevel.setup, hlevel.isOpen, hlevel.slot?, hlevel.meant, h.named, h.named'⟩,
        ⟨_, rfl, rfl⟩, ⟨rfl, rfl, rfl, rfl⟩⟩

/-- **A call about a slot depends on the share of its slot only**, whether it has blocked before or
not. -/
theorem isLocal_reply (compute : UInt32 → Bytes → Bytes) (late : Bool) {c : Call}
    (hc : c.slot? = some slot) : IsLocal slot (reply compute late c) := by
  have hreply (hne : operation c ≠ .wait) (h : IsLocal slot (call compute c)) :
      IsLocal slot (reply compute late c) := by
    have heq : reply compute late c = call compute c := funext (reply_of_ne compute late hne)
    rw [heq]
    exact h
  cases c with
  | inputPointer h i | outputPointer h i =>
      obtain rfl : i = slot := Option.some_inj.1 hc
      refine hreply (by simp [operation]) ?_
      exact isLocal_proceed (isLocal_enter i _ _) (isLocal_pure i _)
  | inputFull h i =>
      obtain rfl : i = slot := Option.some_inj.1 hc
      refine hreply (by simp [operation]) ?_
      exact isLocal_proceed (isLocal_enter i _ _) (isLocal_modifySlot (fun t =>
        (.value ((t.map fun t => decide (0 < t.busyPolls)).getD false) : Reply (.inputFull h i))) _)
  | send h i length =>
      obtain rfl : i = slot := Option.some_inj.1 hc
      refine hreply (by simp [operation]) ?_
      have hgo : IsLocal i (fun s : Simulator =>
          (if s.setup.bufferSize < length then s.refuse .invalidArgument "send length too large"
          else (.plain .success, s.takeMessage compute i length) :
            Reply (.send h i length) × Simulator)) :=
        isLocal_ite (fun s s' h => by rw [h.setup]) (isLocal_refuse i _ _)
          (isLocal_takeMessage compute i length _)
      exact isLocal_proceed (isLocal_enter i _ _) hgo
  | wait h i =>
      obtain rfl : i = slot := Option.some_inj.1 hc
      cases late with
      | true => exact isLocal_endWait h i
      | false => exact isLocal_proceed (isLocal_validate i _) (isLocal_endWait h i)
  | discard h i =>
      obtain rfl : i = slot := Option.some_inj.1 hc
      refine hreply (by simp [operation]) ?_
      exact isLocal_proceed (isLocal_enter i _ _)
        (isLocal_modifySlot (fun _ => (.plain .success : Reply (.discard h i))) _)
  | _ => cases hc

/-- Storing in a region of a slot depends on its share only. -/
theorem isLocal_store (region : Region) (data : Bytes) :
    IsLocal region.slot fun s => ((), s.store region data) :=
  isLocal_modifySlot (fun _ => ()) _

/-- So does reading from it. -/
theorem Level.fetch_eq {region : Region} (h : Level region.slot s s') (length : Nat) :
    s'.fetch region length = s.fetch region length := by
  rw [fetch, fetch, h.slot?]

/-- Whether the slot is held, and how busy it is, is part of its share. -/
theorem Level.isHeld_eq (h : Level slot s s') : s'.isHeld slot = s.isHeld slot := by
  rw [isHeld, isHeld, h.slot?]

/-! ### What is taken from what all slots share -/

/-- The faults that are left when a call about the slot has used one up, if it has. -/
def spent (slot : UInt32) (used : Option Operation) (faults : List Fault) : List Fault :=
  match used with
  | some operation => remaining operation (some slot) faults
  | none => faults

theorem isNamed_spent {used : Option Operation} {faults : List Fault} (h : IsNamed faults) :
    IsNamed (spent slot used faults) := by
  cases used with
  | none => exact h
  | some operation => exact isNamed_remaining h _ _

/-- What is used up about one slot and what is used up about another do not meet. -/
theorem spent_comm {slot' : UInt32} {used used' : Option Operation} {faults : List Fault}
    (h : IsNamed faults) (hne : slot ≠ slot') :
    spent slot used (spent slot' used' faults) = spent slot' used' (spent slot used faults) := by
  cases used with
  | none => rfl
  | some operation =>
      cases used' with
      | none => rfl
      | some operation' => exact remaining_comm h hne

/-- What an operation about a slot does besides its work: it uses up at most one fault and adds to
the overlaps, and leaves all other slots and what concerns no slot alone. -/
structure Pays (slot : UInt32) (used : Option Operation) (extra : Nat) (s s' : Simulator) :
    Prop where
  faults : s'.faults = spent slot used s.faults
  overlaps : s'.overlaps = s.overlaps + extra
  touches : Touches (some slot) false s s'
  spares : Spares s s'

/-- An operation that does nothing to the device. -/
theorem Pays.refl (slot : UInt32) (s : Simulator) : Pays slot none 0 s s :=
  ⟨rfl, rfl, .refl _ _ _, .refl s⟩

theorem pays_store (region : Region) (data : Bytes) :
    Pays region.slot none 0 s (s.store region data) :=
  ⟨rfl, rfl, touches_modifySlot _ _ _, rfl, rfl, rfl, rfl⟩

/-- **What is done about one slot is not seen from another.** -/
theorem Pays.level {i : UInt32} {used : Option Operation} {extra : Nat}
    (h : Pays slot used extra s s') (hne : slot ≠ i) (hnamed : IsNamed s.faults) : Level i s s' := by
  have hslot : s'.slot? i = s.slot? i := by
    refine h.touches.others i.toNat ?_
    simpa [UInt32.toNat_inj] using hne
  refine ⟨h.touches.setup, h.touches.isOpen rfl, hslot, ?_, hnamed, ?_⟩
  · rw [h.faults]
    cases used with
    | none => rfl
    | some operation => exact meant_remaining_of_ne hnamed hne
  · rw [h.faults]
    exact isNamed_spent hnamed

/-- Whether a call gets as far as the faults depends on the share of its slot. -/
theorem Level.meetsFaults_eq {late : Bool} {c : Call} (h : Level slot s s')
    (hc : c.slot? = some slot) : meetsFaults late c s' = meetsFaults late c s := by
  cases c with
  | wait handle i =>
      obtain rfl : i = slot := Option.some_inj.1 hc
      have hvalid := (isLocal_validate i (some handle) s s' h).result
      simp only [meetsFaults, hvalid]
  | _ => rfl

/-- **A call in two states that it cannot tell apart** is answered in the same way, uses up the same
kind of fault and adds as many overlaps. -/
theorem Level.reply (compute : UInt32 → Bytes → Bytes) (late : Bool) {c : Call}
    (hc : c.slot? = some slot) (htoggles : toggles c = false) (h : Level slot s s') :
    (reply compute late c s').1 = (reply compute late c s).1 ∧
      Level slot (reply compute late c s).2 (reply compute late c s').2 ∧
      ∃ used extra, Pays slot used extra s (reply compute late c s).2 ∧
        Pays slot used extra s' (reply compute late c s').2 := by
  have hlocal := isLocal_reply compute late hc
  obtain ⟨hresult, hlevel, ⟨extra, hextra, hextra'⟩, hspares⟩ := hlocal s s' h
  have hspares' := (hlocal s' s h.symm).spares
  have htouches (t : Simulator) :
      Touches (some slot) false t (Simulator.reply compute late c t).2 := by
    have := touches_reply compute late c (s := t)
    rwa [hc, htoggles] at this
  have hfaults (t : Simulator) : (Simulator.reply compute late c t).2.faults =
      spent slot (if meetsFaults late c t then some (operation c) else none) t.faults := by
    rw [faults_reply, hc]
    split <;> rfl
  refine ⟨hresult, hlevel, _, extra, ⟨hfaults s, hextra, htouches s, hspares⟩, ?_⟩
  refine ⟨?_, hextra', htouches s', hspares'⟩
  rw [hfaults s', h.meetsFaults_eq hc]

end

end Offload.Simulator
