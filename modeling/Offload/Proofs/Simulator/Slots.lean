/-
**What a call does to the slots of the simulated device.**

A call is struck by the first fault that matches it.  A call about a slot that is struck by a fault
with any code but success ends with this code and leaves what the slot holds alone; every other call
about a slot of an open device does its work.  Whatever happens, a call about one slot leaves the
other slots alone.

Main definitions:

* `Simulator.operation`, `Simulator.strike?` — the kind of a call, and the fault that strikes it;
* `Simulator.Content`, `Simulator.Sight` — what a slot holds, and what a job sees of the device;
* `Simulator.Touches` — two states that differ in one slot at most;
* `Simulator.Does`, `Simulator.Comes` — the work of a call about a slot, and what it comes to.

Main results:

* `Simulator.touches_reply` — a call touches its own slot only;
* `Simulator.comes_reply` — **a call is struck or does its work**;
* `Simulator.traps_eq_none` — no call about a slot that exists fails to return.
-/

import Offload.Simulator.Driver

set_option autoImplicit false
set_option relaxedAutoImplicit false

namespace Offload.Simulator

open Native

/-! ### Faults -/

/-- The kind of a call. -/
def operation : Call → Operation
  | .present _ => .present
  | .create _ _ => .createHandle
  | .close _ => .closeHandle
  | .readShell _ _ => .readShell
  | .writeShell _ _ _ => .writeShell
  | .readSoft _ _ => .readSoft
  | .writeSoft _ _ _ => .writeSoft
  | .shellCount _ | .bufferCount _ | .bufferSize _ => .queryCapabilities
  | .inputPointer _ _ | .outputPointer _ _ => .bufferPointer
  | .inputFull _ _ => .inputFull
  | .send _ _ _ => .send
  | .wait _ _ => .wait
  | .discard _ _ => .discard

/-- The call gets as far as the faults: a wait that has not blocked is checked before. -/
def meetsFaults (late : Bool) (c : Call) (s : Simulator) : Bool :=
  match c with
  | .wait h slot => late || (s.validate (some h) (some slot)).1 = .success
  | _ => true

/-- The code of the fault that strikes a call; `late` tells a call that had blocked and now returns
from one that returns at once. -/
def strike? (late : Bool) (c : Call) (s : Simulator) : Option Status :=
  if meetsFaults late c s then (takeFault (operation c) c.slot? s.faults).map (·.1) else none

/-- The answer to a call, which may have blocked before. -/
def reply (compute : UInt32 → Bytes → Bytes) (late : Bool) (c : Call) (s : Simulator) :
    Reply c × Simulator :=
  if late then resume compute c s else call compute c s

/-- Only waiting is answered otherwise when it has blocked. -/
theorem reply_of_ne (compute : UInt32 → Bytes → Bytes) (late : Bool) {c : Call}
    (hc : operation c ≠ .wait) (s : Simulator) : reply compute late c s = call compute c s := by
  cases late with
  | false => rfl
  | true =>
      cases c with
      | wait => exact absurd rfl hc
      | _ => rfl

/-- The faults that are left after a call of this kind about this slot. -/
def remaining (operation : Operation) (slot : Option UInt32) (faults : List Fault) : List Fault :=
  ((takeFault operation slot faults).map (·.2)).getD faults

theorem faults_validate (s : Simulator) (handle : Option (Option Handle)) (slot : Option UInt32) :
    (s.validate handle slot).2.faults = s.faults := by
  unfold validate
  split
  · rfl
  · split
    · rfl
    · split <;> rfl

theorem faults_enter (s : Simulator) (operation : Operation) (handle : Option (Option Handle))
    (slot : Option UInt32) :
    (s.enter operation handle slot).2.faults = remaining operation slot s.faults := by
  unfold enter remaining
  cases takeFault operation slot s.faults with
  | none => exact faults_validate s handle slot
  | some r => rfl

theorem faults_proceed {c : Call} {entered : Status × Simulator}
    {go : Simulator → Reply c × Simulator} (hgo : ∀ s, (go s).2.faults = s.faults) :
    (proceed entered go).2.faults = entered.2.faults := by
  unfold proceed
  split
  · exact hgo _
  · rfl

theorem faults_endWait (s : Simulator) (h : Option Handle) (slot : UInt32) :
    (s.endWait h slot).2.faults = remaining .wait (some slot) s.faults := by
  rw [← faults_enter s .wait none]
  simp only [endWait]
  split <;> rfl

/-- **A call uses up the fault that strikes it**, and no other. -/
theorem faults_reply (compute : UInt32 → Bytes → Bytes) (late : Bool) (c : Call) (s : Simulator) :
    (reply compute late c s).2.faults =
      if meetsFaults late c s then remaining (operation c) c.slot? s.faults else s.faults := by
  have hall (hne : operation c ≠ .wait) : meetsFaults late c s = true := by
    cases c with
    | wait => exact absurd rfl hne
    | _ => rfl
  cases c with
  | wait h slot =>
      cases late with
      | true => exact faults_endWait s h slot
      | false =>
          -- a wait is checked before it blocks, and looks for faults only after that
          show (proceed (s.validate (some h) (some slot)) (endWait h slot)).2.faults = _
          unfold proceed meetsFaults
          by_cases hv : (s.validate (some h) (some slot)).1 = .success
          · have hend := faults_endWait (s.validate (some h) (some slot)).2 h slot
            rw [faults_validate] at hend
            simpa [hv, operation, Call.slot?] using hend
          · have hsame := faults_validate s (some h) (some slot)
            simpa [hv] using hsame
  | present | readShell | writeShell =>
      rw [reply_of_ne compute late (by simp [operation]), if_pos (hall (by simp [operation]))]
      refine (faults_proceed fun t => ?_).trans (faults_enter s _ _ _)
      split <;> rfl
  | send =>
      rw [reply_of_ne compute late (by simp [operation]), if_pos (hall (by simp [operation]))]
      refine (faults_proceed fun t => ?_).trans (faults_enter s _ _ _)
      split
      · rfl
      · unfold takeMessage
        split <;> rfl
  | _ =>
      rw [reply_of_ne compute late (by simp [operation]), if_pos (hall (by simp [operation]))]
      exact (faults_proceed fun _ => rfl).trans (faults_enter s _ _ _)

/-! ### What is seen of the device -/

/-- What a slot holds for its jobs. -/
structure Content where
  input : Bytes
  output : Bytes
  pending : Option UInt32
  sent : List Bytes
  deriving DecidableEq

/-- What a slot holds. -/
def Slot.content (t : Slot) : Content := ⟨t.input, t.output, t.pending, t.sent⟩

/-- What slot number `i` holds. -/
def content? (i : Nat) (s : Simulator) : Option Content := (s.slots[i]?).map Slot.content

/-- What a job sees of the device: its setup, whether it is open, and what its slot holds. -/
structure Sight where
  setup : Setup
  isOpen : Bool
  content? : Option Content

/-- What a job on slot number `i` sees. -/
def sight (i : Nat) (s : Simulator) : Sight := ⟨s.setup, s.isOpen, s.content? i⟩

/-- Two states that differ in one slot at most, besides faults, registers and the account of the
last failure; `toggles` says that the device may have been opened or closed. -/
structure Touches (slot : Option UInt32) (toggles : Bool) (s s' : Simulator) : Prop where
  setup : s'.setup = s.setup
  isOpen : toggles = false → s'.isOpen = s.isOpen
  length : s'.slots.length = s.slots.length
  others : ∀ i, slot.map UInt32.toNat ≠ some i → s'.slots[i]? = s.slots[i]?

/-- The calls that open and close the device. -/
def toggles : Call → Bool
  | .create _ _ | .close _ => true
  | _ => false

section

variable {slot : Option UInt32} {o : Bool} {s s' s'' : Simulator}

theorem touches_of_eq (hsetup : s'.setup = s.setup) (hopen : o = false → s'.isOpen = s.isOpen)
    (hslots : s'.slots = s.slots) : Touches slot o s s' :=
  ⟨hsetup, hopen, by rw [hslots], fun i _ => by rw [hslots]⟩

theorem Touches.refl (slot : Option UInt32) (o : Bool) (s : Simulator) : Touches slot o s s :=
  touches_of_eq rfl (fun _ => rfl) rfl

theorem Touches.trans (h : Touches slot o s s') (h' : Touches slot o s' s'') :
    Touches slot o s s'' :=
  ⟨h'.setup.trans h.setup, fun ho => (h'.isOpen ho).trans (h.isOpen ho),
    h'.length.trans h.length, fun i hi => (h'.others i hi).trans (h.others i hi)⟩

theorem touches_modifySlot (s : Simulator) (slot : UInt32) (change : Slot → Slot) :
    Touches (some slot) o s (s.modifySlot slot change) where
  setup := rfl
  isOpen _ := rfl
  length := by simp [modifySlot]
  others i hi := by
    have hne : slot.toNat ≠ i := by simpa using hi
    exact List.getElem?_modify_ne _ _ hne

theorem touches_fail (status : Status) (text : String) : Touches slot o s (s.fail status text).2 :=
  touches_of_eq rfl (fun _ => rfl) rfl

theorem touches_validate (handle : Option (Option Handle)) (slot' : Option UInt32) :
    Touches slot o s (s.validate handle slot').2 := by
  unfold validate
  split
  · exact touches_fail _ _
  · split
    · exact .refl _ _ _
    · split
      · exact .refl _ _ _
      · exact touches_fail _ _

theorem touches_enter (operation : Operation) (handle : Option (Option Handle))
    (slot' : Option UInt32) : Touches slot o s (s.enter operation handle slot').2 := by
  unfold enter
  split
  · exact touches_of_eq rfl (fun _ => rfl) rfl
  · exact touches_validate _ _

theorem touches_proceed {c : Call} {entered : Status × Simulator}
    {go : Simulator → Reply c × Simulator} (hentered : Touches slot o s entered.2)
    (hgo : ∀ t, Touches slot o t (go t).2) : Touches slot o s (proceed entered go).2 := by
  unfold proceed
  split
  · exact hentered.trans (hgo _)
  · exact hentered

theorem touches_takeMessage (compute : UInt32 → Bytes → Bytes) (slot length : UInt32) :
    Touches (some slot) o s (s.takeMessage compute slot length) := by
  unfold takeMessage
  split
  · exact .refl _ _ _
  · next t ht =>
      have h := touches_modifySlot (o := o) s slot
        (·.take (t.input.take length.toNat) (compute slot (t.input.take length.toNat)))
      exact ⟨h.setup, h.isOpen, h.length, h.others⟩

theorem touches_endWait (h : Option Handle) (slot : UInt32) :
    Touches (some slot) o s (s.endWait h slot).2 := by
  simp only [endWait]
  split
  · exact (touches_enter _ _ _).trans (touches_modifySlot _ _ _)
  · exact (touches_enter _ _ _).trans (touches_modifySlot _ _ _)

/-- **A call touches its own slot only.** -/
theorem touches_call (compute : UInt32 → Bytes → Bytes) (c : Call) :
    Touches c.slot? (toggles c) s (call compute c s).2 := by
  cases c with
  | present =>
      refine touches_proceed (touches_enter _ _ _) fun t => ?_
      split
      · exact .refl _ _ _
      · exact touches_fail _ _
  | create | close =>
      exact touches_proceed (touches_enter _ _ _) fun _ => touches_of_eq rfl (by simp [toggles]) rfl
  | writeSoft =>
      exact touches_proceed (touches_enter _ _ _) fun _ => touches_of_eq rfl (fun _ => rfl) rfl
  | readShell =>
      refine touches_proceed (touches_enter _ _ _) fun t => ?_
      split
      · exact .refl _ _ _
      · exact touches_fail _ _
  | writeShell =>
      refine touches_proceed (touches_enter _ _ _) fun t => ?_
      split
      · exact touches_of_eq rfl (fun _ => rfl) rfl
      · exact touches_fail _ _
  | readSoft | shellCount | bufferCount | bufferSize | inputPointer | outputPointer =>
      exact touches_proceed (touches_enter _ _ _) fun _ => .refl _ _ _
  | inputFull | discard =>
      exact touches_proceed (touches_enter _ _ _) fun _ => touches_modifySlot _ _ _
  | send =>
      refine touches_proceed (touches_enter _ _ _) fun t => ?_
      split
      · exact touches_fail _ _
      · exact touches_takeMessage _ _ _
  | wait => exact touches_proceed (touches_validate _ _) fun _ => touches_endWait _ _

/-- So does a call that had blocked. -/
theorem touches_reply (compute : UInt32 → Bytes → Bytes) (late : Bool) (c : Call) :
    Touches c.slot? (toggles c) s (reply compute late c s).2 := by
  cases c with
  | wait =>
      cases late with
      | false => exact touches_call compute _
      | true => exact touches_endWait _ _
  | _ =>
      rw [reply_of_ne compute late (by simp [operation])]
      exact touches_call compute _

theorem Touches.sight_eq {i : Nat} (h : Touches slot false s s')
    (hi : slot.map UInt32.toNat ≠ some i) : s'.sight i = s.sight i := by
  rw [sight, sight, content?, content?, h.setup, h.isOpen rfl, h.others i hi]

end

/-! ### Being struck, or doing one's work -/

/-- The work of a call about a slot: what the slot held, what is stored for the caller, and what the
slot holds then. -/
inductive Does (compute : UInt32 → Bytes → Bytes) :
    (c : Call) → Content → Option c.Stored → Content → Prop
  | inputPointer (h : Option Handle) (slot : UInt32) (t : Content) :
      Does compute (.inputPointer h slot) t (some (some ⟨.input, slot⟩)) t
  | outputPointer (h : Option Handle) (slot : UInt32) (t : Content) :
      Does compute (.outputPointer h slot) t (some (some ⟨.output, slot⟩)) t
  | inputFull (h : Option Handle) (slot : UInt32) (t : Content) (full : Bool) :
      Does compute (.inputFull h slot) t (some full) t
  | send (h : Option Handle) (slot length : UInt32) (t : Content) (output : Bytes)
      (ho : output = compute slot (t.input.take length.toNat)) :
      Does compute (.send h slot length) t none
        { t with
          output := Buffer.overwrite (output.take t.output.length) t.output
          pending := some (UInt32.ofNat output.length)
          sent := t.sent ++ [t.input.take length.toNat] }
  | wait (h : Option Handle) (slot : UInt32) (t : Content) :
      Does compute (.wait h slot) t (some (t.pending.getD 0)) { t with pending := none }
  | discard (h : Option Handle) (slot : UInt32) (t : Content) :
      Does compute (.discard h slot) t none t

section

variable {s : Simulator} {slot : UInt32} {t : Content}

theorem validate_of_open (hopen : s.isOpen = true) (hslot : slot < s.setup.bufferCount) :
    s.validate (some (some token)) (some slot) = (.success, s) := by
  simp [validate, hopen, hslot]

theorem slots_enter (operation : Operation) (handle : Option (Option Handle))
    (slot : Option UInt32) :
    (s.enter operation handle slot).2.slots = s.slots ∧
      (s.enter operation handle slot).2.setup = s.setup := by
  have h : Touches none true s (s.enter operation handle slot).2 := touches_enter _ _ _
  exact ⟨List.ext_getElem? fun i => h.others i (by simp), h.setup⟩

theorem enter_cases (operation : Operation) (handle : Option (Option Handle))
    (slot : Option UInt32) (hv : s.validate handle slot = (.success, s)) :
    (∃ status, (takeFault operation slot s.faults).map (·.1) = some status ∧ status ≠ .success ∧
        (s.enter operation handle slot).1 = status) ∨
      ((∀ status, (takeFault operation slot s.faults).map (·.1) = some status →
          status = .success) ∧ (s.enter operation handle slot).1 = .success) := by
  unfold enter
  cases hf : takeFault operation slot s.faults with
  | none => exact Or.inr ⟨by simp, by simp [hv]⟩
  | some r =>
      obtain ⟨status, faults⟩ := r
      by_cases hs : status = .success
      · exact Or.inr ⟨by simp [hs], hs⟩
      · exact Or.inl ⟨status, rfl, hs, rfl⟩

/-- A call that passes the checks is struck, or goes on with the same slots. -/
theorem proceed_cases {c : Call} (operation : Operation) (handle : Option (Option Handle))
    (slot : Option UInt32) (go : Simulator → Reply c × Simulator)
    (hv : s.validate handle slot = (.success, s)) :
    (∃ status, (takeFault operation slot s.faults).map (·.1) = some status ∧ status ≠ .success ∧
        (proceed (s.enter operation handle slot) go).1 = .plain status ∧
        (proceed (s.enter operation handle slot) go).2.slots = s.slots) ∨
      ((∀ status, (takeFault operation slot s.faults).map (·.1) = some status →
          status = .success) ∧
        ∃ s₁ : Simulator, s₁.slots = s.slots ∧ s₁.setup = s.setup ∧
          proceed (s.enter operation handle slot) go = go s₁) := by
  obtain ⟨hslots, hsetup⟩ := slots_enter (s := s) operation handle slot
  rcases enter_cases operation handle slot hv with ⟨status, hf, hs, he⟩ | ⟨hf, he⟩
  · refine Or.inl ⟨status, hf, hs, ?_⟩
    rw [proceed, if_neg (he ▸ hs), he]
    exact ⟨rfl, hslots⟩
  · exact Or.inr ⟨hf, _, hslots, hsetup, if_pos he⟩

theorem content?_congr {s s' : Simulator} {i : Nat} (h : s'.slots = s.slots) :
    s'.content? i = s.content? i := by
  rw [content?, content?, h]

theorem content?_modifySlot {change : Slot → Slot} (content' : Content → Content)
    (hchange : ∀ t, (change t).content = content' t.content)
    (ht : s.content? slot.toNat = some t) :
    (s.modifySlot slot change).content? slot.toNat = some (content' t) := by
  obtain ⟨u, hu, rfl⟩ := Option.map_eq_some_iff.1 ht
  simp [content?, modifySlot, hu, hchange]

/-- What a call about a slot comes to: it is struck and leaves alone what the slot holds, or it does
its work. -/
def Comes (compute : UInt32 → Bytes → Bytes) (c : Call) (struck : Option Status) (i : Nat)
    (t : Content) (r : Reply c × Simulator) : Prop :=
  (∃ status, struck = some status ∧ status ≠ .success ∧ r.1 = .plain status ∧
      r.2.content? i = some t) ∨
    ((∀ status, struck = some status → status = .success) ∧ r.1.status = .success ∧
      ∃ t', r.2.content? i = some t' ∧ Does compute c t r.1.stored t')

theorem comes_of_proceed {compute : UInt32 → Bytes → Bytes} {c : Call} {operation : Operation}
    {handle : Option (Option Handle)} {go : Simulator → Reply c × Simulator}
    (hv : s.validate handle (some slot) = (.success, s)) (ht : s.content? slot.toNat = some t)
    (hgo : ∀ s₁ : Simulator, s₁.content? slot.toNat = some t → s₁.setup = s.setup →
      (go s₁).1.status = .success ∧
        ∃ t', (go s₁).2.content? slot.toNat = some t' ∧ Does compute c t (go s₁).1.stored t') :
    Comes compute c ((takeFault operation (some slot) s.faults).map (·.1)) slot.toNat t
      (proceed (s.enter operation handle (some slot)) go) := by
  rcases proceed_cases operation handle (some slot) go hv with
    ⟨status, hf, hs, hr, hslots⟩ | ⟨hf, s₁, hslots, hsetup, hr⟩
  · exact Or.inl ⟨status, hf, hs, hr, (content?_congr hslots).trans ht⟩
  · rw [hr]
    exact Or.inr ⟨hf, hgo s₁ ((content?_congr hslots).trans ht) hsetup⟩

theorem comes_endWait (compute : UInt32 → Bytes → Bytes) (h : Option Handle)
    (hslot : slot < s.setup.bufferCount) (ht : s.content? slot.toNat = some t) :
    Comes compute (.wait h slot) ((takeFault .wait (some slot) s.faults).map (·.1)) slot.toNat t
      (s.endWait h slot) := by
  have hv : s.validate none (some slot) = (.success, s) := by simp [validate, hslot]
  obtain ⟨hslots, -⟩ := slots_enter (s := s) .wait none (some slot)
  have ht' := (content?_congr hslots (i := slot.toNat)).trans ht
  simp only [endWait]
  rcases enter_cases .wait none (some slot) hv with ⟨status, hf, hs, he⟩ | ⟨hf, he⟩
  · rw [if_neg (he ▸ hs), he]
    refine Or.inl ⟨status, hf, hs, rfl, ?_⟩
    exact content?_modifySlot id (fun _ => rfl) ht'
  · rw [if_pos he]
    refine Or.inr ⟨hf, rfl, _, content?_modifySlot
      (fun t => { t with pending := none }) (fun _ => rfl) ht', ?_⟩
    have hpending :
        ((s.enter .wait none (some slot)).2.slot? slot).bind (·.pending) = t.pending := by
      obtain ⟨u, hu, rfl⟩ := Option.map_eq_some_iff.1 ht'
      simp [slot?, hu, Slot.content]
    rw [hpending]
    exact .wait h slot t

/-- A wait that passes the checks goes straight to its end. -/
theorem reply_wait {compute : UInt32 → Bytes → Bytes} {h : Option Handle} (late : Bool)
    (hv : s.validate (some h) (some slot) = (.success, s)) :
    reply compute late (.wait h slot) s = s.endWait h slot := by
  cases late with
  | false =>
      show proceed (s.validate (some h) (some slot)) (endWait h slot) = _
      rw [hv, proceed, if_pos rfl]
  | true => rfl

theorem content?_takeMessage (compute : UInt32 → Bytes → Bytes) (length : UInt32)
    (ht : s.content? slot.toNat = some t) :
    (s.takeMessage compute slot length).content? slot.toNat = some
      { t with
        output := Buffer.overwrite
          ((compute slot (t.input.take length.toNat)).take t.output.length) t.output
        pending := some (UInt32.ofNat (compute slot (t.input.take length.toNat)).length)
        sent := t.sent ++ [t.input.take length.toNat] } := by
  obtain ⟨u, hu, rfl⟩ := Option.map_eq_some_iff.1 ht
  simp [takeMessage, slot?, hu, content?, modifySlot, Slot.take, Slot.content]

/-- **A call about a slot of an open device is struck or does its work.** -/
theorem comes_reply (compute : UInt32 → Bytes → Bytes) (late : Bool) (c : Call)
    (hopen : s.isOpen = true) (hhandle : c.handle? = some (some token))
    (hc : c.slot? = some slot) (hslot : slot < s.setup.bufferCount)
    (hsend : ∀ h i length, c = .send h i length → length ≤ s.setup.bufferSize)
    (ht : s.content? slot.toNat = some t) :
    Comes compute c (strike? late c s) slot.toNat t (reply compute late c s) := by
  have hv := validate_of_open hopen hslot
  have hreply (hne : operation c ≠ .wait) := reply_of_ne compute late hne s
  cases c with
  | present | create | close | readShell | writeShell | readSoft | writeSoft | shellCount
  | bufferCount | bufferSize => cases hc
  | inputPointer h i =>
      obtain rfl : i = slot := Option.some_inj.1 hc
      obtain rfl : h = some token := Option.some_inj.1 hhandle
      rw [hreply (by simp [operation])]
      exact comes_of_proceed hv ht fun s₁ ht₁ _ => ⟨rfl, t, ht₁, .inputPointer _ _ t⟩
  | outputPointer h i =>
      obtain rfl : i = slot := Option.some_inj.1 hc
      obtain rfl : h = some token := Option.some_inj.1 hhandle
      rw [hreply (by simp [operation])]
      exact comes_of_proceed hv ht fun s₁ ht₁ _ => ⟨rfl, t, ht₁, .outputPointer _ _ t⟩
  | inputFull h i =>
      obtain rfl : i = slot := Option.some_inj.1 hc
      obtain rfl : h = some token := Option.some_inj.1 hhandle
      rw [hreply (by simp [operation])]
      refine comes_of_proceed hv ht fun s₁ ht₁ _ => ⟨rfl, t, ?_, .inputFull _ _ t _⟩
      exact content?_modifySlot id (fun _ => rfl) ht₁
  | send h i length =>
      obtain rfl : i = slot := Option.some_inj.1 hc
      obtain rfl : h = some token := Option.some_inj.1 hhandle
      rw [hreply (by simp [operation])]
      refine comes_of_proceed hv ht fun s₁ ht₁ hsetup => ?_
      have hlength : ¬s₁.setup.bufferSize < length := by
        rw [hsetup]
        exact UInt32.not_lt.2 (hsend _ _ _ rfl)
      rw [if_neg hlength]
      exact ⟨rfl, _, content?_takeMessage compute length ht₁, .send _ _ _ t _ rfl⟩
  | wait h i =>
      obtain rfl : i = slot := Option.some_inj.1 hc
      obtain rfl : h = some token := Option.some_inj.1 hhandle
      have hmeets : meetsFaults late (.wait (some token) i) s = true := by
        simp [meetsFaults, hv]
      rw [strike?, if_pos hmeets, reply_wait late hv]
      exact comes_endWait compute _ hslot ht
  | discard h i =>
      obtain rfl : i = slot := Option.some_inj.1 hc
      obtain rfl : h = some token := Option.some_inj.1 hhandle
      rw [hreply (by simp [operation])]
      refine comes_of_proceed hv ht fun s₁ ht₁ _ => ⟨rfl, t, ?_, .discard _ _ t⟩
      exact content?_modifySlot id (fun _ => rfl) ht₁

/-- No call about a slot that exists fails to return. -/
theorem traps_eq_none (c : Call) (hc : c.slot? = some slot) (ht : s.content? slot.toNat = some t) :
    traps c s = none := by
  obtain ⟨u, hu, -⟩ := Option.map_eq_some_iff.1 ht
  have htrap (operation : Operation) (handle : Option (Option Handle)) :
      trapAt slot (s.enter operation handle (some slot)) = none := by
    have hslots := (slots_enter (s := s) operation handle (some slot)).1
    refine if_neg fun hx => ?_
    have hnone := hx.2
    rw [slot?, hslots, hu] at hnone
    cases hnone
  cases c with
  | inputPointer | outputPointer | inputFull | discard =>
      obtain rfl := Option.some_inj.1 hc
      exact htrap _ _
  | send h i length =>
      obtain rfl := Option.some_inj.1 hc
      simp only [traps, htrap, ite_self]
  | _ => rfl

end

end Offload.Simulator
