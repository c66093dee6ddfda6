/-
**A failing call changes nothing else.**

The simulated device has three reasons to fail a call: a fault that was injected, a handle or a slot
that is not accepted, and a check of the call's own.  Whichever it is, the failure is noted, the
earliest fault that was pending for the call is used up, and a wait that a fault has struck takes
its message out of flight.  Everything else is as it was.  The tables of the slots are looked into
only within their bounds, unless a fault with the code of success has let a call come past the check
of its slot.

Main definitions:

* `Simulator.earliest?` — the earliest of the pending faults for a call;
* `Simulator.Unfit`, `Simulator.Refuses`, `Simulator.Objects` — why the device fails a call, with
  the code that it returns and what it says;
* `Simulator.failed` — the state after a failure;
* `Simulator.visits` — the slot that a call looks into.

Main results:

* `Simulator.fails_reply` — a call that does not succeed is answered with the code of a reason, and
  leaves the state of that failure;
* `Simulator.Reachable.failure_contained` — **a failing call changes nothing else, and calls stay in
  their bounds**.
-/

import Offload.Proofs.Simulator.Reachable
import Offload.Proofs.Simulator.Obliges

set_option autoImplicit false
set_option relaxedAutoImplicit false

namespace Offload.Simulator

open Native

/-! ### Reasons to fail a call -/

/-- The earliest of the pending faults for a call. -/
def earliest? (c : Call) (s : Simulator) : Option Fault :=
  s.faults.find? (·.isFor (operation c) c.slot?)

/-- The handle or the slot of a call is not accepted. -/
inductive Unfit (handle : Option (Option Handle)) (slot : Option UInt32) (s : Simulator) :
    Status → String → Prop
  | handle {h : Option Handle} (hhandle : handle = some h)
      (hwrong : s.isOpen = false ∨ h ≠ some token) :
      Unfit handle slot s .invalidHandle "invalid handle"
  | slot {i : UInt32} (hhandle : ∀ h, handle = some h → s.isOpen = true ∧ h = some token)
      (hslot : slot = some i) (hout : s.setup.bufferCount ≤ i) :
      Unfit handle slot s .bufferIndexOutOfRange s!"buffer {i.toNat} out of range"

/-- The register of a call. -/
def register? : Call → Option UInt32
  | .readShell _ index | .writeShell _ index _ => some index
  | _ => none

/-- A call fails by a check of its own. -/
inductive Refuses (c : Call) (s : Simulator) : Status → String → Prop
  | absent {params : OpenParams} (hc : c = .present params) (habsent : s.setup.present = false) :
      Refuses c s .deviceNotFound "no device"
  | register {index : UInt32} (hc : register? c = some index)
      (hout : s.shell.length ≤ index.toNat) :
      Refuses c s .registerOutOfRange "no such register"
  | length {h : Option Handle} {slot length : UInt32} (hc : c = .send h slot length)
      (hlong : s.setup.bufferSize < length) :
      Refuses c s .invalidArgument "send length too large"

/-- The reasons to fail a call, in the order in which they are looked for.  A wait is checked before
it looks for faults, every other call is checked only if there is no fault for it; `late` tells a
wait that had blocked, which is not checked again. -/
inductive Objects (late : Bool) (c : Call) (s : Simulator) : Status → String → Prop
  | struck {f : Fault} (hmeets : meetsFaults late c s = true) (hf : earliest? c s = some f)
      (hstatus : f.status ≠ .success) : Objects late c s f.status (injected (operation c))
  | unfit {status : Status} {text : String}
      (hchecked : late = false ∧ operation c = .wait ∨ operation c ≠ .wait ∧ earliest? c s = none)
      (hunfit : Unfit c.handle? c.slot? s status text) : Objects late c s status text
  | refused {status : Status} {text : String}
      (hpassed : ∀ f, earliest? c s = some f → f.status = .success)
      (hrefused : Refuses c s status text) : Objects late c s status text

/-- The pending faults after a call: the earliest one for it is used up, unless the call did not get
as far as the faults. -/
def unspent (late : Bool) (c : Call) (s : Simulator) : List Fault :=
  if meetsFaults late c s then s.faults.eraseP (·.isFor (operation c) c.slot?) else s.faults

/-- The slots after a call has failed: a wait that got as far as the faults has taken its message
out of flight. -/
def withdrawn (late : Bool) (c : Call) (s : Simulator) : List Slot :=
  match c with
  | .wait h slot =>
      if meetsFaults late (.wait h slot) s then
        s.slots.modify slot.toNat fun t => { t with inFlight := false }
      else s.slots
  | _ => s.slots

/-- The state after a call has failed. -/
def failed (s : Simulator) (late : Bool) (c : Call) (status : Status) (text : String) :
    Simulator :=
  { s with
    faults := unspent late c s
    slots := withdrawn late c s
    lastError := status.code
    lastErrorText := text }

/-- A call fails for a reason and leaves the state of this failure. -/
def Fails (late : Bool) (c : Call) (s : Simulator) (r : Reply c × Simulator) : Prop :=
  ∃ status text, Objects late c s status text ∧ r = (.plain status, s.failed late c status text)

section

variable {compute : UInt32 → Bytes → Bytes} {s : Simulator} {c : Call} {late : Bool}

/-! ### Failing -/

/-- The checks of a handle and of a slot pass, or there is a reason why they do not. -/
theorem validate_cases (s : Simulator) (handle : Option (Option Handle)) (slot : Option UInt32) :
    s.validate handle slot = (.success, s) ∨ ∃ status text, Unfit handle slot s status text := by
  unfold validate
  by_cases hwrong : handle.any fun h => !s.isOpen || decide (h ≠ some token)
  · obtain ⟨h, rfl, hh⟩ := (Option.any_eq_true _ _).1 hwrong
    exact Or.inr ⟨_, _, .handle rfl (by simpa using hh)⟩
  · have hright : ∀ h, handle = some h → s.isOpen = true ∧ h = some token := by
      rintro h rfl
      simpa using hwrong
    rw [if_neg hwrong]
    cases slot with
    | none => exact Or.inl rfl
    | some i =>
        by_cases hi : i < s.setup.bufferCount
        · exact Or.inl (if_pos hi)
        · exact Or.inr ⟨_, _, .slot hright rfl (UInt32.not_lt.1 hi)⟩

theorem Unfit.validate_eq {handle : Option (Option Handle)} {slot : Option UInt32}
    {status : Status} {text : String} (h : Unfit handle slot s status text) :
    s.validate handle slot = s.fail status text ∧ status ≠ .success := by
  cases h with
  | @handle h hhandle hwrong =>
      have hany : (!s.isOpen || decide (h ≠ some token)) = true := by simpa using hwrong
      refine ⟨?_, by decide⟩
      unfold validate
      rw [hhandle, Option.any_some, if_pos hany]
  | @slot i hhandle hslot hout =>
      have hnone : ¬handle.any (fun h => !s.isOpen || decide (h ≠ some token)) = true := by
        rw [Option.any_eq_true]
        rintro ⟨h, hh, hwrong⟩
        obtain ⟨hopen, rfl⟩ := hhandle h hh
        simp [hopen] at hwrong
      refine ⟨?_, by decide⟩
      unfold validate
      rw [if_neg hnone, hslot]
      exact if_neg (UInt32.not_lt.2 hout)

theorem lt_of_validate {handle : Option (Option Handle)} {slot : UInt32}
    (h : (s.validate handle (some slot)).1 = .success) : slot < s.setup.bufferCount := by
  unfold validate at h
  split at h
  · cases h
  · by_cases hslot : slot < s.setup.bufferCount
    · exact hslot
    · simp only [if_neg hslot] at h
      cases h

theorem unspent_of_none (hf : earliest? c s = none) : unspent late c s = s.faults := by
  have hnone := List.find?_eq_none.1 hf
  unfold unspent
  split
  · exact List.eraseP_of_forall_not fun f hmem => hnone f hmem
  · rfl

theorem meetsFaults_of_ne (late : Bool) (hc : operation c ≠ .wait) (s : Simulator) :
    meetsFaults late c s = true := by
  cases c with
  | wait => exact absurd rfl hc
  | _ => rfl

theorem withdrawn_of_ne (late : Bool) (hc : operation c ≠ .wait) (s : Simulator) :
    withdrawn late c s = s.slots := by
  cases c with
  | wait => exact absurd rfl hc
  | _ => rfl

/-- The beginning of a call that meets a fault. -/
theorem enter_of_earliest {f : Fault} (hf : earliest? c s = some f)
    (handle : Option (Option Handle)) :
    s.enter (operation c) handle c.slot? =
      (f.status, { s with
        faults := s.faults.eraseP (·.isFor (operation c) c.slot?)
        lastError := f.status.code
        lastErrorText := injected (operation c) }) := by
  unfold earliest? at hf
  rw [enter, takeFault_eq, hf]
  rfl

theorem enter_of_none (hf : earliest? c s = none) (handle : Option (Option Handle)) :
    s.enter (operation c) handle c.slot? = s.validate handle c.slot? := by
  unfold earliest? at hf
  rw [enter, takeFault_eq, hf]
  rfl

theorem proceed_of_success {entered : Status × Simulator} {go : Simulator → Reply c × Simulator}
    (h : entered.1 = .success) : proceed entered go = go entered.2 := if_pos h

theorem proceed_of_ne {entered : Status × Simulator} {go : Simulator → Reply c × Simulator}
    (h : entered.1 ≠ .success) : proceed entered go = (.plain entered.1, entered.2) := if_neg h

/-- A call that looks for faults first fails by one of them, by the checks of its handle and slot,
or by a check of its own. -/
theorem fails_proceed {go : Simulator → Reply c × Simulator} (hc : operation c ≠ .wait)
    (hgo : ∀ t : Simulator, t.setup = s.setup → t.shell = s.shell →
      (go t).1.status ≠ .success →
        ∃ status text, Refuses c s status text ∧ go t = t.refuse status text)
    (hstatus : (proceed (s.enter (operation c) c.handle? c.slot?) go).1.status ≠ .success) :
    Fails late c s (proceed (s.enter (operation c) c.handle? c.slot?) go) := by
  have hmeets := meetsFaults_of_ne late hc s
  have hslots := withdrawn_of_ne late hc s
  cases hf : earliest? c s with
  | some f =>
      have hunspent : unspent late c s = s.faults.eraseP (·.isFor (operation c) c.slot?) :=
        if_pos hmeets
      have henter := enter_of_earliest hf c.handle?
      rw [henter] at hstatus ⊢
      by_cases hsuccess : f.status = .success
      · -- the fault lets the call go on to its own check
        rw [proceed_of_success hsuccess] at hstatus ⊢
        obtain ⟨status, text, hrefused, hgo⟩ := hgo
          { s with
            faults := s.faults.eraseP (·.isFor (operation c) c.slot?)
            lastError := f.status.code
            lastErrorText := injected (operation c) } rfl rfl hstatus
        have hpassed : ∀ g, earliest? c s = some g → g.status = .success := by
          intro g hg
          rw [hf] at hg
          exact Option.some_inj.1 hg ▸ hsuccess
        refine ⟨status, text, .refused hpassed hrefused, ?_⟩
        rw [hgo, failed, hunspent, hslots]
        rfl
      · refine ⟨f.status, _, .struck hmeets hf hsuccess, ?_⟩
        rw [proceed_of_ne hsuccess, failed, hunspent, hslots]
  | none =>
      have hunspent : unspent late c s = s.faults := unspent_of_none hf
      rw [enter_of_none hf] at hstatus ⊢
      rcases validate_cases s c.handle? c.slot? with hv | ⟨status, text, hunfit⟩
      · rw [hv, proceed_of_success rfl] at hstatus ⊢
        obtain ⟨status, text, hrefused, hgo⟩ := hgo s rfl rfl hstatus
        refine ⟨status, text, .refused (by simp [hf]) hrefused, ?_⟩
        rw [hgo, failed, hunspent, hslots]
        rfl
      · obtain ⟨hv, hne⟩ := hunfit.validate_eq
        refine ⟨status, text, .unfit (Or.inr ⟨hc, hf⟩) hunfit, ?_⟩
        rw [hv, proceed_of_ne hne, failed, hunspent, hslots]
        rfl

theorem fails_endWait {h : Option Handle} {slot : UInt32}
    (hmeets : meetsFaults late (.wait h slot) s = true) (hslot : slot < s.setup.bufferCount)
    (hstatus : (s.endWait h slot).1.status ≠ .success) :
    Fails late (.wait h slot) s (s.endWait h slot) := by
  cases hf : earliest? (.wait h slot) s with
  | some f =>
      have henter : s.enter .wait none (some slot) = _ := enter_of_earliest hf none
      simp only [endWait, henter] at hstatus ⊢
      by_cases hsuccess : f.status = .success
      · rw [if_pos hsuccess] at hstatus
        exact absurd rfl hstatus
      · refine ⟨f.status, _, .struck hmeets hf hsuccess, ?_⟩
        have hunspent : unspent late (.wait h slot) s =
            s.faults.eraseP (·.isFor .wait (some slot)) := if_pos hmeets
        have hslots : withdrawn late (.wait h slot) s =
            s.slots.modify slot.toNat fun t => { t with inFlight := false } := if_pos hmeets
        rw [if_neg hsuccess, failed, hunspent, hslots]
        rfl
  | none =>
      have henter : s.enter .wait none (some slot) = s.validate none (some slot) :=
        enter_of_none hf none
      have hv : s.validate none (some slot) = (.success, s) := by simp [validate, hslot]
      simp only [endWait, henter, hv, if_true] at hstatus
      exact absurd rfl hstatus

/-- **A call that does not succeed is answered with the code of a reason, and leaves the state of
this failure.** -/
theorem fails_reply (hlate : late = true → ∃ h slot, c = .wait h slot ∧ slot < s.setup.bufferCount)
    (hstatus : (reply compute late c s).1.status ≠ .success) :
    Fails late c s (reply compute late c s) := by
  have hcall (hne : operation c ≠ .wait) := reply_of_ne compute late hne s
  cases c with
  | wait h slot =>
      cases late with
      | true =>
          -- a late wait has its checks behind it: only its end can fail
          obtain ⟨h', slot', hc, hslot⟩ := hlate rfl
          cases hc
          exact fails_endWait rfl hslot hstatus
      | false =>
          have hreply : reply compute false (.wait h slot) s =
              proceed (s.validate (some h) (some slot)) (endWait h slot) := rfl
          rw [hreply] at hstatus ⊢
          rcases validate_cases s (some h) (some slot) with hv | ⟨status, text, hunfit⟩
          · have hslot : slot < s.setup.bufferCount := lt_of_validate (congrArg Prod.fst hv)
            rw [hv, proceed_of_success rfl] at hstatus ⊢
            exact fails_endWait (by simp [meetsFaults, hv]) hslot hstatus
          · obtain ⟨hv, hne⟩ := hunfit.validate_eq
            have hmeets : meetsFaults false (.wait h slot) s = false := by
              simp [meetsFaults, hv, fail, hne]
            refine ⟨status, text, .unfit (Or.inl ⟨rfl, rfl⟩) hunfit, ?_⟩
            rw [hv, proceed_of_ne hne]
            simp only [failed, unspent, withdrawn, hmeets, Bool.false_eq_true, if_false]
            rfl
  | present params =>
      rw [hcall (by simp [operation])] at hstatus ⊢
      refine fails_proceed (by simp [operation]) (fun t ht _ hgo => ?_) hstatus
      cases hpresent : t.setup.present with
      | true => simp [hpresent] at hgo
      | false => exact ⟨_, _, .absent rfl (ht ▸ hpresent), by simp⟩
  | readShell h index =>
      rw [hcall (by simp [operation])] at hstatus ⊢
      refine fails_proceed (by simp [operation]) (fun t _ ht hgo => ?_) hstatus
      cases hvalue : t.shell[index.toNat]? with
      | some value => simp [hvalue] at hgo
      | none =>
          exact ⟨_, _, .register rfl (ht ▸ List.getElem?_eq_none_iff.1 hvalue), by simp⟩
  | writeShell h index value =>
      rw [hcall (by simp [operation])] at hstatus ⊢
      refine fails_proceed (by simp [operation]) (fun t _ ht hgo => ?_) hstatus
      by_cases hindex : index.toNat < t.shell.length
      · simp [hindex] at hgo
      · exact ⟨_, _, .register rfl (ht ▸ Nat.not_lt.1 hindex), if_neg hindex⟩
  | send h slot length =>
      rw [hcall (by simp [operation])] at hstatus ⊢
      refine fails_proceed (by simp [operation]) (fun t ht _ hgo => ?_) hstatus
      by_cases hlength : t.setup.bufferSize < length
      · exact ⟨_, _, .length rfl (ht ▸ hlength), if_pos hlength⟩
      · simp [hlength] at hgo
  | _ =>
      rw [hcall (by simp [operation])] at hstatus ⊢
      exact fails_proceed (by simp [operation]) (fun t _ _ hgo => absurd rfl hgo) hstatus

/-- The fault that a failing call uses up has supplied the code, unless its own is the code of
success. -/
theorem Objects.supplied {status : Status} {text : String} (h : Objects late c s status text)
    (hmeets : meetsFaults late c s = true) {f : Fault} (hf : earliest? c s = some f) :
    f.status = .success ∨ f.status = status := by
  cases h with
  | struck _ hf' _ =>
      rw [hf] at hf'
      exact Or.inr (congrArg Fault.status (Option.some_inj.1 hf'))
  | unfit hchecked hunfit =>
      rcases hchecked with ⟨rfl, hwait⟩ | ⟨-, hnone⟩
      · -- a wait that is not accepted does not get as far as the faults
        cases c with
        | wait h slot =>
            have hv : (s.validate (some h) (some slot)).1 = .success := by
              simpa [meetsFaults] using hmeets
            have hrefused : s.validate (some h) (some slot) = _ := hunfit.validate_eq.1
            rw [hrefused] at hv
            exact absurd hv hunfit.validate_eq.2
        | _ => cases hwait
      · rw [hnone] at hf
        cases hf
  | refused hpassed _ => exact Or.inl (hpassed f hf)

/-! ### Bounds -/

/-- The slot that a call looks into: it does so once its checks are passed. -/
def visits (late : Bool) (c : Call) (s : Simulator) : Option UInt32 :=
  match c with
  | .inputPointer h slot | .outputPointer h slot =>
      if (s.enter .bufferPointer (some h) (some slot)).1 = .success then some slot else none
  | .inputFull h slot =>
      if (s.enter .inputFull (some h) (some slot)).1 = .success then some slot else none
  | .send h slot length =>
      if length ≤ s.setup.bufferSize ∧ (s.enter .send (some h) (some slot)).1 = .success then
        some slot
      else none
  | .wait h slot => if meetsFaults late (.wait h slot) s then some slot else none
  | .discard h slot =>
      if (s.enter .discard (some h) (some slot)).1 = .success then some slot else none
  | _ => none

/-- A call that begins well although its slot does not exist has met a fault with the code of
success. -/
theorem earliest?_of_enter {handle : Option (Option Handle)} {slot : UInt32}
    (hc : c.slot? = some slot) (hout : s.setup.bufferCount ≤ slot)
    (henter : (s.enter (operation c) handle (some slot)).1 = .success) :
    ∃ f, earliest? c s = some f ∧ f.status = .success := by
  rw [← hc] at henter
  cases hf : earliest? c s with
  | some f =>
      rw [enter_of_earliest hf] at henter
      exact ⟨f, rfl, henter⟩
  | none =>
      rw [enter_of_none hf, hc] at henter
      exact absurd (lt_of_validate henter) (UInt32.not_lt.2 hout)

/-- A call that never returns has looked for a slot that does not exist, and the other way
round. -/
theorem isSome_trapAt_iff {operation : Operation} {handle : Option (Option Handle)}
    {slot : UInt32} :
    (trapAt slot (s.enter operation handle (some slot))).isSome = true ↔
      (s.enter operation handle (some slot)).1 = .success ∧ s.slot? slot = none := by
  have hslot : (s.enter operation handle (some slot)).2.slot? slot = s.slot? slot := by
    rw [slot?, (slots_enter operation handle (some slot)).1, slot?]
  unfold trapAt
  rw [hslot]
  split
  · next hx => exact ⟨fun _ => hx, fun _ => rfl⟩
  · next hx => exact ⟨fun h => absurd h Bool.false_ne_true, fun h => absurd h hx⟩

variable {setup : Setup} {faults : List Fault} {blocked : List Call}

theorem Reachable.mem_blocked (h : Reachable compute setup faults blocked s) (hc : c ∈ blocked) :
    ∃ hd slot, c = .wait hd slot ∧ slot < setup.bufferCount := by
  induction h with
  | fresh => cases hc
  | hook _ _ _ ih | call _ _ _ _ ih | trap _ _ _ ih | store _ _ _ _ ih => exact ih hc
  | resume c' hs hmem hblocks ih => exact ih (List.mem_of_mem_erase hc)
  | block c' hs hblocks ih =>
      rcases List.mem_cons.1 hc with rfl | hc
      · cases c with
        | wait hd slot =>
            have hv := (Bool.and_eq_true_iff.1 hblocks).1
            exact ⟨hd, slot, rfl, hs.setup_eq ▸ lt_of_validate (of_decide_eq_true hv)⟩
        | _ => cases hblocks
      · exact ih hc

/-- The calls that never return are those that look into a slot that does not exist. -/
theorem isSome_traps_iff (hlate : late = true → operation c = .wait)
    (hwait : ∀ h slot, c = .wait h slot → meetsFaults late c s = true → s.slot? slot ≠ none) :
    (traps c s).isSome = true ↔ ∃ slot, visits late c s = some slot ∧ s.slot? slot = none := by
  have hvisit {p : Prop} [Decidable p] {slot : UInt32} :
      (∃ slot', (if p then some slot else none) = some slot' ∧ s.slot? slot' = none) ↔
        p ∧ s.slot? slot = none := by
    by_cases hp : p <;> simp [hp]
  cases c with
  | wait h slot =>
      refine ⟨fun htraps => absurd htraps Bool.false_ne_true, fun hslot => ?_⟩
      obtain ⟨hmeets, hnone⟩ := hvisit.1 hslot
      exact absurd hnone (hwait h slot rfl hmeets)
  | inputPointer | outputPointer | inputFull | discard =>
      exact isSome_trapAt_iff.trans hvisit.symm
  | send h slot length =>
      refine Iff.trans ?_ hvisit.symm
      simp only [traps]
      split
      · next hlength => simpa [hlength] using isSome_trapAt_iff
      · next hlength => simp [hlength]
  | _ =>
      refine ⟨fun htraps => absurd htraps Bool.false_ne_true, ?_⟩
      rintro ⟨slot, hslot, -⟩
      cases hslot

theorem earliest?_of_visits {slot : UInt32} (hvisits : visits late c s = some slot)
    (hout : s.setup.bufferCount ≤ slot) (hne : operation c ≠ .wait) :
    c.slot? = some slot ∧ operation c ∈ [.bufferPointer, .inputFull, .send, .discard] ∧
      ∃ f, earliest? c s = some f ∧ f.status = .success := by
  have hif {p : Prop} [Decidable p] {i : UInt32}
      (h : (if p then some i else none) = some slot) : p ∧ i = slot := by
    split at h
    · next hp => exact ⟨hp, Option.some_inj.1 h⟩
    · cases h
  cases c with
  | wait => exact absurd rfl hne
  | inputPointer | outputPointer | inputFull | discard =>
      obtain ⟨henter, rfl⟩ := hif hvisits
      exact ⟨rfl, by simp [operation], earliest?_of_enter rfl hout henter⟩
  | send h i length =>
      obtain ⟨⟨-, henter⟩, rfl⟩ := hif hvisits
      exact ⟨rfl, by simp [operation], earliest?_of_enter rfl hout henter⟩
  | _ => cases hvisits

/-- **A failing call changes nothing else, and calls stay in their bounds.**  In every state that
the device gets into, and for a call with any arguments, which may be a wait that had blocked:

* the call never returns exactly if it looks into a slot that does not exist, and this happens only
  to a call for a pointer, to ask for room, to send or to discard, with a slot beyond the count,
  when the earliest fault for it has the code of success; a message is read within its region;
* the pending faults stand in the order of their injection;
* if the call does not succeed, it returns the code of a reason and stores nothing, and the state is
  the one before with this failure noted, the earliest fault for the call used up, and the message
  of a struck wait out of flight; the fault has supplied the code unless its own is the code of
  success. -/
theorem Reachable.failure_contained (h : Reachable compute setup faults blocked s) (c : Call)
    (late : Bool) (hlate : late = true → c ∈ blocked) :
    ((traps c s).isSome = true ↔
        ∃ slot, visits late c s = some slot ∧ s.slot? slot = none) ∧
      (∀ slot, visits late c s = some slot → s.slot? slot = none →
        c.slot? = some slot ∧ operation c ∈ [.bufferPointer, .inputFull, .send, .discard] ∧
          setup.bufferCount ≤ slot ∧ ∃ f, earliest? c s = some f ∧ f.status = .success) ∧
      (∀ hd slot length t, c = .send hd slot length → visits late c s = some slot →
        s.slot? slot = some t → length.toNat ≤ t.input.length) ∧
      s.faults.Sublist faults ∧
      ((reply compute late c s).1.status ≠ .success →
        ∃ status text, Objects late c s status text ∧
          reply compute late c s = (.plain status, s.failed late c status text) ∧
          ∀ f, meetsFaults late c s = true → earliest? c s = some f →
            f.status = .success ∨ f.status = status) := by
  have hsetup := h.setup_eq
  have hblocked (hl : late = true) := h.mem_blocked (hlate hl)
  -- a wait looks into its slot only after the slot has been accepted
  have hwait : ∀ hd slot, c = .wait hd slot → meetsFaults late c s = true →
      s.slot? slot ≠ none := by
    rintro hd slot rfl hmeets hnone
    have hout := (h.slot?_eq_none_iff slot).1 hnone
    refine absurd ?_ (UInt32.not_lt.2 hout)
    cases hl : late with
    | true =>
        obtain ⟨hd', slot', heq, hslot⟩ := hblocked hl
        cases heq
        exact hslot
    | false =>
        rw [hl] at hmeets
        exact hsetup ▸ lt_of_validate (of_decide_eq_true hmeets)
  refine ⟨isSome_traps_iff ?_ hwait, ?_, ?_, h.faults_sublist, ?_⟩
  · intro hl
    obtain ⟨hd, slot, rfl, -⟩ := hblocked hl
    rfl
  · intro slot hvisits hnone
    have hout := (h.slot?_eq_none_iff slot).1 hnone
    have hne : operation c ≠ .wait := by
      intro heq
      cases c with
      | wait hd i =>
          simp only [visits] at hvisits
          split at hvisits
          · next hmeets =>
              cases hvisits
              exact hwait hd slot rfl hmeets hnone
          · cases hvisits
      | _ => cases heq
    obtain ⟨hc, hmem, hf⟩ := earliest?_of_visits hvisits (hsetup ▸ hout) hne
    exact ⟨hc, hmem, hout, hf⟩
  · rintro hd slot length t rfl hvisits ht
    simp only [visits] at hvisits
    split at hvisits
    · next hpassed =>
        rw [h.length_input ht, ← hsetup]
        exact UInt32.le_iff_toNat_le.1 hpassed.1
    · cases hvisits
  · intro hstatus
    obtain ⟨status, text, hobjects, hreply⟩ := fails_reply (hsetup ▸ hblocked) hstatus
    exact ⟨status, text, hobjects, hreply, fun f hmeets hf => hobjects.supplied hmeets hf⟩

/-- A wait blocks on a held slot, a fault is injected and the slot released: the wait returns the
code of the fault, which is used up, and the message is out of flight. -/
theorem failure_contained_struck_wait :
    ∃ s : Simulator, (s.slots.map (·.inFlight) = [true] ∧
        (reply (fun _ message => message) true (.wait (some token) 0) s).1.status = .driverError ∧
        (reply (fun _ message => message) true (.wait (some token) 0) s).2.slots.map
          (·.inFlight) = [false]) ∧
      ∃ status text, Objects true (.wait (some token) 0) s status text ∧
        reply (fun _ message => message) true (.wait (some token) 0) s =
          (.plain status, s.failed true (.wait (some token) 0) status text) := by
  have h₀ : Reachable (fun _ message => message) ⟨true, 1, 4, 1⟩ [] [] (fresh ⟨true, 1, 4, 1⟩) :=
    .fresh
  have h₁ := h₀.call (.create 0 ⟨none, none, false⟩) rfl rfl
  have h₂ := h₁.call (.send (some token) 0 2) rfl rfl
  have h₃ := h₂.hook (.hold 0) rfl
  have h₄ := h₃.block (.wait (some token) 0) rfl
  have h₅ := h₄.hook (.failNext ⟨.wait, none, .driverError⟩) rfl
  have h₆ := h₅.hook (.release 0) rfl
  obtain ⟨-, -, -, -, hfails⟩ :=
    h₆.failure_contained (.wait (some token) 0) true fun _ => List.mem_singleton_self _
  obtain ⟨status, text, hobjects, hreply, -⟩ := hfails (by decide +kernel)
  refine ⟨_, ?_, status, text, hobjects, hreply⟩
  decide +kernel

end

end Offload.Simulator
