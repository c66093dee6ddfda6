/-
**Devices and exchanges, by the kind of their operations.**

Opening, setting up and closing a device is about the device as a whole: all that it takes are calls
about no slot, queries about the last failure, and lines.  An exchange takes calls about a slot with
the handle of its session, and accesses to shared memory besides.  So whatever holds of all these
operations holds of every operation of a device.

Main definitions:

* `Native.AdmitsSlotless`, `Native.AdmitsTransfers`, `Native.AdmitsExchanges` — kinds that take in
  the operations on a device as a whole, those that follow once a slot is ready, and those of the
  exchanges with its slots.

Main results:

* `Device.every_bringUp`, `Device.every_close` — **opening and closing a device**;
* `Exchange.every_transfer` — all that follows once a slot is ready;
* `Exchange.every_deviceRound` — **a round of an exchange**.
-/

import Offload.Device.Exchange
import Offload.Proofs.Native.Meets

set_option autoImplicit false
set_option relaxedAutoImplicit false

namespace Offload

open Native

namespace Native

/-- A kind of operations that takes in the calls about no slot, and reports. -/
structure AdmitsSlotless (P : Op → Prop) : Prop extends AdmitsReports P where
  slotless : ∀ c : Call, c.slot? = none → P (.call c)

/-- A kind of operations that takes in the calls about slots with one handle, the accesses to shared
memory, and reports. -/
structure AdmitsExchanges (h : Handle) (P : Op → Prop) : Prop extends AdmitsReports P where
  onSlot : ∀ c : Call, c.handle? = some (some h) → c.slot? ≠ none → P (.call c)
  store : ∀ region data, P (.store region data)
  fetch : ∀ region length, P (.fetch region length)

/-- The same without the question whether a slot is ready. -/
structure AdmitsTransfers (h : Handle) (P : Op → Prop) : Prop extends AdmitsReports P where
  onSlot : ∀ c : Call, c.handle? = some (some h) → c.slot? ≠ none →
    (∀ slot, c ≠ .inputFull h slot) → P (.call c)
  store : ∀ region data, P (.store region data)
  fetch : ∀ region length, P (.fetch region length)

theorem AdmitsExchanges.toTransfers {h : Handle} {P : Op → Prop} (hP : AdmitsExchanges h P) :
    AdmitsTransfers h P where
  toAdmitsReports := hP.toAdmitsReports
  onSlot c hhandle hslot _ := hP.onSlot c hhandle hslot
  store := hP.store
  fetch := hP.fetch

end Native

variable {P : Op → Prop}

/-! ### Devices -/

theorem every_noteUnloaded (hP : AdmitsReports P) (library : Option String) :
    (noteUnloaded library).Every P := by
  cases library with
  | none => trivial
  | some path => exact every_logLine hP

/-- An action that ends with the text of the last failure. -/
theorem every_lastErrorText (hP : AdmitsReports P) {α : Type} (error : String → Error) :
    (liftM lastErrorText >>= fun text => throw (error text) : Action α).run.Every P :=
  every_action_bind (every_lift (every_perform hP.lastErrorText)) fun _ => trivial

namespace Device

theorem every_slotless (hP : AdmitsSlotless P) {c : Call} {prepared : c.Stored}
    (hc : c.slot? = none) : (request c prepared).run.Every P :=
  every_request hP.toAdmitsReports (hP.slotless c hc)

theorem every_queryCapabilities (hP : AdmitsSlotless P) (handle : Handle) :
    (queryCapabilities handle).run.Every P :=
  every_action_bind (every_slotless hP rfl) fun _ =>
    every_action_bind (every_slotless hP rfl) fun _ =>
      every_action_bind (every_slotless hP rfl) fun _ => trivial

theorem every_requirePresence (hP : AdmitsSlotless P) (params : OpenParams) :
    (requirePresence params).run.Every P := by
  refine every_action_bind (every_lift (every_perform (hP.slotless _ rfl))) fun reply => ?_
  split
  · trivial
  · exact every_lastErrorText hP.toAdmitsReports _

theorem every_createHandle (hP : AdmitsSlotless P) (endpoint : UInt32) (params : OpenParams) :
    (createHandle endpoint params).run.Every P := by
  refine every_action_bind (every_lift (every_perform (hP.slotless _ rfl))) fun reply => ?_
  split
  · split
    · trivial
    · exact every_lastErrorText hP.toAdmitsReports _
  · exact every_lastErrorText hP.toAdmitsReports _

/-- If the capabilities cannot be had the handle is given back, which is about no slot either. -/
theorem every_settleHandle (hP : AdmitsSlotless P) (handle : Handle) :
    (settleHandle handle).run.Every P := by
  refine every_outcome_bind (every_queryCapabilities hP handle) fun r => ?_
  cases r with
  | ok capabilities => trivial
  | error e =>
      refine every_outcome_bind (every_slotless hP rfl) fun closed => ?_
      cases closed with
      | ok => trivial
      | error e' => exact every_lift_throw (every_logLine hP.toAdmitsReports)

theorem every_acquire (hP : AdmitsSlotless P) (endpoint : UInt32) (params : OpenParams) :
    (acquire endpoint params).run.Every P :=
  every_action_bind (every_requirePresence hP params) fun _ =>
    every_action_bind (every_createHandle hP endpoint params) fun handle =>
      every_action_bind (every_settleHandle hP handle) fun _ => trivial

/-- **Opening a device.** -/
theorem every_bringUp (hP : AdmitsSlotless P) (library : Option String) (endpoint : UInt32)
    (params : OpenParams) : (bringUp library endpoint params).run.Every P := by
  refine every_outcome_bind (every_acquire hP endpoint params) fun r => ?_
  cases r with
  | ok opened =>
      exact every_action_bind (every_lift (every_logLine hP.toAdmitsReports)) fun _ => trivial
  | error e => exact every_lift_throw (every_noteUnloaded hP.toAdmitsReports library)

theorem every_setPcieEnabled (hP : AdmitsSlotless P) (session : Session) (enabled : Bool) :
    (session.setPcieEnabled enabled).run.Every P :=
  every_action_bind (every_slotless hP rfl) fun _ => every_slotless hP rfl

/-- An operation on the session of a device. -/
theorem every_withSession {α : Type} (d : Device) {operation : Session → Action α}
    (h : ∀ session, d.session = some session → (operation session).run.Every P) :
    (d.withSession operation).run.Every P := by
  unfold withSession
  cases hs : d.session with
  | some session => exact h session hs
  | none => trivial

theorem every_warnOnError (hP : AdmitsReports P) (what : String) {step : Action Unit}
    (hstep : step.run.Every P) : (warnOnError what step).Every P := by
  refine every_bind hstep fun r => ?_
  cases r with
  | ok => trivial
  | error e => exact every_logLine hP

/-- **Closing a device.** -/
theorem every_close (hP : AdmitsSlotless P) (d : Device) : d.close.Every P := by
  cases hs : d.session with
  | none =>
      rw [close, hs]
      trivial
  | some session =>
      have hreports := hP.toAdmitsReports
      rw [close, hs]
      refine every_bind ?_ fun _ => trivial
      refine every_bind
        (every_warnOnError hreports _ (every_setPcieEnabled hP session false)) fun _ => ?_
      refine every_bind (every_warnOnError hreports _ (every_slotless hP rfl)) fun _ => ?_
      exact every_bind (every_noteUnloaded hreports d.library) fun _ => every_logLine hreports

end Device

/-! ### Exchanges -/

namespace Exchange

variable {s : Session}

theorem every_onSlot (hP : AdmitsTransfers s.handle P) {c : Call} {prepared : c.Stored}
    (hhandle : c.handle? = some (some s.handle)) (hslot : c.slot? ≠ none)
    (hquestion : ∀ slot, c ≠ .inputFull s.handle slot) : (request c prepared).run.Every P :=
  every_request hP.toAdmitsReports (hP.onSlot c hhandle hslot hquestion)

/-- The view of a region. -/
theorem every_view (hP : AdmitsTransfers s.handle P) {c : Call} {prepared : c.Stored}
    {ofStored : c.Stored → Outcome View} (hhandle : c.handle? = some (some s.handle))
    (hslot : c.slot? ≠ none) (hquestion : ∀ slot, c ≠ .inputFull s.handle slot) :
    (request c prepared >>= fun stored => liftM (ofStored stored)).run.Every P :=
  every_action_bind (every_onSlot hP hhandle hslot hquestion) fun _ => trivial

/-- A copy, which may be refused. -/
theorem every_copy {o : Op} {length capacity : Nat} (ho : P o) :
    (liftM (Buffer.checkBounds length capacity) >>= fun _ => liftM (perform o) :
      Action o.Answer).run.Every P := by
  refine every_action_bind ?_ fun _ => every_perform ho
  trivial

/-- **All that follows once a slot is ready.** -/
theorem every_transfer (hP : AdmitsTransfers s.handle P) (slot : UInt32) (input : Bytes) :
    (transfer s slot input).run.Every P := by
  have hlog {level : Log.Level} {text : String} :
      (liftM (logLine level text) : Action Unit).run.Every P :=
    every_lift (every_logLine hP.toAdmitsReports)
  have houtcome {α : Type} {a : Action α} (ha : a.run.Every P) : (outcome a).run.Every P :=
    every_lift ha
  have hlift {α : Type} (r : Outcome α) : (liftM r : Action α).run.Every P := trivial
  refine every_action_bind (hlift _) fun length => ?_
  refine every_action_bind (every_view hP rfl nofun nofun) fun input => ?_
  refine every_action_bind (every_view hP rfl nofun nofun) fun output => ?_
  refine every_action_bind (every_copy (hP.store _ _)) fun _ => ?_
  refine every_action_bind (every_onSlot hP rfl nofun nofun) fun _ => ?_
  refine every_action_bind hlog fun _ => ?_
  refine every_action_bind (every_onSlot hP rfl nofun nofun) fun received => ?_
  refine every_action_bind (houtcome (every_copy (hP.fetch _ _))) fun response => ?_
  refine every_action_bind (houtcome (every_onSlot hP rfl nofun nofun)) fun discarded => ?_
  refine every_action_bind (hlift _) fun bytes => ?_
  refine every_action_bind (hlift _) fun _ => ?_
  exact every_action_bind hlog fun _ => trivial

/-- **A round of an exchange** takes what exchanges with the handle of its session take. -/
theorem every_deviceRound (d : Device) (slot : UInt32) (input : Bytes)
    (hP : ∀ s, d.session = some s → AdmitsExchanges s.handle P) :
    (deviceRound d slot input).Every P := by
  unfold deviceRound
  cases hs : d.session with
  | none => trivial
  | some s =>
      have hquestion : (s.inputFull slot).run.Every P :=
        every_request (hP s hs).toAdmitsReports ((hP s hs).onSlot _ rfl nofun)
      refine every_bind hquestion fun r => ?_
      match r with
      | .ok true => trivial
      | .ok false =>
          exact every_bind (every_transfer (hP s hs).toTransfers slot input) fun _ => trivial
      | .error e => trivial

end Exchange

end Offload
