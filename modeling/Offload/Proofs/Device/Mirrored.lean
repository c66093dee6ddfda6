/-
**Devices through twin drivers.**

Every operation on a device mirrors itself: each of its calls prepares the blank value, so that it
does not matter which of the twin drivers makes blanks up.  Only a driver that comes from a library
notes, when it is released, that the library is gone.

Main definitions:

* `Native.Echoing` — an action that mirrors itself;
* `Device.Mirrors` — a device, and the same device with the library that its driver comes from.

Main results:

* `Exchange.mirrors_deviceRound` — a round of an exchange;
* `Script.echoing_action` — the operations on a session;
* `Device.mirrors_bringUp`, `Device.mirrors_close` — **opening and closing a device**.
-/

import Offload.Device.Exchange
import Offload.Proofs.Native.Mirrors
import Offload.Script.SystemOp

set_option autoImplicit false
set_option relaxedAutoImplicit false

namespace Offload

open Native

variable {f : String → String} {lag : Bool} {α β : Type}

/-- The action mirrors itself; if it fails, its error is retold. -/
abbrev Native.Echoing (f : String → String) (lag : Bool) (a : Action α) : Prop :=
  a.run.Mirrors f lag (Outcome.Mirrors (Error.Echoes f) Eq) a.run

/-- What the library says about a null pointer. -/
def View.nullText : String := "driver returned a null buffer pointer"

/-! ### Sessions -/

namespace Session

variable {s : Session} {slot : UInt32}

theorem echoing_view (hnull : f View.nullText = View.nullText) {c : Call} {prepared : c.Stored}
    (h : c.IsBlank prepared) (pointerOf : c.Stored → Option Region) (capacity : Nat) :
    Echoing f lag (request c prepared >>= fun stored =>
      (liftM (View.ofPointer (pointerOf stored) capacity) : Action View)) := by
  refine mirrors_then (mirrors_request h) fun stored => mirrors_liftOutcome ?_
  cases pointerOf stored with
  | some region => exact .ok rfl
  | none => exact .error ⟨by simp, congrArg (Error.deviceOperation _ _) hnull.symm⟩

theorem echoing_inputView (hnull : f View.nullText = View.nullText) :
    Echoing f lag (s.inputView slot) :=
  echoing_view hnull (c := .inputPointer s.handle slot) rfl id s.bufferSize

theorem echoing_outputView (hnull : f View.nullText = View.nullText) :
    Echoing f lag (s.outputView slot) :=
  echoing_view hnull (c := .outputPointer s.handle slot) rfl id s.bufferSize

theorem echoing_setPcieEnabled (enabled : Bool) : Echoing f lag (s.setPcieEnabled enabled) :=
  mirrors_then (mirrors_request (c := .readShell s.handle configRegister) trivial) fun current =>
    mirrors_request (c := .writeShell s.handle configRegister (withPcieBit enabled current)) trivial

end Session

/-! ### Copies -/

namespace View

theorem echoing_bounds (requested capacity : Nat) :
    Echoing f lag (liftM (Buffer.checkBounds requested capacity) : Action Unit) := by
  refine mirrors_liftOutcome ?_
  rw [Buffer.checkBounds]
  split
  · exact .ok rfl
  · exact .error ⟨by simp, rfl⟩

theorem echoing_copyIn (v : View) (data : Bytes) : Echoing f lag (v.copyIn data) :=
  mirrors_then (echoing_bounds _ _) fun _ =>
    mirrors_lift ((mirrors_perform (.store v.region data)).mono fun _ _ h => h.symm)

theorem echoing_copyOut (v : View) (n : Nat) : Echoing f lag (v.copyOut n) :=
  mirrors_then (echoing_bounds _ _) fun _ =>
    mirrors_lift ((mirrors_perform (.fetch v.region n)).mono fun _ _ h => h.symm)

end View

/-! ### Exchanges -/

namespace Exchange

/-- **A transfer mirrors itself.** -/
theorem echoing_transfer (hnull : f View.nullText = View.nullText) (s : Session) (slot : UInt32)
    (input : Bytes) : Echoing f lag (transfer s slot input) := by
  have hlength : Outcome.Mirrors (Error.Echoes f) Eq (messageLength (Padding.pad input))
      (messageLength (Padding.pad input)) := by
    rw [messageLength]
    split
    · exact .ok rfl
    · exact .error ⟨by simp, rfl⟩
  refine mirrors_then (mirrors_liftOutcome hlength) fun length => ?_
  refine mirrors_then (Session.echoing_inputView hnull) fun inputView => ?_
  refine mirrors_then (Session.echoing_outputView hnull) fun outputView => ?_
  refine mirrors_then (inputView.echoing_copyIn _) fun _ => ?_
  refine mirrors_then (mirrors_request (c := .send s.handle slot length) trivial) fun _ => ?_
  refine mirrors_then (mirrors_logLine _ _ _) fun _ => ?_
  refine mirrors_then (mirrors_request (c := .wait s.handle slot) trivial) fun received => ?_
  -- what the copy out and the discard come to is kept, with the texts of the driver in it
  refine mirrors_action_bind (mirrors_outcome (outputView.echoing_copyOut received.toNat))
    fun r r' hr => ?_
  refine mirrors_action_bind
    (mirrors_outcome (mirrors_request (c := .discard s.handle slot) trivial)) fun d d' hd => ?_
  refine mirrors_action_bind (mirrors_liftOutcome hr) fun response response' hresponse => ?_
  refine mirrors_action_bind (mirrors_liftOutcome hd) fun _ _ _ => ?_
  refine mirrors_action_bind (mirrors_logLine _ _ _) fun _ _ _ => ?_
  exact mirrors_pure hresponse

/-- **A round of an exchange mirrors itself.** -/
theorem mirrors_deviceRound (hnull : f View.nullText = View.nullText) {d d' : Device}
    (hd : d'.session = d.session) (slot : UInt32) (input : Bytes) :
    (deviceRound d slot input).Mirrors f lag (fun r r' => r' = r.map (Outcome.retold f))
      (deviceRound d' slot input) := by
  rw [deviceRound, deviceRound, hd]
  split
  · next session _ =>
      refine mirrors_bind (mirrors_request (c := .inputFull session.handle slot) rfl)
        fun r r' hr => ?_
      cases hr with
      | error h =>
          obtain ⟨-, rfl⟩ := h
          exact .done rfl
      | ok h =>
          rw [← h]
          split
          · exact .done rfl
          · refine mirrors_bind (echoing_transfer hnull session slot input) fun r r' hr => ?_
            exact .done (congrArg some hr.eq_retold)
          · next hr => cases hr
  · exact .done rfl

end Exchange

/-! ### Operations on a session -/

namespace Script

/-- **An operation on registers mirrors itself.** -/
theorem echoing_register (op : RegisterOp) (s : Session) : Echoing f lag (op.action s) := by
  cases op with
  | readShell index =>
      exact mirrors_then (mirrors_request (c := .readShell s.handle index) trivial) fun _ =>
        mirrors_pure rfl
  | writeShell index value =>
      exact mirrors_then (mirrors_request (c := .writeShell s.handle index value) trivial) fun _ =>
        mirrors_pure rfl
  | readSoft address =>
      exact mirrors_then (mirrors_request (c := .readSoft s.handle address) trivial) fun _ =>
        mirrors_pure rfl
  | writeSoft address value =>
      exact mirrors_then (mirrors_request (c := .writeSoft s.handle address value) trivial)
        fun _ => mirrors_pure rfl
  | pcieEnabled =>
      refine mirrors_then (mirrors_then
        (mirrors_request (c := .readShell s.handle Session.configRegister) trivial) fun _ => ?_)
        fun _ => mirrors_pure rfl
      exact mirrors_pure rfl
  | setPcieEnabled enabled =>
      exact mirrors_then (s.echoing_setPcieEnabled enabled) fun _ => mirrors_pure rfl

/-- **An operation on a session mirrors itself.** -/
theorem echoing_action (hnull : f View.nullText = View.nullText) (op : SessionOp) (s : Session) :
    Echoing f lag (op.action s) := by
  cases op with
  | touch => exact mirrors_pure rfl
  | check status => exact mirrors_then (mirrors_check status) fun _ => mirrors_pure rfl
  | register op => exact echoing_register op s
  | inputFull slot =>
      exact mirrors_then (mirrors_request (c := .inputFull s.handle slot) rfl) fun _ =>
        mirrors_pure rfl
  | send slot length =>
      exact mirrors_then (mirrors_request (c := .send s.handle slot length) trivial) fun _ =>
        mirrors_pure rfl
  | waitOutput slot =>
      exact mirrors_then (mirrors_request (c := .wait s.handle slot) trivial) fun _ =>
        mirrors_pure rfl
  | discard slot =>
      exact mirrors_then (mirrors_request (c := .discard s.handle slot) trivial) fun _ =>
        mirrors_pure rfl
  | copyIn slot data =>
      exact mirrors_then (Session.echoing_inputView hnull) fun view =>
        mirrors_then (view.echoing_copyIn data) fun _ => mirrors_pure rfl
  | copyOutOfInput slot length =>
      exact mirrors_then (Session.echoing_inputView hnull) fun view =>
        mirrors_then (view.echoing_copyOut length) fun _ => mirrors_pure rfl
  | copyOut slot length =>
      exact mirrors_then (Session.echoing_outputView hnull) fun view =>
        mirrors_then (view.echoing_copyOut length) fun _ => mirrors_pure rfl
  | view slot => exact mirrors_then (Session.echoing_inputView hnull) fun _ => mirrors_pure rfl

end Script

/-! ### Opening and closing -/

namespace Device

variable {library : Option String} {d d' : Device}

/-- A device whose driver does not come from a library, and the same device with the library that
its driver comes from. -/
structure Mirrors (library : Option String) (d d' : Device) : Prop where
  none : d.library = none
  eq : d' = { d with library }

theorem Mirrors.session (h : d.Mirrors library d') : d'.session = d.session := by rw [h.eq]

theorem Mirrors.capabilities (h : d.Mirrors library d') : d'.capabilities = d.capabilities := by
  rw [h.eq]

theorem mirrors_withSession (h : d.Mirrors library d') {operation : Session → Action α}
    (hop : ∀ s, Echoing f lag (operation s)) :
    (d.withSession operation).run.Mirrors f lag (Outcome.Mirrors (Error.Echoes f) Eq)
      (d'.withSession operation).run := by
  rw [withSession, withSession, h.session]
  split
  · exact hop _
  · exact mirrors_throw ⟨by simp, rfl⟩

/-- Whose driver comes from a library notes that the library is gone. -/
theorem mirrors_noteUnloaded (library : Option String) :
    (noteUnloaded none).Mirrors f true Eq (noteUnloaded library) := by
  cases library with
  | none => exact .done rfl
  | some path => exact .extra rfl _ (.done rfl)

/-! #### Opening -/

theorem echoing_queryCapabilities (handle : Handle) : Echoing f lag (queryCapabilities handle) :=
  mirrors_then (mirrors_request (c := .shellCount handle) trivial) fun _ =>
    mirrors_then (mirrors_request (c := .bufferCount handle) trivial) fun _ =>
      mirrors_then (mirrors_request (c := .bufferSize handle) trivial) fun _ => mirrors_pure rfl

theorem echoing_closeHandle (handle : Handle) : Echoing f lag (closeHandle handle) :=
  mirrors_request (c := .close handle) trivial

theorem mirrors_settleHandle (handle : Handle) :
    (settleHandle handle).run.Mirrors f lag (Outcome.Mirrors (Error.Retold f) Eq)
      (settleHandle handle).run := by
  refine mirrors_action_bind (mirrors_outcome (echoing_queryCapabilities handle)) fun r r' hr => ?_
  cases hr with
  | ok h => exact mirrors_pure h
  | error h =>
      refine mirrors_action_bind (mirrors_outcome (echoing_closeHandle handle)) fun r r' hr => ?_
      cases hr with
      | ok => exact mirrors_throw h.retold
      | error => exact mirrors_then (mirrors_logLine _ _ _) fun _ => mirrors_throw h.retold

theorem mirrors_requirePresence (params : OpenParams) :
    (requirePresence params).run.Mirrors f lag (Outcome.Mirrors (Error.Retold f) Eq)
      (requirePresence params).run := by
  refine mirrors_action_bind (mirrors_lift (mirrors_perform (.call (.present params))))
    fun r r' hr => ?_
  obtain rfl : r' = r.completed := hr
  rw [Reply.status_completed]
  split
  · exact mirrors_pure rfl
  · refine mirrors_action_bind (mirrors_lift (mirrors_perform .lastErrorText)) fun text _ ht => ?_
    obtain rfl := ht
    exact mirrors_throw (.absent r.status text)

theorem mirrors_createHandle (endpoint : UInt32) (params : OpenParams) :
    (createHandle endpoint params).run.Mirrors f lag (Outcome.Mirrors (Error.Retold f) Eq)
      (createHandle endpoint params).run := by
  refine mirrors_action_bind (mirrors_lift (mirrors_perform (.call (.create endpoint params))))
    fun r r' hr => ?_
  obtain rfl : r' = r.completed := hr
  have hstored : (r.completed.stored.getD none : Option Handle) = r.stored.getD none :=
    Call.getD_complete (c := .create endpoint params) rfl r.stored
  have hfail : (do
      let text ← liftM lastErrorText
      throw (.connection
        s!"create handle on endpoint {endpoint.toNat}: {r.status.text} {text}") :
        Action Handle).run.Mirrors f lag (Outcome.Mirrors (Error.Retold f) Eq)
      (do
      let text ← liftM lastErrorText
      throw (.connection
        s!"create handle on endpoint {endpoint.toNat}: {r.status.text} {text}") :
        Action Handle).run := by
    refine mirrors_action_bind (mirrors_lift (mirrors_perform .lastErrorText)) fun text _ ht => ?_
    obtain rfl := ht
    exact mirrors_throw (.uncreated endpoint r.status text)
  rw [Reply.status_completed, hstored]
  split
  · split
    · exact mirrors_pure rfl
    · exact hfail
  · exact hfail

theorem mirrors_acquire (endpoint : UInt32) (params : OpenParams) :
    (acquire endpoint params).run.Mirrors f lag (Outcome.Mirrors (Error.Retold f) Eq)
      (acquire endpoint params).run :=
  mirrors_then (mirrors_requirePresence params) fun _ =>
    mirrors_then (mirrors_createHandle endpoint params) fun handle =>
      mirrors_then (mirrors_settleHandle handle) fun _ => mirrors_pure rfl

/-- **Opening a device.** -/
theorem mirrors_bringUp (library : Option String) (endpoint : UInt32) (params : OpenParams) :
    (bringUp none endpoint params).run.Mirrors f true
      (Outcome.Mirrors (Error.Retold f) (Mirrors library))
      (bringUp library endpoint params).run := by
  refine mirrors_action_bind (mirrors_outcome (mirrors_acquire endpoint params)) fun r r' hr => ?_
  cases hr with
  | error h =>
      refine mirrors_action_bind (mirrors_lift (mirrors_noteUnloaded library)) fun _ _ _ => ?_
      exact mirrors_throw h
  | ok h =>
      rw [← h]
      exact mirrors_then (mirrors_logLine _ _ _) fun _ => mirrors_pure ⟨rfl, rfl⟩

/-! #### Closing -/

theorem mirrors_warnOnError (what : String) {step : Action Unit} (hstep : Echoing f lag step) :
    (warnOnError what step).Mirrors f lag Eq (warnOnError what step) := by
  refine mirrors_bind hstep fun r r' hr => ?_
  cases hr with
  | ok => exact .done rfl
  | error => exact .log _ _ (.done rfl)

/-- **Closing a device.** -/
theorem mirrors_close (h : d.Mirrors library d') :
    d.close.Mirrors f true (fun r r' => r'.1 = r.1 ∧ r.2.Mirrors library r'.2) d'.close := by
  have hclosed : d.closed.Mirrors library d'.closed := ⟨h.none, by rw [h.eq]; rfl⟩
  have hlibrary : d'.library = library := by rw [h.eq]
  rw [close, close, h.session]
  cases d.session with
  | none => exact .done ⟨rfl, h⟩
  | some session =>
      refine mirrors_bind (R := Eq) ?_ fun _ _ _ => .done ⟨rfl, hclosed⟩
      refine mirrors_bind (mirrors_warnOnError _ (session.echoing_setPcieEnabled false))
        fun _ _ _ => ?_
      refine mirrors_bind (mirrors_warnOnError _ (echoing_closeHandle session.handle))
        fun _ _ _ => ?_
      rw [h.none, hlibrary]
      exact mirrors_bind (mirrors_noteUnloaded library) fun _ _ _ => .log _ _ (.done rfl)

end Device

end Offload
