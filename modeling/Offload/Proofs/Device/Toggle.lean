/-
**The enable bit of the configuration register.**

The bit is set or cleared by reading the register and writing it back.  A call that times out is
taken for one that has done its work: a reading that timed out reads zero, and a writing that timed
out has written nothing.  Apart from this the toggle touches the one bit only, and does what it
says.

Main definitions:

* `Session.bit` — a bit of a configuration;
* `Simulator.due` — what awaits the next call of a kind that is about no slot;
* `Device.IsOpenOn` — an open device on a simulated one;
* `Device.Toggled` — **what a toggle does to the registers**.

Main results:

* `Session.bit_withPcieBit` — only the enable bit of a configuration is changed;
* `Simulator.first?_remaining` — a call leaves alone the faults for calls of other kinds;
* `Device.enable_bit_toggled` — **toggling the bit, and closing the device, under all faults**;
* `Device.not_kept_struckReading` — a reading that times out costs all the other bits.
-/

import Offload.Device.Lifecycle
import Offload.Proofs.Simulator.Apart

set_option autoImplicit false
set_option relaxedAutoImplicit false

namespace Offload

open Native Simulator

/-! ### Bits of a configuration -/

namespace Session

/-- Bit number `i` of a configuration. -/
def bit (i : Nat) (configuration : UInt32) : Bool := configuration.toBitVec.getLsbD i

theorem bit_pcieEnableMask (i : Nat) : bit i pcieEnableMask = decide (i = 0) := by
  show (1#32).getLsbD i = _
  rw [BitVec.getLsbD_one]
  by_cases hi : i = 0 <;> simp [hi]

/-- **Only the enable bit is changed**, and it becomes what it is to be. -/
theorem bit_withPcieBit (enabled : Bool) (i : Nat) (configuration : UInt32) :
    bit i (withPcieBit enabled configuration) =
      if i = 0 then enabled else bit i configuration := by
  have hmask := bit_pcieEnableMask i
  unfold bit at hmask ⊢
  cases enabled with
  | true =>
      rw [withPcieBit, if_pos rfl, UInt32.toBitVec_or, BitVec.getLsbD_or, hmask]
      by_cases hi : i = 0 <;> simp [hi]
  | false =>
      rw [withPcieBit, if_neg Bool.false_ne_true, UInt32.toBitVec_and, UInt32.toBitVec_not,
        BitVec.getLsbD_and, BitVec.getLsbD_not, hmask]
      by_cases hi : i = 0
      · simp [hi]
      · have hlt : configuration.toBitVec.getLsbD i = true → i < 32 := BitVec.lt_of_getLsbD
        cases hbit : configuration.toBitVec.getLsbD i with
        | false => simp [hi]
        | true => simp [hi, hlt hbit]

end Session

/-! ### Calls about registers -/

namespace Simulator

section

variable {s : Simulator} {value : UInt32}

/-- A call uses up no fault that is meant for calls of another kind. -/
theorem first?_remaining {operation operation' : Operation} (hne : operation ≠ operation')
    (slot slot' : Option UInt32) (faults : List Fault) :
    first? operation slot (remaining operation' slot' faults) = first? operation slot faults := by
  induction faults with
  | nil => rfl
  | cons f faults ih =>
      rw [remaining_cons]
      split
      · next hfor =>
          have hother : f.isFor operation slot = false := by
            rw [Fault.isFor, Bool.and_eq_true, decide_eq_true_iff] at hfor
            have hkind : f.operation ≠ operation := hfor.1 ▸ hne.symm
            simp [Fault.isFor, hkind]
          rw [first?_cons, hother, if_neg Bool.false_ne_true]
      · rw [first?_cons, first?_cons, ih]

/-- The code that the faults give to the next call of a kind that is about no slot; without a fault
it is that of success. -/
def due (operation : Operation) (s : Simulator) : Status :=
  (first? operation none s.faults).getD .success

theorem enter_due (operation : Operation) (hopen : s.isOpen = true) :
    (s.enter operation (some (some token)) none).1 = s.due operation := by
  rw [enter_eq, due]
  cases first? operation none s.faults with
  | some status => rfl
  | none => simp [validate, hopen]

/-- The beginning of a call leaves the registers alone. -/
theorem shell_enter (operation : Operation) (handle : Option (Option Handle)) :
    (s.enter operation handle none).2.shell = s.shell := by
  rw [enter_eq]
  cases first? operation none s.faults with
  | some status => rfl
  | none =>
      simp only [validate]
      split <;> rfl

/-- Reading a register: the value is stored if the faults do not say otherwise. -/
theorem call_readShell (compute : UInt32 → Bytes → Bytes) {index : UInt32} (hopen : s.isOpen = true)
    (hvalue : s.shell[index.toNat]? = some value) :
    let r := call compute (.readShell (some token) index) s
    r.1.status = s.due .readShell ∧
      r.1.stored.getD 0 = (if s.due .readShell = .success then value else 0) ∧
      r.2.shell = s.shell := by
  have hstatus := enter_due (s := s) .readShell hopen
  have hshell := shell_enter (s := s) .readShell (some (some token))
  have hread :
      (s.enter .readShell (some (some token)) none).2.shell[index.toNat]? = some value := by
    rw [hshell, hvalue]
  simp only [call, proceed, hstatus]
  split
  · next hsuccess =>
      rw [hread]
      exact ⟨hsuccess.symm, rfl, hshell⟩
  · exact ⟨rfl, rfl, hshell⟩

/-- Writing a register: it is written if the faults do not say otherwise. -/
theorem call_writeShell (compute : UInt32 → Bytes → Bytes) (index value : UInt32)
    (hopen : s.isOpen = true) (hindex : index.toNat < s.shell.length) :
    let r := call compute (.writeShell (some token) index value) s
    r.1.status = s.due .writeShell ∧
      r.2.shell = if s.due .writeShell = .success then s.shell.set index.toNat value
        else s.shell := by
  have hstatus := enter_due (s := s) .writeShell hopen
  have hshell := shell_enter (s := s) .writeShell (some (some token))
  simp only [call, proceed, hstatus]
  split
  · next hsuccess =>
      rw [hshell, if_pos hindex]
      exact ⟨hsuccess.symm, rfl⟩
  · exact ⟨rfl, hshell⟩

theorem run_request (compute : UInt32 → Bytes → Bytes) {c : Call} (prepared : c.Stored)
    (w : World Simulator) :
    let r := call compute c w.driver
    ((driver compute).run (request c prepared).run w).2.driver = r.2 ∧
      ((driver compute).run (request c prepared).run w).1 =
        if r.1.status.isBenign then .ok (r.1.stored.getD prepared)
        else .error (.deviceOperation r.1.status r.2.lastError r.2.lastErrorText) := by
  have hstep : (driver compute).run (request c prepared).run w =
      (driver compute).run
        (check (call compute c w.driver).1.status >>= fun _ =>
          pure ((call compute c w.driver).1.stored.getD prepared) : Action c.Stored).run
        ((driver compute).answer (.call c) w).2 := rfl
  dsimp only
  rw [hstep]
  by_cases hbenign : (call compute c w.driver).1.status.isBenign = true
  · rw [check_of_isBenign hbenign, if_pos hbenign]
    exact ⟨rfl, rfl⟩
  · rw [check, if_neg hbenign, if_neg hbenign]
    exact ⟨rfl, rfl⟩

theorem call_quiet (compute : UInt32 → Bytes → Bytes) {c : Call} (kind : Operation)
    (hslot : c.slot? = none) (htoggles : toggles c = false) (hkind : kind ≠ operation c) :
    (call compute c s).2.isOpen = s.isOpen ∧ (call compute c s).2.due kind = s.due kind := by
  have htouch := touches_call compute c (s := s)
  rw [htoggles] at htouch
  refine ⟨htouch.isOpen rfl, ?_⟩
  have hfaults := faults_reply compute false c s
  rw [show reply compute false c s = call compute c s from rfl, hslot] at hfaults
  rw [due, due, hfaults]
  split
  · rw [first?_remaining hkind]
  · rfl

end

end Simulator

/-! ### The toggle -/

section

variable (compute : UInt32 → Bytes → Bytes) {w : World Simulator}

/-- Reading the configuration.  A reading that times out reads zero. -/
theorem run_readShell (session : Session) (hhandle : session.handle = token)
    (hopen : w.driver.isOpen = true) {value : UInt32}
    (hvalue : w.driver.shellRegister? Session.configRegister = some value) :
    let r := (driver compute).run (session.readShell Session.configRegister).run w
    r.2.driver.isOpen = true ∧ r.2.driver.shell = w.driver.shell ∧
      r.2.driver.due .writeShell = w.driver.due .writeShell ∧
      (r.1 = .ok (if w.driver.due .readShell = .success then value else 0) ∧
          (w.driver.due .readShell).isBenign = true ∨
        (∃ e, r.1 = .error e) ∧ (w.driver.due .readShell).isBenign = false) := by
  rw [Session.readShell, hhandle]
  obtain ⟨hdevice, hresult⟩ :=
    run_request compute (c := .readShell (some token) Session.configRegister) (0 : UInt32) w
  obtain ⟨hstatus, hstored, hshell⟩ := call_readShell compute hopen hvalue
  obtain ⟨hopen', hdue⟩ := call_quiet (s := w.driver) compute .writeShell
    (c := .readShell (some token) Session.configRegister) rfl rfl (by decide)
  dsimp only
  rw [hdevice, hresult, hstatus, hstored]
  refine ⟨hopen'.trans hopen, hshell, hdue, ?_⟩
  cases hbenign : (w.driver.due .readShell).isBenign with
  | false => exact Or.inr ⟨⟨_, rfl⟩, rfl⟩
  | true => exact Or.inl ⟨rfl, rfl⟩

/-- Writing the configuration.  A writing that times out writes nothing. -/
theorem run_writeShell (session : Session) (hhandle : session.handle = token) (value : UInt32)
    (hopen : w.driver.isOpen = true) (hregister : 0 < w.driver.shell.length) :
    let r := (driver compute).run (session.writeShell Session.configRegister value).run w
    r.2.driver.shell =
        (if w.driver.due .writeShell = .success then w.driver.shell.set 0 value
          else w.driver.shell) ∧
      (r.1 = .ok () ∧ (w.driver.due .writeShell).isBenign = true ∨
        (∃ e, r.1 = .error e) ∧ (w.driver.due .writeShell).isBenign = false) := by
  rw [Session.writeShell, hhandle]
  obtain ⟨hdevice, hresult⟩ :=
    run_request compute (c := .writeShell (some token) Session.configRegister value) () w
  obtain ⟨hstatus, hshell⟩ :=
    call_writeShell compute Session.configRegister value hopen hregister
  dsimp only
  rw [hdevice, hresult, hstatus]
  refine ⟨hshell, ?_⟩
  cases (w.driver.due .writeShell).isBenign with
  | false => exact Or.inr ⟨⟨_, rfl⟩, rfl⟩
  | true => exact Or.inl ⟨rfl, rfl⟩

end

namespace Device

/-- The device is open, on a simulated device that is open and has a register. -/
structure IsOpenOn (d : Device) (session : Session) (s : Simulator) : Prop where
  session_eq : d.session = some session
  handle_eq : session.handle = token
  isOpen : s.isOpen = true
  hasRegister : 0 < s.shell.length

/-- **What toggling the enable bit does to the registers**: the state before it, what it comes to,
and the state after it. -/
structure Toggled (enabled : Bool) (s : Simulator) (result : Outcome Unit) (s' : Simulator) :
    Prop where
  /-- No other register is changed. -/
  others : ∀ i, i ≠ 0 → s'.shell[i]? = s.shell[i]?
  /-- It succeeds if the two calls end with benign codes. -/
  succeeds : result = .ok () ↔
    (s.due .readShell).isBenign = true ∧ (s.due .writeShell).isBenign = true
  /-- If it fails, no register is changed. -/
  failed : ∀ e, result = .error e → s'.shell = s.shell
  /-- No other bit is changed, provided that the reading did not time out. -/
  kept : s.due .readShell ≠ .waitTimeout → ∀ i, i ≠ 0 →
    (s'.shellRegister? Session.configRegister).map (Session.bit i) =
      (s.shellRegister? Session.configRegister).map (Session.bit i)
  /-- If it succeeds the bit is as asked for, provided that the writing did not time out. -/
  asAsked : result = .ok () → s.due .writeShell ≠ .waitTimeout →
    (s'.shellRegister? Session.configRegister).map (Session.bit 0) = some enabled
  /-- A reading that timed out is taken for one of zero. -/
  blind : s.due .readShell = .waitTimeout → s.due .writeShell = .success →
    s'.shellRegister? Session.configRegister = some (Session.withPcieBit enabled 0)
  /-- A writing that timed out is taken for one that was done. -/
  unwritten : s.due .writeShell = .waitTimeout → s'.shell = s.shell

section

variable {compute : UInt32 → Bytes → Bytes} {d : Device} {session : Session}
  {w : World Simulator} {s s' : Simulator}

theorem Toggled.of_shell_eq {enabled : Bool} {result : Outcome Unit} (h : s'.shell = s.shell)
    (hresult : result = .ok () ↔
      (s.due .readShell).isBenign = true ∧ (s.due .writeShell).isBenign = true)
    (hfault : (s.due .readShell).isBenign = false ∨ s.due .writeShell ≠ .success) :
    Toggled enabled s result s' where
  others i _ := by rw [h]
  succeeds := hresult
  failed _ _ := h
  kept _ i _ := by rw [shellRegister?, shellRegister?, h]
  asAsked hok hwrite := by
    obtain ⟨hread, hbenign⟩ := hresult.1 hok
    rcases hfault with hfault | hfault
    · rw [hread] at hfault
      cases hfault
    · exact absurd (((Status.isBenign_iff _).1 hbenign).resolve_left hfault) hwrite
  blind hread hwrite := by
    rcases hfault with hfault | hfault
    · rw [hread] at hfault
      cases hfault
    · exact absurd hwrite hfault
  unwritten _ := h

theorem Toggled.of_write {enabled : Bool} {value : UInt32}
    (hvalue : s.shellRegister? Session.configRegister = some value)
    (hshell : s'.shell = s.shell.set 0 (Session.withPcieBit enabled
      (if s.due .readShell = .success then value else 0)))
    (hread : (s.due .readShell).isBenign = true) (hwrite : s.due .writeShell = .success) :
    Toggled enabled s (.ok ()) s' := by
  have hregister : 0 < s.shell.length := (List.getElem?_eq_some_iff.1 hvalue).1
  have hvalue' : s'.shellRegister? Session.configRegister =
      some (Session.withPcieBit enabled (if s.due .readShell = .success then value else 0)) := by
    rw [shellRegister?, hshell]
    exact List.getElem?_set_self hregister
  refine ⟨fun i hi => ?_, ?_, fun _ h => (by cases h), fun hne i hi => ?_, fun _ _ => ?_,
    fun htimeout _ => ?_, fun htimeout => ?_⟩
  · rw [hshell, List.getElem?_set_ne hi.symm]
  · rw [hread, hwrite]
    simp
  · have hsuccess := ((Status.isBenign_iff _).1 hread).resolve_right hne
    rw [hvalue', hvalue, if_pos hsuccess, Option.map_some, Option.map_some,
      Session.bit_withPcieBit, if_neg hi]
  · rw [hvalue', Option.map_some, Session.bit_withPcieBit, if_pos rfl]
  · rw [hvalue', htimeout, if_neg (by decide)]
  · rw [hwrite] at htimeout
    cases htimeout

theorem toggled_setPcieEnabled (compute : UInt32 → Bytes → Bytes) (hhandle : session.handle = token)
    (hopen : w.driver.isOpen = true) (hregister : 0 < w.driver.shell.length) (enabled : Bool) :
    Toggled enabled w.driver ((driver compute).run (session.setPcieEnabled enabled).run w).1
      ((driver compute).run (session.setPcieEnabled enabled).run w).2.driver := by
  have hvalue : w.driver.shellRegister? Session.configRegister = some w.driver.shell[0] :=
    List.getElem?_eq_getElem hregister
  obtain ⟨hopen₁, hshell₁, hdue, hread⟩ :=
    run_readShell compute session hhandle hopen hvalue
  rw [Session.setPcieEnabled, ExceptT.run_bind, Driver.run_bind]
  rcases hread with ⟨hok, hbenign⟩ | ⟨⟨e, herror⟩, hfatal⟩
  · rw [hok]
    dsimp only
    obtain ⟨hshell₂, hwrite⟩ := run_writeShell compute session hhandle
      (Session.withPcieBit enabled
        (if w.driver.due .readShell = .success then w.driver.shell[0] else 0))
      hopen₁ (by rw [hshell₁]; exact hregister)
    rw [hdue, hshell₁] at hshell₂
    rw [hdue] at hwrite
    by_cases hsuccess : w.driver.due .writeShell = .success
    · rw [if_pos hsuccess] at hshell₂
      rcases hwrite with ⟨hok', -⟩ | ⟨-, hfatal'⟩
      · rw [hok']
        exact .of_write hvalue hshell₂ hbenign hsuccess
      · rw [hsuccess] at hfatal'
        cases hfatal'
    · rw [if_neg hsuccess] at hshell₂
      refine .of_shell_eq hshell₂ ?_ (Or.inr hsuccess)
      rcases hwrite with ⟨hok', hbenign'⟩ | ⟨⟨e, herror⟩, hfatal'⟩
      · rw [hok', hbenign, hbenign']
        simp
      · rw [herror, hfatal']
        simp
  · rw [herror]
    simp only [Program.pure_eq_done, Driver.run_done]
    refine .of_shell_eq hshell₁ ?_ (Or.inl hfatal)
    rw [hfatal]
    simp

/-! ### Closing -/

theorem shell_closeHandle (handle : Handle) :
    ((driver compute).run (closeHandle handle).run w).2.driver.shell = w.driver.shell := by
  obtain ⟨hdevice, -⟩ := run_request compute (c := .close (some handle)) () w
  rw [closeHandle, hdevice]
  have hshell := shell_enter (s := w.driver) .closeHandle (some (some handle))
  simp only [Simulator.call, proceed]
  split
  · exact hshell
  · exact hshell

/-- A closing step leaves the device as it does when its failure is not logged. -/
theorem driver_warnOnError (what : String) (step : Action Unit) :
    ((driver compute).run (warnOnError what step) w).2.driver =
      ((driver compute).run step.run w).2.driver := by
  rw [warnOnError, Driver.run_bind]
  cases ((driver compute).run step.run w).1 with
  | ok => rfl
  | error e => rfl

theorem driver_noteUnloaded (library : Option String) :
    ((driver compute).run (noteUnloaded library) w).2.driver = w.driver := by
  cases library <;> rfl

theorem driver_logLine (level : Log.Level) (text : String) :
    ((driver compute).run (logLine level text) w).2.driver = w.driver := rfl

/-- Closing changes the registers as clearing the enable bit does. -/
theorem shell_close (compute : UInt32 → Bytes → Bytes) (w : World Simulator)
    (hsession : d.session = some session) :
    ((driver compute).run d.close w).1 = (true, d.closed) ∧
      ((driver compute).run d.close w).2.driver.shell =
        ((driver compute).run (session.setPcieEnabled false).run w).2.driver.shell := by
  rw [close, hsession]
  simp only [Driver.run_bind, endSession]
  refine ⟨rfl, ?_⟩
  show ((driver compute).run (logLine _ _) _).2.driver.shell = _
  rw [driver_logLine, driver_noteUnloaded, driver_warnOnError, shell_closeHandle,
    driver_warnOnError]

theorem Toggled.congr {enabled : Bool} {result : Outcome Unit} {s'' : Simulator}
    (h : Toggled enabled s result s') (hshell : s''.shell = s'.shell) :
    Toggled enabled s result s'' := by
  have hregister : s''.shellRegister? Session.configRegister =
      s'.shellRegister? Session.configRegister := by rw [shellRegister?, shellRegister?, hshell]
  refine ⟨fun i hi => ?_, h.succeeds, fun e he => ?_, fun hne i hi => ?_, fun hok hne => ?_,
    fun hread hwrite => ?_, fun hwrite => ?_⟩
  · rw [hshell, h.others i hi]
  · rw [hshell, h.failed e he]
  · rw [hregister, h.kept hne i hi]
  · rw [hregister, h.asAsked hok hne]
  · rw [hregister, h.blind hread hwrite]
  · rw [hshell, h.unwritten hwrite]

/-- The enable bit of a device is set or cleared. -/
def toggle (compute : UInt32 → Bytes → Bytes) (d : Device) (enabled : Bool)
    (w : World Simulator) : Outcome Unit × World Simulator :=
  (driver compute).run (d.withSession (·.setPcieEnabled enabled)).run w

/-- **Toggling the enable bit**, on an open device, whatever its registers hold and whatever faults
await its calls: no other register is changed, and no register at all if the toggle fails.  No other
bit is changed, provided that the reading does not time out; if the toggle succeeds the bit is as
asked for, provided that the writing does not time out.  Closing the device clears the bit in this
way. -/
theorem enable_bit_toggled (compute : UInt32 → Bytes → Bytes) (hd : d.IsOpenOn session w.driver)
    (enabled : Bool) :
    Toggled enabled w.driver (toggle compute d enabled w).1 (toggle compute d enabled w).2.driver ∧
      ((driver compute).run d.close w).1 = (true, d.closed) ∧
      ∃ result, Toggled false w.driver result ((driver compute).run d.close w).2.driver := by
  have htoggle (enabled : Bool) := toggled_setPcieEnabled compute hd.handle_eq
    hd.isOpen hd.hasRegister enabled
  obtain ⟨hclosed, hshell⟩ := shell_close compute w hd.session_eq
  refine ⟨?_, hclosed, _, (htoggle false).congr hshell⟩
  rw [toggle, withSession, hd.session_eq]
  exact htoggle enabled

end

/-! ### A reading that times out -/

/-- The device answers every message with itself. -/
def echo (_ : UInt32) (message : Bytes) : Bytes := message

/-- A device is opened and configured. -/
def configuring : Program (Outcome Device) := ExceptT.run do
  let d ← bringUp none 0 ⟨none, none, false⟩
  d.withSession (·.writeShell Session.configRegister 0xF0)
  return d

/-- What comes of it on a simulated device with one slot. -/
def configured : Outcome Device × World Simulator :=
  (driver echo).run configuring
    ⟨Simulator.fresh { Setup.standard with bufferCount := 1, bufferSize := 64 }, Log.Router.default⟩

/-- The device is told how its next reading of a register is to end. -/
def configuredThen (status : Status) : World Simulator :=
  { configured.2 with driver := configured.2.driver.failNext ⟨.readShell, none, status⟩ }

theorem configured_eq : configured.1 = .ok
    { endpoint := 0, capabilities := ⟨16, 1, 64⟩, library := none,
      session := some ⟨token, 64⟩ } := by
  decide +kernel

theorem isOpenOn_configured {d : Device} (hd : configured.1 = .ok d) (status : Status) :
    d.IsOpenOn ⟨token, 64⟩ (configuredThen status).driver := by
  rw [configured_eq] at hd
  cases hd
  have hopen : configured.2.driver.isOpen = true := by decide +kernel
  have hregister : 0 < configured.2.driver.shell.length := by decide +kernel
  exact ⟨rfl, rfl, hopen, hregister⟩

/-- Without a time-out the other bits are kept. -/
theorem enable_bit_toggled_unstruck :
    ∃ d w, configured.1 = .ok d ∧ d.IsOpenOn ⟨token, 64⟩ w.driver ∧
      w.driver.shellRegister? Session.configRegister = some 0xF0 ∧
      (toggle echo d true w).1 = .ok () ∧
      ∀ i, i ≠ 0 → ((toggle echo d true w).2.driver.shellRegister?
        Session.configRegister).map (Session.bit i) = some (Session.bit i 0xF0) := by
  have hopen := isOpenOn_configured configured_eq .success
  have hvalue : (configuredThen .success).driver.shellRegister? Session.configRegister =
      some 0xF0 := by decide +kernel
  have htoggled := (enable_bit_toggled echo hopen true).1
  refine ⟨_, configuredThen .success, configured_eq, hopen, hvalue, ?_, fun i hi => ?_⟩
  · exact htoggled.succeeds.2 ⟨by decide +kernel, by decide +kernel⟩
  · rw [htoggled.kept (by decide +kernel) i hi, hvalue, Option.map_some]

/-- **A reading that times out costs all the other bits**: the toggle succeeds, and of the
configuration nothing is left but the enable bit.  Closing leaves nothing at all. -/
theorem not_kept_struckReading :
    ∃ d w, configured.1 = .ok d ∧ d.IsOpenOn ⟨token, 64⟩ w.driver ∧
      w.driver.shellRegister? Session.configRegister = some 0xF0 ∧
      (toggle echo d true w).1 = .ok () ∧
      (toggle echo d true w).2.driver.shellRegister?
        Session.configRegister = some 1 ∧
      ((driver echo).run d.close w).2.driver.shellRegister?
        Session.configRegister = some 0 ∧
      Session.bit 4 0xF0 ≠ Session.bit 4 1 ∧ Session.bit 4 0xF0 ≠ Session.bit 4 0 := by
  refine ⟨_, configuredThen .waitTimeout, configured_eq,
    isOpenOn_configured configured_eq .waitTimeout, ?_, ?_, ?_, ?_, ?_, ?_⟩
  all_goals decide +kernel

end Device

end Offload
