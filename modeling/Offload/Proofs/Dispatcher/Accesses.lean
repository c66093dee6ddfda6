/-
**Accesses to registers.**

Callers read and write registers, look at the enable bit and toggle it.  On an open device without
faults an access is answered as two maps answer it and does to the registers what it does to the
maps; on a closed one it is answered with an error and does nothing.  What is done about slots, and
what tests do to slots, leaves the registers alone.

Main definitions:

* `Access.conduct` — what an access does in a session;
* `Registers.answer`, `Registers.enter` — **what the maps answer, and what becomes of them**;
* `Registers.Honest` — callers have been told what the maps answer.

Main results:

* `Registers.after_of_closed` — nothing happens any more to the registers of a closed device;
* `Registers.cleared_closed` — closing clears the enable bit and nothing else;
* `Simulator.comesTo_conduct` — **an access on an open device is answered as by the maps**;
* `Simulator.Shows.answered`, `Simulator.Hook.shows` — what leaves the registers alone.
-/

import Offload.Proofs.Device.Lockstep
import Offload.Proofs.Dispatcher.Registers
import Offload.Proofs.Dispatcher.Service

set_option autoImplicit false
set_option relaxedAutoImplicit false

namespace Offload

open Native Simulator

/-! ### Accesses -/

namespace Access

/-- What a caller gets for an access that succeeds. -/
abbrev Answer : Access → Type
  | .readShell _ => UInt32
  | .readSoft _ => UInt64
  | .pcieEnabled => Bool
  | .writeShell _ _ | .writeSoft _ _ | .setPcieEnabled _ => Unit

/-- What an access does in a session. -/
def conduct : (access : Access) → Session → Action access.Answer
  | .readShell index, session => session.readShell index
  | .writeShell index value, session => session.writeShell index value
  | .readSoft address, session => session.readSoft address
  | .writeSoft address value, session => session.writeSoft address value
  | .pcieEnabled, session => session.pcieEnabled
  | .setPcieEnabled enabled, session => session.setPcieEnabled enabled

theorem every_conduct (access : Access) (session : Session) :
    (access.conduct session).run.Every (isRegister · = true) := by
  have hreports : AdmitsReports (isRegister · = true) := ⟨rfl, rfl, fun _ _ => rfl⟩
  cases access with
  | readShell | writeShell | readSoft | writeSoft => exact every_request hreports rfl
  | pcieEnabled => exact every_action_bind (every_request hreports rfl) fun _ => trivial
  | setPcieEnabled enabled =>
      exact every_action_bind (every_request hreports rfl) fun _ => every_request hreports rfl

end Access

/-- What happens to the registers: a caller is told the answer to an access, or the device is
closed. -/
inductive Entry where
  | told (access : Access) (answer : Outcome access.Answer)
  | closed

namespace Registers

variable (R : Registers)

/-- The answer to an access while the device is open. -/
def live : (access : Access) → Outcome access.Answer
  | .readShell index => R.read index
  | .writeShell index _ => (R.read index).map fun _ => ()
  | .readSoft address => .ok (R.soft address)
  | .writeSoft _ _ => .ok ()
  | .pcieEnabled => (R.read Session.configRegister).map (Session.bit 0)
  | .setPcieEnabled _ => (R.read Session.configRegister).map fun _ => ()

/-- The answer to an access. -/
def answer (access : Access) : Outcome access.Answer :=
  if R.isOpen then R.live access else .error .closed

/-- The registers after an access that gets through. -/
def written : Access → Registers
  | .writeShell index value => R.modify index fun _ => value
  | .writeSoft address value => R.store address value
  | .setPcieEnabled enabled => R.toggled enabled
  | .readShell _ | .readSoft _ | .pcieEnabled => R

/-- The registers after something has happened to them. -/
def enter (entry : Entry) : Registers :=
  if R.isOpen then
    match entry with
    | .told access _ => R.written access
    | .closed => R.closed
  else R

/-- The registers after all that has happened to them. -/
def after (entries : List Entry) : Registers := entries.foldl enter R

/-- Callers are told what the maps answer, and the device is closed when it is open. -/
def Honest : Registers → List Entry → Prop
  | _, [] => True
  | R, .told access answer :: entries =>
      answer = R.answer access ∧ (R.enter (.told access answer)).Honest entries
  | R, .closed :: entries => R.isOpen = true ∧ (R.enter .closed).Honest entries

variable {R}

theorem after_append (entries entries' : List Entry) :
    R.after (entries ++ entries') = (R.after entries).after entries' := List.foldl_append ..

theorem honest_append {entries entries' : List Entry} :
    R.Honest (entries ++ entries') ↔ R.Honest entries ∧ (R.after entries).Honest entries' := by
  induction entries generalizing R with
  | nil => simp [Honest, after]
  | cons entry entries ih =>
      cases entry with
      | told access answer => simp only [List.cons_append, Honest, ih, and_assoc]; rfl
      | closed => simp only [List.cons_append, Honest, ih, and_assoc]; rfl

/-- Nothing happens any more to the registers of a closed device. -/
theorem after_of_closed (h : R.isOpen = false) (entries : List Entry) : R.after entries = R := by
  induction entries with
  | nil => rfl
  | cons entry entries ih =>
      have hsame : R.enter entry = R := by simp [enter, h]
      rw [after, List.foldl_cons, hsame]
      exact ih

/-- Nobody gets an answer from a closed device. -/
theorem Honest.eq_closed (h : R.isOpen = false) {entries : List Entry} (hhonest : R.Honest entries)
    {access : Access} {answer : Outcome access.Answer} (hmem : .told access answer ∈ entries) :
    answer = .error .closed := by
  obtain ⟨before, rest, rfl⟩ := List.append_of_mem hmem
  obtain ⟨-, hanswer, -⟩ := honest_append.1 hhonest
  rw [hanswer, after_of_closed h, Registers.answer, h]
  rfl

theorem isSome_written (access : Access) (i : UInt32) :
    ((R.written access).shell i).isSome = (R.shell i).isSome := by
  cases access with
  | writeShell | setPcieEnabled => exact isSome_modify ..
  | _ => rfl

/-- **No register comes into being, and none ceases to exist.** -/
theorem isSome_after (entries : List Entry) (i : UInt32) :
    ((R.after entries).shell i).isSome = (R.shell i).isSome := by
  induction entries generalizing R with
  | nil => rfl
  | cons entry entries ih =>
      refine Eq.trans ih ?_
      unfold enter
      split
      · cases entry with
        | told access => exact isSome_written access i
        | closed => exact isSome_modify ..
      · rfl

/-- A register does not exist: accesses to it fail, and change nothing. -/
structure Lacks (R : Registers) (index : UInt32) : Prop where
  reads : R.live (.readShell index) = .error noSuchRegister
  writes : ∀ value, R.live (.writeShell index value) = .error noSuchRegister
  unchanged : ∀ value, R.written (.writeShell index value) = R

theorem lacks_of_none {index : UInt32} (h : R.shell index = none) : R.Lacks index where
  reads := by rw [live, read, h]
  writes _ := by
    rw [live, read, h]
    rfl
  unchanged _ := modify_of_none h _

/-- The bits of the configuration after the enable bit has been set or cleared. -/
theorem bit_toggled (enabled : Bool) (k : Nat) :
    ((R.toggled enabled).shell Session.configRegister).map (Session.bit k) =
      (R.shell Session.configRegister).map fun configuration =>
        if k = 0 then enabled else Session.bit k configuration := by
  rw [toggled, shell_modify_self, Option.map_map]
  exact congrArg (Option.map · _) (funext fun configuration => Session.bit_withPcieBit ..)

/-- Only the enable bit has been cleared, and the device is closed. -/
structure Cleared (R R' : Registers) : Prop where
  isOpen : R'.isOpen = false
  soft : R'.soft = R.soft
  others : ∀ i, i ≠ Session.configRegister → R'.shell i = R.shell i
  bits : ∀ k, (R'.shell Session.configRegister).map (Session.bit k) =
    (R.shell Session.configRegister).map fun configuration =>
      if k = 0 then false else Session.bit k configuration

theorem cleared_closed : R.Cleared R.closed where
  isOpen := rfl
  soft := rfl
  others _ hi := shell_modify_of_ne hi _
  bits k := bit_toggled false k

end Registers

namespace Simulator

variable {compute : UInt32 → Bytes → Bytes} {R : Registers} {s s' : Simulator}

/-- **An access on an open device is answered as by the maps.** -/
theorem comesTo_conduct {session : Session} (hhandle : session.handle = token)
    (hopen : R.isOpen = true) (access : Access) :
    ComesTo compute R (access.conduct session) (R.live access) (R.written access) := by
  cases access with
  | readShell index => exact comesTo_readShell hhandle hopen index
  | writeShell index value => exact comesTo_writeShell hhandle hopen index value
  | readSoft address => exact comesTo_readSoft hhandle hopen address
  | writeSoft address value => exact comesTo_writeSoft hhandle hopen address value
  | pcieEnabled => exact comesTo_pcieEnabled hhandle hopen
  | setPcieEnabled enabled => exact comesTo_setPcieEnabled hhandle hopen enabled

/-! ### What leaves the registers alone -/

/-- What is done about a slot does not show. -/
theorem Pays.shows {slot : UInt32} {used : Option Operation} {extra : Nat}
    (h : Pays slot used extra s s') (hs : s.Shows R) : s'.Shows R := by
  refine ⟨?_, ?_⟩
  · rw [h.faults, hs.faults]
    cases used <;> rfl
  · rw [← hs.registers, registers, registers, h.spares.shell, h.spares.soft, h.spares.isOpen]

/-- The hooks that neither inject faults nor set registers. -/
def Hook.isApart : Hook → Bool
  | failNext _ | setShellRegister _ _ => false
  | _ => true

theorem Hook.shows {hook : Hook} (hapart : hook.isApart = true) (h : hook.apply s = some s')
    (hs : s.Shows R) : s'.Shows R := by
  cases applied_of_apply h with
  | failNext | setShellRegister => cases hapart
  | _ => exact ⟨hs.faults, hs.registers⟩

/-- An operation of an exchange does not show. -/
theorem Shows.answered (hs : s.Shows R) {slot : UInt32} {o : Op} (habout : Exchange.IsAbout slot o)
    (late : Bool) {w : World Simulator} (hw : w.driver = s) :
    (Exchange.answered (driver compute) late o w).2.driver.Shows R := by
  subst hw
  cases hreport : o.isReport with
  | true =>
      rw [Exchange.driver_answered_report hreport]
      exact hs
  | false =>
      have hnamed : IsNamed w.driver.faults := by simp [IsNamed, hs.faults]
      obtain ⟨-, -, used, extra, hpays, -⟩ :=
        Exchange.answered_level compute hreport habout late (Level.refl slot hnamed)
      exact hpays.shows hs

end Simulator

end Offload
