/-
**Registers as two maps.**

The registers of the configuration are a map on the first few indices, those of the loaded image one
on all addresses.  On a simulated device without faults the operations of a session read and write
these maps and do nothing else to them; bringing a device up writes the configuration register, and
closing it clears the enable bit.

Main definitions:

* `Registers` — the two maps, and whether the device is open;
* `Simulator.registers`, `Simulator.Shows` — the maps that a simulated device holds;
* `Simulator.ComesTo` — what an action comes to and makes of the maps;
* `Simulator.registerSpec` — what each operation does to the maps, whatever happens in between.

Main results:

* `Simulator.comesTo_readShell`, `Simulator.comesTo_writeShell`, … — **what a session does**;
* `Dispatcher.registers_bringUp` — **a dispatcher that comes up has written the configuration**;
* `Device.registers_close` — **closing clears the enable bit**.
-/

import Mathlib.Logic.Function.Basic
import Offload.Proofs.Device.Toggle
import Offload.Proofs.Simulator.Reachable
import Offload.Proofs.Dispatcher.Sink

set_option autoImplicit false
set_option relaxedAutoImplicit false

namespace Offload

open Native Simulator

theorem Session.bit_zero (configuration : UInt32) :
    bit 0 configuration = decide (configuration &&& pcieEnableMask ≠ 0) := by
  have hmod : (configuration &&& pcieEnableMask).toNat = configuration.toNat % 2 := by
    rw [UInt32.toNat_and]
    exact Nat.and_one_is_mod _
  have hbit : bit 0 configuration = decide (configuration.toNat % 2 = 1) :=
    Nat.testBit_zero _
  rw [hbit, decide_eq_decide, Ne, ← UInt32.toNat_inj, hmod, UInt32.toNat_zero]
  omega

/-! ### The maps -/

/-- The registers of a device, as its callers know them. -/
structure Registers where
  /-- The registers of the configuration, as far as they exist. -/
  shell : UInt32 → Option UInt32
  /-- The registers of the loaded image. -/
  soft : UInt64 → UInt64
  isOpen : Bool

namespace Registers

/-- The error of an access to a register that does not exist. -/
def noSuchRegister : Error :=
  .deviceOperation .registerOutOfRange Status.registerOutOfRange.code "no such register"

variable (R : Registers)

/-- What a register of the configuration holds, if it exists. -/
def read (index : UInt32) : Outcome UInt32 :=
  match R.shell index with
  | some value => .ok value
  | none => .error noSuchRegister

/-- Change a register of the configuration; one that does not exist is left alone. -/
def modify (index : UInt32) (change : UInt32 → UInt32) : Registers :=
  { R with shell := Function.update R.shell index ((R.shell index).map change) }

/-- Write a register of the loaded image. -/
def store (address value : UInt64) : Registers :=
  { R with soft := Function.update R.soft address value }

/-- The registers of a device that has been brought up. -/
def opened : Registers := { R.modify Session.configRegister fun _ => 1 with isOpen := true }

/-- The enable bit has been set or cleared. -/
def toggled (enabled : Bool) : Registers :=
  R.modify Session.configRegister (Session.withPcieBit enabled)

/-- The registers of a device that has been closed. -/
def closed : Registers := { R.toggled false with isOpen := false }

variable {R}

@[simp] theorem shell_modify_self (index : UInt32) (change : UInt32 → UInt32) :
    (R.modify index change).shell index = (R.shell index).map change :=
  Function.update_self ..

theorem shell_modify_of_ne {index i : UInt32} (hne : i ≠ index) (change : UInt32 → UInt32) :
    (R.modify index change).shell i = R.shell i :=
  Function.update_of_ne hne ..

@[simp] theorem isSome_modify (index i : UInt32) (change : UInt32 → UInt32) :
    ((R.modify index change).shell i).isSome = (R.shell i).isSome := by
  by_cases hi : i = index
  · subst hi
    simp
  · rw [shell_modify_of_ne hi]

theorem modify_of_none {index : UInt32} (h : R.shell index = none) (change : UInt32 → UInt32) :
    R.modify index change = R := by
  rw [modify, h, Option.map_none, ← h, Function.update_eq_self]

theorem modify_of_some {index value : UInt32} (h : R.shell index = some value)
    (change : UInt32 → UInt32) :
    R.modify index change = R.modify index fun _ => change value := by
  rw [modify, modify, h, Option.map_some, Option.map_some]

/-- Two changes of one register after each other. -/
theorem modify_modify (index : UInt32) (change change' : UInt32 → UInt32) :
    (R.modify index change).modify index change' = R.modify index (change' ∘ change) := by
  simp only [modify, Function.update_self, Function.update_idem, Option.map_map]

/-- Writing nothing and then setting the enable bit is writing the enable bit. -/
theorem toggled_modify_zero :
    (R.modify Session.configRegister fun _ => 0).toggled true =
      R.modify Session.configRegister fun _ => 1 := by
  have hbit : Session.withPcieBit true 0 = 1 := by decide
  rw [toggled, modify_modify]
  exact congrArg (R.modify Session.configRegister) (funext fun _ => hbit)

end Registers

/-! ### The maps of a simulated device -/

namespace Simulator

/-- The maps that a simulated device holds. -/
def registers (s : Simulator) : Registers :=
  { shell := fun i => s.shell[i.toNat]?, soft := s.soft, isOpen := s.isOpen }

/-- No faults are pending, and the registers are these. -/
structure Shows (R : Registers) (s : Simulator) : Prop where
  faults : s.faults = []
  registers : s.registers = R

variable {compute : UInt32 → Bytes → Bytes} {R R' : Registers} {s : Simulator}

theorem Shows.shell (h : s.Shows R) (i : UInt32) : s.shell[i.toNat]? = R.shell i :=
  congrArg (fun R : Registers => R.shell i) h.registers

theorem Shows.soft (h : s.Shows R) : s.soft = R.soft := congrArg Registers.soft h.registers

theorem Shows.isOpen (h : s.Shows R) : s.isOpen = R.isOpen := congrArg Registers.isOpen h.registers

theorem Shows.fail (h : s.Shows R) (status : Status) (text : String) :
    (s.fail status text).2.Shows R := ⟨h.faults, h.registers⟩

theorem Shows.set (h : s.Shows R) {index : UInt32} (hindex : index.toNat < s.shell.length)
    (value : UInt32) :
    Shows (R.modify index fun _ => value) { s with shell := s.shell.set index.toNat value } := by
  refine ⟨h.faults, ?_⟩
  obtain rfl := h.registers
  simp only [Simulator.registers, Registers.modify, Registers.mk.injEq, and_true]
  funext i
  by_cases hi : i = index
  · subst hi
    simp [hindex]
  · have hne : index.toNat ≠ i.toNat := fun heq => hi (UInt32.toNat_inj.1 heq).symm
    rw [List.getElem?_set_ne hne, Function.update_of_ne hi]

/-! ### The calls about no slot, without faults -/

/-- Without faults a call begins with its checks. -/
theorem Shows.enter_eq (h : s.Shows R) (operation : Operation) (handle : Option (Option Handle))
    (slot : Option UInt32) : s.enter operation handle slot = s.validate handle slot := by
  rw [enter, h.faults]
  rfl

theorem Shows.enter (h : s.Shows R) (hopen : R.isOpen = true) (operation : Operation) :
    s.enter operation (some (some token)) none = (.success, s) := by
  rw [h.enter_eq, validate]
  simp [h.isOpen, hopen]

theorem Shows.call_readShell (h : s.Shows R) (hopen : R.isOpen = true) (index : UInt32) :
    call compute (.readShell (some token) index) s =
      match R.shell index with
      | some value => (.value value, s)
      | none => s.refuse .registerOutOfRange "no such register" := by
  rw [call, h.enter hopen, ← h.shell]
  rfl

theorem Shows.call_writeShell (h : s.Shows R) (hopen : R.isOpen = true) (index value : UInt32) :
    call compute (.writeShell (some token) index value) s =
      if index.toNat < s.shell.length then
        (.plain .success, { s with shell := s.shell.set index.toNat value })
      else s.refuse .registerOutOfRange "no such register" := by
  rw [call, h.enter hopen]
  rfl

theorem Shows.lt_iff (h : s.Shows R) (index : UInt32) :
    index.toNat < s.shell.length ↔ (R.shell index).isSome = true := by
  rw [← h.shell, Option.isSome_iff_ne_none, Ne, List.getElem?_eq_none_iff, Nat.not_le]

theorem Shows.call_query (h : s.Shows R) {c : Call}
    (hc : operation c = .present ∨ operation c = .queryCapabilities) :
    (call compute c s).2.Shows R := by
  have henter (operation : Operation) (handle : Option (Option Handle)) :
      (s.enter operation handle none).2.Shows R := by
    rw [h.enter_eq, validate]
    split
    · exact h.fail _ _
    · exact h
  have hproceed {c : Call} {operation : Operation} {handle : Option (Option Handle)}
      {go : Simulator → Reply c × Simulator} (hgo : ∀ t : Simulator, t.Shows R → (go t).2.Shows R) :
      (proceed (s.enter operation handle none) go).2.Shows R := by
    unfold proceed
    split
    · exact hgo _ (henter operation handle)
    · exact henter operation handle
  cases c with
  | present =>
      refine hproceed fun t ht => ?_
      split
      · exact ht
      · exact ht.fail _ _
  | shellCount | bufferCount | bufferSize => exact hproceed fun _ ht => ht
  | _ => simp [operation] at hc

/-! ### Actions at once -/

/-- Where the registers are `R`, the action comes to `answer` and leaves them as `R'`. -/
def ComesTo (compute : UInt32 → Bytes → Bytes) (R : Registers) {α : Type} (a : Action α)
    (answer : Outcome α) (R' : Registers) : Prop :=
  ∀ w : World Simulator, w.driver.Shows R →
    ((driver compute).run a.run w).1 = answer ∧
      ((driver compute).run a.run w).2.driver.Shows R'

section

variable {α β : Type} {a : Action α} {f : α → Action β} {R₁ : Registers} {session : Session}

theorem ComesTo.pure (x : α) : ComesTo compute R (Pure.pure x) (.ok x) R := fun _ h => ⟨rfl, h⟩

theorem ComesTo.bind {x : α} {answer : Outcome β} (ha : ComesTo compute R a (.ok x) R₁)
    (hf : ComesTo compute R₁ (f x) answer R') : ComesTo compute R (a >>= f) answer R' := by
  intro w h
  obtain ⟨hx, h₁⟩ := ha w h
  rw [ExceptT.run_bind, Driver.run_bind, hx]
  exact hf _ h₁

theorem ComesTo.error {e : Error} (ha : ComesTo compute R a (.error e) R') :
    ComesTo compute R (a >>= f) (.error e) R' := by
  intro w h
  obtain ⟨he, h'⟩ := ha w h
  rw [ExceptT.run_bind, Driver.run_bind, he]
  exact ⟨rfl, h'⟩

theorem comesTo_request {c : Call} {prepared : c.Stored}
    (h : ∀ s : Simulator, s.Shows R → (call compute c s).1.status.isBenign = true ∧
      (call compute c s).2.Shows R') {x : c.Stored}
    (hx : ∀ s : Simulator, s.Shows R → (call compute c s).1.stored.getD prepared = x) :
    ComesTo compute R (request c prepared) (.ok x) R' := by
  intro w hw
  obtain ⟨hdriver, hanswer⟩ := run_request compute prepared w
  obtain ⟨hbenign, hshows⟩ := h w.driver hw
  rw [hanswer, hdriver, if_pos hbenign, hx w.driver hw]
  exact ⟨rfl, hshows⟩

theorem comesTo_refused {c : Call} {prepared : c.Stored}
    (h : ∀ s : Simulator, s.Shows R →
      call compute c s = s.refuse .registerOutOfRange "no such register") :
    ComesTo compute R (request c prepared) (.error Registers.noSuchRegister) R := by
  intro w hw
  obtain ⟨hdriver, hanswer⟩ := run_request compute prepared w
  rw [h w.driver hw] at hdriver hanswer
  rw [hanswer, hdriver]
  exact ⟨rfl, hw.fail _ _⟩

/-- **Reading a register of the configuration.** -/
theorem comesTo_readShell (hhandle : session.handle = token) (hopen : R.isOpen = true)
    (index : UInt32) : ComesTo compute R (session.readShell index) (R.read index) R := by
  rw [Session.readShell, hhandle, Registers.read]
  cases hvalue : R.shell index with
  | some value =>
      refine comesTo_request (fun s hs => ?_) fun s hs => ?_
      · rw [hs.call_readShell hopen, hvalue]
        exact ⟨rfl, hs⟩
      · rw [hs.call_readShell hopen, hvalue]
        rfl
  | none =>
      refine comesTo_refused fun s hs => ?_
      rw [hs.call_readShell hopen, hvalue]

/-- **Writing a register of the configuration.** -/
theorem comesTo_writeShell (hhandle : session.handle = token) (hopen : R.isOpen = true)
    (index value : UInt32) :
    ComesTo compute R (session.writeShell index value) ((R.read index).map fun _ => ())
      (R.modify index fun _ => value) := by
  rw [Session.writeShell, hhandle, Registers.read]
  cases hold : R.shell index with
  | some old =>
      have hlt {s : Simulator} (hs : s.Shows R) : index.toNat < s.shell.length :=
        (hs.lt_iff index).2 (by rw [hold]; rfl)
      refine comesTo_request (fun s hs => ?_) fun s hs => ?_
      · rw [hs.call_writeShell hopen, if_pos (hlt hs)]
        exact ⟨rfl, hs.set (hlt hs) value⟩
      · rfl
  | none =>
      rw [Registers.modify_of_none hold]
      refine comesTo_refused fun s hs => ?_
      rw [hs.call_writeShell hopen, if_neg]
      rw [hs.lt_iff, hold]
      exact Bool.false_ne_true

/-- **Reading a register of the loaded image.** -/
theorem comesTo_readSoft (hhandle : session.handle = token) (hopen : R.isOpen = true)
    (address : UInt64) : ComesTo compute R (session.readSoft address) (.ok (R.soft address)) R := by
  rw [Session.readSoft, hhandle]
  have hcall {s : Simulator} (hs : s.Shows R) :
      call compute (.readSoft (some token) address) s = (.value (R.soft address), s) := by
    rw [call, hs.enter hopen, ← hs.soft]
    rfl
  refine comesTo_request (fun s hs => ?_) fun s hs => ?_
  · rw [hcall hs]
    exact ⟨rfl, hs⟩
  · rw [hcall hs]
    rfl

/-- **Writing a register of the loaded image.** -/
theorem comesTo_writeSoft (hhandle : session.handle = token) (hopen : R.isOpen = true)
    (address value : UInt64) :
    ComesTo compute R (session.writeSoft address value) (.ok ()) (R.store address value) := by
  rw [Session.writeSoft, hhandle]
  refine comesTo_request (fun s hs => ?_) fun s hs => rfl
  rw [call, hs.enter hopen]
  refine ⟨rfl, hs.faults, ?_⟩
  obtain rfl := hs.registers
  simp only [proceed, if_true, Simulator.registers, Registers.store, Registers.mk.injEq, true_and,
    and_true]
  funext a
  rw [Function.update_apply]

theorem comesTo_pcieEnabled (hhandle : session.handle = token) (hopen : R.isOpen = true) :
    ComesTo compute R session.pcieEnabled
      ((R.read Session.configRegister).map (Session.bit 0)) R := by
  have hread : ComesTo compute R (session.readShell Session.configRegister) _ R :=
    comesTo_readShell hhandle hopen Session.configRegister
  cases hvalue : R.read Session.configRegister with
  | error e => exact (hvalue ▸ hread).error
  | ok value =>
      refine (hvalue ▸ hread).bind ?_
      exact Session.bit_zero value ▸ .pure _

theorem comesTo_setPcieEnabled (hhandle : session.handle = token) (hopen : R.isOpen = true)
    (enabled : Bool) :
    ComesTo compute R (session.setPcieEnabled enabled)
      ((R.read Session.configRegister).map fun _ => ()) (R.toggled enabled) := by
  have hread : ComesTo compute R (session.readShell Session.configRegister) _ R :=
    comesTo_readShell hhandle hopen Session.configRegister
  rw [Registers.read] at hread ⊢
  cases hvalue : R.shell Session.configRegister with
  | none =>
      rw [Registers.toggled, Registers.modify_of_none hvalue]
      rw [hvalue] at hread
      exact hread.error
  | some value =>
      have hwrite : ComesTo compute R (session.writeShell Session.configRegister _) _ _ :=
        comesTo_writeShell hhandle hopen Session.configRegister (Session.withPcieBit enabled value)
      rw [Registers.toggled, Registers.modify_of_some hvalue]
      rw [Registers.read, hvalue] at hwrite
      rw [hvalue] at hread
      exact hread.bind hwrite

end

/-! ### Programs with interference -/

/-- What each operation does to the registers where no faults are pending. -/
def registerSpec (compute : UInt32 → Bytes → Bytes) : OpSpec Registers := fun o Q R =>
  ∀ w : World Simulator, w.driver.Shows R →
    ∃ R', ((driver compute).answer o w).2.driver.Shows R' ∧ Q ((driver compute).answer o w).1 R'

section

variable {α : Type}

theorem registerSpec_isMono : (registerSpec compute).IsMono := by
  intro o Q Q' R hQ h w hw
  obtain ⟨R', hshows, hQR⟩ := h w hw
  exact ⟨R', hshows, hQ _ _ hQR⟩

theorem Shows.run {p : Program α} {Q : α → Registers → Prop} {w : World Simulator}
    (h : w.driver.Shows R) (hp : p.Meets (registerSpec compute) Q R) :
    ∃ R', ((driver compute).run p w).2.driver.Shows R' ∧ Q ((driver compute).run p w).1 R' := by
  induction p generalizing w R with
  | done a => exact ⟨R, h, hp⟩
  | step o next ih =>
      obtain ⟨R', h', hnext⟩ := hp w h
      exact ih _ h' hnext

/-- No faults come to be pending. -/
theorem faults_answer (o : Op) {w : World Simulator} (h : w.driver.faults = []) :
    ((driver compute).answer o w).2.driver.faults = [] := by
  cases o with
  | call c =>
      have hsublist := faults_sublist_reply compute false c w.driver
      rw [h] at hsublist
      exact List.sublist_nil.1 hsublist
  | lastError | lastErrorText | store | fetch | log => exact h

theorem registers_always (p : Program α) {Q : α → Registers → Prop} (hQ : ∀ a R', Q a R') :
    p.Meets (registerSpec compute) Q R := by
  induction p generalizing R with
  | done a => exact hQ a R
  | step o next ih =>
      exact fun w hw => ⟨_, ⟨faults_answer o hw.faults, rfl⟩, ih _⟩

theorem registers_logLine {level : Log.Level} {text : String} {Q : Unit → Registers → Prop}
    (hQ : Q () R) : (logLine level text).Meets (registerSpec compute) Q R :=
  fun _ hw => ⟨R, hw, hQ⟩

theorem registers_request {c : Call} {prepared : c.Stored} {Q : Outcome c.Stored → Registers → Prop}
    (R' : Registers) (h : ∀ s : Simulator, s.Shows R → (call compute c s).1.status.isBenign = true ∧
      (call compute c s).2.Shows R' ∧ Q (.ok ((call compute c s).1.stored.getD prepared)) R') :
    (request c prepared).run.Meets (registerSpec compute) Q R := by
  refine meets_request_iff.2 fun w hw => ?_
  obtain ⟨hbenign, hshows, hQ⟩ := h w.driver hw
  have hcheck : check ((driver compute).answer (.call c) w).1.status = pure () :=
    check_of_isBenign hbenign
  refine ⟨R', hshows, ?_⟩
  dsimp only
  rw [hcheck]
  exact hQ

theorem registers_call {c : Call} {f : Reply c → Action α} {Q : Outcome α → Registers → Prop}
    (h : ∀ s : Simulator, s.Shows R → ∃ R', (call compute c s).2.Shows R' ∧
      (f (call compute c s).1).run.Meets (registerSpec compute) Q R') :
    (liftM (Native.call c) >>= f).run.Meets (registerSpec compute) Q R := by
  rw [meets_action_bind]
  exact fun w hw => h w.driver hw

theorem registers_query {c : Call} {prepared : c.Stored} {Q : Outcome c.Stored → Registers → Prop}
    (hc : operation c = .present ∨ operation c = .queryCapabilities)
    (hok : ∀ x, Q (.ok x) R) (herror : ∀ e R', Q (.error e) R') :
    (request c prepared).run.Meets (registerSpec compute) Q R := by
  refine meets_request_iff.2 fun w hw => ⟨R, hw.call_query hc, ?_⟩
  dsimp only
  by_cases hbenign : ((driver compute).answer (.call c) w).1.status.isBenign = true
  · rw [check_of_isBenign hbenign]
    exact hok _
  · have hcheck : check ((driver compute).answer (.call c) w).1.status = _ := if_neg hbenign
    rw [hcheck]
    exact fun _ h₁ => ⟨R, h₁, fun _ h₂ => ⟨R, h₂, fun _ h₃ => ⟨R, h₃, herror _ _⟩⟩⟩

theorem registers_readShell {session : Session} (hhandle : session.handle = token)
    (hopen : R.isOpen = true) {value : UInt32}
    (hvalue : R.shell Session.configRegister = some value)
    {Q : Outcome UInt32 → Registers → Prop} (hQ : Q (.ok value) R) :
    (session.readShell Session.configRegister).run.Meets (registerSpec compute) Q R := by
  rw [Session.readShell, hhandle]
  refine registers_request R fun s hs => ?_
  rw [hs.call_readShell hopen, hvalue]
  exact ⟨rfl, hs, hQ⟩

theorem registers_writeShell {session : Session} (hhandle : session.handle = token)
    (hopen : R.isOpen = true) (hsome : (R.shell Session.configRegister).isSome = true)
    (value : UInt32) {Q : Outcome Unit → Registers → Prop}
    (hQ : Q (.ok ()) (R.modify Session.configRegister fun _ => value)) :
    (session.writeShell Session.configRegister value).run.Meets (registerSpec compute) Q R := by
  rw [Session.writeShell, hhandle]
  refine registers_request (R.modify Session.configRegister fun _ => value) fun s hs => ?_
  have hlt := (hs.lt_iff Session.configRegister).2 hsome
  rw [hs.call_writeShell hopen, if_pos hlt]
  exact ⟨rfl, hs.set hlt value, hQ⟩

theorem registers_setPcieEnabled {session : Session} (hhandle : session.handle = token)
    (hopen : R.isOpen = true) (hsome : (R.shell Session.configRegister).isSome = true)
    (enabled : Bool) {Q : Outcome Unit → Registers → Prop} (hQ : Q (.ok ()) (R.toggled enabled)) :
    (session.setPcieEnabled enabled).run.Meets (registerSpec compute) Q R := by
  obtain ⟨value, hvalue⟩ := Option.isSome_iff_exists.1 hsome
  rw [Session.setPcieEnabled, meets_action_bind]
  refine registers_readShell hhandle hopen hvalue ?_
  refine registers_writeShell hhandle hopen hsome _ ?_
  rw [Registers.toggled, Registers.modify_of_some hvalue] at hQ
  exact hQ

end

end Simulator

/-! ### Bringing up -/

namespace Device

variable {compute : UInt32 → Bytes → Bytes} {R R' : Registers}

theorem registers_queryCapabilities {handle : Handle} {Q : Outcome Capabilities → Registers → Prop}
    (hok : ∀ c, Q (.ok c) R) (herror : ∀ e R', Q (.error e) R') :
    (queryCapabilities handle).run.Meets (registerSpec compute) Q R := by
  simp only [queryCapabilities, meets_action_bind]
  refine registers_query (Or.inr rfl) (fun shellRegisters => ?_) herror
  refine registers_query (Or.inr rfl) (fun bufferCount => ?_) herror
  exact registers_query (Or.inr rfl) (fun bufferSize => hok _) herror

theorem registers_requirePresence {params : OpenParams} {Q : Outcome Unit → Registers → Prop}
    (hok : Q (.ok ()) R) (herror : ∀ e R', Q (.error e) R') :
    (requirePresence params).run.Meets (registerSpec compute) Q R := by
  refine registers_call fun s hs => ⟨R, hs.call_query (Or.inl rfl), ?_⟩
  by_cases hstatus : (Simulator.call compute (.present params) s).1.status = .success
  · rw [if_pos hstatus]
    exact hok
  · rw [if_neg hstatus]
    exact fun _ h => ⟨R, h, herror _ _⟩

theorem registers_createHandle {endpoint : UInt32} {params : OpenParams}
    {Q : Outcome Handle → Registers → Prop} (hok : Q (.ok token) { R with isOpen := true }) :
    (createHandle endpoint params).run.Meets (registerSpec compute) Q R := by
  refine registers_call fun s hs => ⟨{ R with isOpen := true }, ?_, ?_⟩
  · rw [Simulator.call, hs.enter_eq]
    obtain rfl := hs.registers
    exact ⟨hs.faults, rfl⟩
  · rw [Simulator.call, hs.enter_eq]
    exact hok

/-- A device whose capabilities cannot be had does not open. -/
theorem registers_settleHandle {handle : Handle} {Q : Outcome Capabilities → Registers → Prop}
    (hok : ∀ c, Q (.ok c) R) (herror : ∀ e R', Q (.error e) R') :
    (settleHandle handle).run.Meets (registerSpec compute) Q R := by
  rw [settleHandle, meets_action_bind, meets_outcome]
  refine registers_queryCapabilities hok fun e R₁ => ?_
  rw [either_ok, meets_action_bind, meets_outcome]
  refine registers_always _ fun r R₂ => ?_
  cases r with
  | ok => exact herror e _
  | error e' => exact fun _ h => ⟨R₂, h, herror e _⟩

/-- Opening a device touches no registers. -/
theorem registers_bringUp {library : Option String} {endpoint : UInt32} {params : OpenParams}
    {Q : Outcome Device → Registers → Prop}
    (hok : ∀ d session, d.session = some session → session.handle = token →
      Q (.ok d) { R with isOpen := true }) (herror : ∀ e R', Q (.error e) R') :
    (bringUp library endpoint params).run.Meets (registerSpec compute) Q R := by
  have hfailed (e : Error) (R' : Registers) :
      (liftM (noteUnloaded library) >>= fun _ => throw e : Action Device).run.Meets
        (registerSpec compute) Q R' := by
    rw [meets_action_bind]
    refine (meets_lift _).2 (registers_always _ fun _ R₁ => ?_)
    exact herror e R₁
  rw [bringUp, meets_action_bind, meets_outcome]
  simp only [acquire, meets_action_bind]
  refine registers_requirePresence ?_ hfailed
  refine registers_createHandle ?_
  refine registers_settleHandle (fun c => ?_) hfailed
  exact fun _ h => ⟨_, h, hok _ _ rfl rfl⟩

/-! ### Closing -/

/-- **Closing clears the enable bit.** -/
theorem registers_close {d : Device} {session : Session} (hsession : d.session = some session)
    (hhandle : session.handle = token) (hopen : R.isOpen = true)
    (hsome : (R.shell Session.configRegister).isSome = true)
    {Q : Bool × Device → Registers → Prop} (hQ : Q (true, d.closed) R.closed) :
    d.close.Meets (registerSpec compute) Q R := by
  have hwarn {what : String} {step : Action Unit} {Q : Unit → Registers → Prop} {R : Registers}
      (hstep : step.run.Meets (registerSpec compute)
        (fun r R' => r = .ok () ∧ Q () R') R) :
      (warnOnError what step).Meets (registerSpec compute) Q R := by
    refine (Program.meets_bind _ _).2 (hstep.mono registerSpec_isMono ?_)
    rintro _ R' ⟨rfl, hQ⟩
    exact hQ
  have hnote {Q : Unit → Registers → Prop} {R : Registers} (hQ : Q () R) :
      (noteUnloaded d.library).Meets (registerSpec compute) Q R := by
    cases d.library with
    | none => exact hQ
    | some path => exact registers_logLine hQ
  have hclose {Q : Outcome Unit → Registers → Prop} {R : Registers} (hopen : R.isOpen = true)
      (hQ : Q (.ok ()) { R with isOpen := false }) :
      (closeHandle token).run.Meets (registerSpec compute) Q R := by
    refine registers_request { R with isOpen := false } fun s hs => ?_
    rw [Simulator.call, hs.enter hopen]
    obtain rfl := hs.registers
    exact ⟨rfl, ⟨hs.faults, rfl⟩, hQ⟩
  rw [close, hsession]
  refine (Program.meets_bind _ _).2 ((Program.meets_bind _ _).2 (hwarn ?_))
  refine registers_setPcieEnabled hhandle hopen hsome false ⟨rfl, ?_⟩
  rw [hhandle]
  refine (Program.meets_bind _ _).2 (hwarn (hclose hopen ⟨rfl, ?_⟩))
  refine (Program.meets_bind _ _).2 (hnote ?_)
  exact registers_logLine hQ

end Device

/-! ### Dispatchers -/

namespace Dispatcher

variable {compute : UInt32 → Bytes → Bytes} {R : Registers}

/-- Setting a device up writes the configuration. -/
theorem registers_setUp {device : Device} {session : Session}
    (hsession : device.session = some session) (hhandle : session.handle = token)
    (hopen : R.isOpen = true) (hsome : (R.shell Session.configRegister).isSome = true)
    {Q : Outcome (Pool Exchange.Run) → Registers → Prop}
    (hok : ∀ pool, Q (.ok pool) R.opened) (herror : ∀ e R', Q (.error e) R') :
    (setUp device).run.Meets (registerSpec compute) Q R := by
  have hopened : (R.modify Session.configRegister fun _ => 0).toggled true = R.opened := by
    rw [Registers.toggled_modify_zero, Registers.opened, ← hopen]
    rfl
  simp only [setUp, Device.withSession, hsession, meets_action_bind]
  refine registers_writeShell hhandle hopen hsome 0 ?_
  rw [either_ok]
  refine registers_setPcieEnabled (R := R.modify Session.configRegister fun _ => 0) hhandle hopen
    (by simpa using hsome) true ?_
  rw [either_ok, hopened]
  by_cases hslots : device.capabilities.bufferCount.toNat = 0
  · simp only [hslots, if_true]
    exact herror _ _
  · simp only [hslots, if_false, Pool.build]
    exact fun _ h => ⟨_, h, hok _⟩

theorem registers_bringUpDevice {library : Option String} {config : Config}
    (hsome : (R.shell Session.configRegister).isSome = true)
    {Q : Outcome (Device × Pool Exchange.Run) → Registers → Prop}
    (hok : ∀ x, Q (.ok x) R.opened) (herror : ∀ e R', Q (.error e) R') :
    (bringUpDevice library config).run.Meets (registerSpec compute) Q R := by
  rw [bringUpDevice]
  cases openParams config with
  | error e =>
      rw [meets_action_bind]
      refine (meets_lift _).2 (registers_always _ fun _ R' => ?_)
      exact herror e R'
  | ok params =>
      rw [meets_action_bind]
      refine Device.registers_bringUp (fun d session hsession hhandle => ?_) herror
      rw [either_ok, meets_action_bind, meets_outcome]
      refine registers_setUp (R := { R with isOpen := true }) hsession hhandle rfl hsome
        (fun pool => ?_) fun e R₁ => ?_
      · exact hok _
      · rw [either_ok, meets_action_bind]
        refine (meets_lift _).2 (registers_always _ fun _ R₂ => ?_)
        exact herror e R₂

/-- **A dispatcher that comes up has written the configuration**, and nothing else. -/
theorem registers_bringUp {library : Option String} {config : Config}
    (hsome : (R.shell Session.configRegister).isSome = true) :
    (bringUp library config).run.Meets (registerSpec compute)
      (fun r R' => ∀ d, r = .ok d → R' = R.opened) R := by
  rw [run_bringUp]
  have hsink {Q : Unit → Registers → Prop} (hQ : Q () R) :
      (installSink config.sink).Meets (registerSpec compute) Q R := by
    cases config.sink with
    | none => exact hQ
    | some sink => exact fun _ h => ⟨R, h, hQ⟩
  refine (Program.meets_bind _ _).2 (hsink ((Program.meets_bind _ _).2 ?_))
  refine registers_bringUpDevice hsome (fun x d _ => rfl) fun e R₁ => ?_
  -- a dispatcher that fails does not come up
  refine (Program.meets_bind _ _).2 (registers_always _ fun _ R₂ => ?_)
  rintro d ⟨⟩

end Dispatcher

end Offload
