/-
**A dispatcher that has been brought up.**

Whatever faults strike while a dispatcher is brought up on a fresh simulated device, if it comes up
at all then its device is open, its slots are those of the device and blank, and the size of their
regions is known, or known as zero: then no job fits.

Main definitions:

* `Simulator.Meddling` — what others may do while a program runs;
* `Simulator.Succeeds` — what an action comes to, if it succeeds;
* `Dispatcher.IsUp` — a dispatcher that has just been brought up;
* `Dispatcher.ComesUp` — **the ways in which a dispatcher comes up**;
* `Dispatcher.ComesUpOn` — the same on a device that is not fresh.

Main results:

* `Dispatcher.succeeds_bringUp` — a dispatcher that comes up is up;
* `Dispatcher.ComesUpOn.isUp`, `Dispatcher.ComesUp.isUp` — so it is with interference.
-/

import Offload.Dispatcher.Basic
import Offload.Proofs.Native.Meets
import Offload.Proofs.Simulator.Hooks

set_option autoImplicit false
set_option relaxedAutoImplicit false

namespace Offload

open Native Simulator

namespace Simulator

/-- The same device, open. -/
def Outline.opened (v : Outline) : Outline := { v with isOpen := true }

/-- What others may do while a program runs: hooks, and anything with logging. -/
inductive Meddling : World Simulator → World Simulator → Prop
  | hook (hook : Hook) (w : World Simulator) (s : Simulator) (h : hook.apply w.driver = some s) :
      Meddling w { w with driver := s }
  | log (w : World Simulator) (router : Log.Router) : Meddling w { w with router }

/-- What each operation does to the outline of the device. -/
def outlineSpec (compute : UInt32 → Bytes → Bytes) : OpSpec Outline := fun o Q v =>
  ∀ w : World Simulator, w.driver.outline = v →
    Q ((driver compute).answer o w).1 ((driver compute).answer o w).2.driver.outline

/-- An action that, if it succeeds, comes to a value and an outline as `P` says.  Its errors are not
looked at. -/
structure Succeeds (compute : UInt32 → Bytes → Bytes) (v : Outline) {α : Type} (a : Action α)
    (P : α → Outline → Prop) : Prop where
  meets : a.run.Meets (outlineSpec compute) (either P fun _ _ => True) v

section

variable {compute : UInt32 → Bytes → Bytes} {α β : Type} {v : Outline} {P : α → Outline → Prop}

theorem outlineSpec_isMono : (outlineSpec compute).IsMono :=
  fun _ _ _ _ hQ hs w hw => hQ _ _ (hs w hw)

theorem meets_true (p : Program α) : p.Meets (outlineSpec compute) (fun _ _ => True) v := by
  induction p generalizing v with
  | done a => trivial
  | step o next ih => exact fun w _ => ih _

namespace Succeeds

theorem pure {a : α} (hP : P a v) : Succeeds compute v (Pure.pure a) P := ⟨hP⟩

theorem error (e : Error) : Succeeds compute v (throw e : Action α) P := ⟨trivial⟩

theorem weaken {a : Action α} {R : α → Outline → Prop} (ha : Succeeds compute v a R)
    (hP : ∀ x v', R x v' → P x v') : Succeeds compute v a P := by
  refine ⟨ha.meets.mono outlineSpec_isMono fun r v' h => ?_⟩
  cases r with
  | ok x => exact hP x v' h
  | error e => trivial

theorem bind {a : Action β} {f : β → Action α} {R : β → Outline → Prop}
    (ha : Succeeds compute v a R) (hf : ∀ x v', R x v' → Succeeds compute v' (f x) P) :
    Succeeds compute v (a >>= f) P := by
  constructor
  rw [meets_action_bind]
  refine ha.meets.mono outlineSpec_isMono ?_
  intro r v' h
  cases r with
  | ok x => exact (hf x v' h).meets
  | error e => trivial

/-- An action after a look at what another one comes to. -/
theorem outcome {a : Action β} {f : Outcome β → Action α} {R : β → Outline → Prop}
    (ha : Succeeds compute v a R) (hf : ∀ x v', R x v' → Succeeds compute v' (f (.ok x)) P)
    (herror : ∀ e v', Succeeds compute v' (f (.error e)) P) :
    Succeeds compute v (Native.outcome a >>= f) P := by
  constructor
  rw [meets_action_bind, meets_outcome]
  refine ha.meets.mono outlineSpec_isMono ?_
  intro r v' h
  cases r with
  | ok x => exact (hf x v' h).meets
  | error e => exact (herror e v').meets

theorem after (a : Action β) {f : β → Action α} (hf : ∀ x v', Succeeds compute v' (f x) P) :
    Succeeds compute v (a >>= f) P := by
  refine bind (R := fun _ _ => True) ⟨?_⟩ fun x v' _ => hf x v'
  refine (meets_true a.run).mono outlineSpec_isMono ?_
  intro r v' _
  cases r <;> trivial

theorem log {request : Log.Request} :
    Succeeds compute v (liftM (perform (.log request)) : Action Unit) fun _ v' => v' = v :=
  ⟨fun _ hw => hw⟩

theorem request {c : Call} {prepared : c.Stored} {P : c.Stored → Prop} (hc : c.slot? = none)
    (ht : toggles c = false)
    (hP : ∀ s : Simulator, s.outline = v → P ((call compute c s).1.stored.getD prepared)) :
    Succeeds compute v (Native.request c prepared) fun x v' => P x ∧ v' = v := by
  constructor
  rw [meets_request_iff]
  intro w hw
  have htouch := touches_call compute c (s := w.driver)
  rw [hc] at htouch
  have hsame : ((driver compute).answer (.call c) w).2.driver.outline = v :=
    (htouch.outline.2.2 ht).trans hw
  rw [hsame]
  have hcheck : (check ((driver compute).answer (.call c) w).1.status).run.Meets
      (outlineSpec compute) (either (fun _ v' => v' = v) fun _ _ => True) v := by
    by_cases hs : ((driver compute).answer (.call c) w).1.status.isBenign = true
    · rw [check_of_isBenign hs]
      exact rfl
    · rw [check, if_neg hs]
      exact fun _ _ _ _ _ _ => trivial
  refine hcheck.mono outlineSpec_isMono ?_
  intro r v' h
  cases r with
  | ok => exact ⟨hP w.driver hw, h⟩
  | error => trivial

theorem quiet {c : Call} {prepared : c.Stored} (hc : c.slot? = none) (ht : toggles c = false) :
    Succeeds compute v (Native.request c prepared) fun _ v' => v' = v :=
  (request (P := fun _ => True) hc ht fun _ _ => trivial).weaken fun _ _ h => h.2

/-- An action after a call whose status is not judged. -/
theorem call {c : Call} {f : Reply c → Action α}
    (hf : ∀ s : Simulator, s.outline = v →
      Succeeds compute (Simulator.call compute c s).2.outline (f (Simulator.call compute c s).1) P) :
    Succeeds compute v (liftM (Native.call c) >>= f) P := by
  constructor
  rw [meets_action_bind]
  intro w hw
  exact (hf w.driver hw).meets

end Succeeds

end

/-! ### The calls that open a device -/

section

variable {compute : UInt32 → Bytes → Bytes} {s : Simulator} {v : Outline}

theorem stored_bufferCount (h : Option Handle) :
    (call compute (.bufferCount h) s).1.stored.getD 0 = s.setup.bufferCount ∨
      (call compute (.bufferCount h) s).1.stored.getD 0 = 0 := by
  simp only [call, proceed]
  split
  · exact Or.inl (congrArg Setup.bufferCount (slots_enter _ _ _).2)
  · exact Or.inr rfl

theorem stored_bufferSize (h : Option Handle) :
    (call compute (.bufferSize h) s).1.stored.getD 0 = s.setup.bufferSize ∨
      (call compute (.bufferSize h) s).1.stored.getD 0 = 0 := by
  simp only [call, proceed]
  split
  · exact Or.inl (congrArg Setup.bufferSize (slots_enter _ _ _).2)
  · exact Or.inr rfl

/-- A creation that succeeds opens the device. -/
theorem create_cases (compute : UInt32 → Bytes → Bytes) (s : Simulator) (endpoint : UInt32)
    (params : OpenParams) :
    ((call compute (.create endpoint params) s).1.stored = none) ∨
      ((call compute (.create endpoint params) s).1.status = .success ∧
        (call compute (.create endpoint params) s).1.stored = some (some token) ∧
        (call compute (.create endpoint params) s).2.outline =
          s.outline.opened) := by
  obtain ⟨hslots, hsetup⟩ := slots_enter (s := s) .createHandle none none
  simp only [call, proceed]
  split
  · exact Or.inr ⟨rfl, rfl, by simp only [outline, Outline.opened, hslots, hsetup]⟩
  · exact Or.inl rfl

end

end Simulator

/-- What a device reports is what it is set up with, or nothing. -/
structure Capabilities.IsFor (setup : Setup) (c : Capabilities) : Prop where
  count : c.bufferCount = setup.bufferCount ∨ c.bufferCount = 0
  size : c.bufferSize = setup.bufferSize ∨ c.bufferSize = 0

namespace Device

variable {compute : UInt32 → Bytes → Bytes} {v : Outline}

theorem succeeds_queryCapabilities (handle : Handle) :
    Succeeds compute v (queryCapabilities handle) fun c v' => c.IsFor v.setup ∧ v' = v := by
  refine Succeeds.bind (.quiet rfl rfl) ?_
  rintro shellRegisters v rfl
  have hcount : Succeeds compute v (request (.bufferCount handle) 0) fun n v' =>
      (n = v.setup.bufferCount ∨ n = 0) ∧ v' = v :=
    .request rfl rfl fun s hs => by rw [← hs]; exact stored_bufferCount _
  have hsize : Succeeds compute v (request (.bufferSize handle) 0) fun n v' =>
      (n = v.setup.bufferSize ∨ n = 0) ∧ v' = v :=
    .request rfl rfl fun s hs => by rw [← hs]; exact stored_bufferSize _
  refine hcount.bind ?_
  rintro count _ ⟨hcount, rfl⟩
  refine hsize.bind ?_
  rintro size _ ⟨hsize, rfl⟩
  exact .pure ⟨⟨hcount, hsize⟩, rfl⟩

theorem succeeds_createHandle (endpoint : UInt32) (params : OpenParams) :
    Succeeds compute v (createHandle endpoint params) fun handle v' =>
      handle = token ∧ v' = v.opened := by
  refine Succeeds.call fun s hs => ?_
  rcases create_cases compute s endpoint params with hstored | ⟨hstatus, hstored, houtline⟩
  · simp only [hstored]
    exact .after _ fun _ _ => .error _
  · simp only [hstored, hstatus, houtline, hs]
    exact .pure ⟨rfl, rfl⟩

theorem succeeds_requirePresence (params : OpenParams) :
    Succeeds compute v (requirePresence params) fun _ v' => v' = v := by
  refine Succeeds.call fun s hs => ?_
  have htouch := touches_call compute (.present params) (s := s)
  have hsame := (htouch.outline.2.2 rfl).trans hs
  rw [hsame]
  by_cases hstatus : (Simulator.call compute (.present params) s).1.status = .success
  · rw [if_pos hstatus]
    exact .pure rfl
  · rw [if_neg hstatus]
    exact .after _ fun _ _ => .error _

/-- The capabilities behind a new handle; on failure the device may be closed again. -/
theorem succeeds_settleHandle (handle : Handle) :
    Succeeds compute v (settleHandle handle) fun c v' => c.IsFor v.setup ∧ v' = v := by
  refine Succeeds.outcome (succeeds_queryCapabilities handle) (fun c v' h => .pure h)
    fun e v' => .after _ fun r v₁ => ?_
  match r with
  | .ok () => exact .error e
  | .error _ => exact .after _ fun _ _ => .error e

theorem succeeds_acquire (endpoint : UInt32) (params : OpenParams) :
    Succeeds compute v (acquire endpoint params) fun x v' =>
      x.1 = token ∧ x.2.IsFor v.setup ∧ v' = v.opened := by
  refine Succeeds.bind (succeeds_requirePresence params) ?_
  rintro - _ rfl
  refine Succeeds.bind (succeeds_createHandle endpoint params) ?_
  rintro _ _ ⟨rfl, rfl⟩
  refine Succeeds.bind (succeeds_settleHandle token) ?_
  rintro capabilities _ ⟨hc, rfl⟩
  exact .pure ⟨rfl, hc, rfl⟩

/-- A device that is brought up is open. -/
theorem succeeds_bringUp (library : Option String) (endpoint : UInt32) (params : OpenParams) :
    Succeeds compute v (bringUp library endpoint params) fun d v' =>
      d.session = some ⟨token, d.capabilities.bufferSize.toNat⟩ ∧
        d.capabilities.IsFor v.setup ∧ v' = v.opened := by
  refine Succeeds.outcome (succeeds_acquire endpoint params) ?_
    fun e v' => .after _ fun _ _ => .error e
  rintro ⟨_, capabilities⟩ _ ⟨rfl, hc, rfl⟩
  refine Succeeds.bind .log ?_
  rintro - _ rfl
  exact .pure ⟨rfl, hc, rfl⟩

end Device

namespace Dispatcher

variable {compute : UInt32 → Bytes → Bytes} {v : Outline}

/-- A dispatcher that has just been brought up on an open device. -/
structure IsUp (setup : Setup) (d : Dispatcher) : Prop where
  slots : 1 ≤ setup.bufferCount.toNat
  pool : d.pool = Pool.fresh setup.bufferCount.toNat
  session : d.device.session = some ⟨token, d.bufferSize⟩
  size : d.bufferSize = setup.bufferSize.toNat ∨ d.bufferSize = 0
  tornDown : d.tornDown = false
  teardown : d.teardown = .notBegun
  arrivals : d.arrivals = []

theorem succeeds_setPcieEnabled (session : Session) (enabled : Bool) :
    Succeeds compute v (session.setPcieEnabled enabled) fun _ v' => v' = v := by
  refine Succeeds.bind (.quiet rfl rfl) ?_
  rintro current _ rfl
  exact .quiet rfl rfl

theorem succeeds_setUp {device : Device} (hsession : device.session.isSome = true) :
    Succeeds compute v (setUp device) fun pool v' =>
      1 ≤ device.capabilities.bufferCount.toNat ∧
        pool = Pool.fresh device.capabilities.bufferCount.toNat ∧ v' = v := by
  obtain ⟨session, hs⟩ := Option.isSome_iff_exists.1 hsession
  simp only [setUp, Device.withSession, hs]
  refine Succeeds.bind (.quiet rfl rfl) ?_
  rintro - _ rfl
  refine Succeeds.bind (succeeds_setPcieEnabled session true) ?_
  rintro - v rfl
  by_cases hslots : device.capabilities.bufferCount.toNat = 0
  · simp only [hslots, if_true]
    exact .after _ fun _ _ => .error _
  · simp only [hslots, if_false, Pool.build]
    refine Succeeds.bind (R := fun pool v' => pool = Pool.fresh _ ∧ v' = v) (.pure ⟨rfl, rfl⟩) ?_
    rintro _ _ ⟨rfl, rfl⟩
    refine Succeeds.bind .log ?_
    rintro - _ rfl
    exact .pure ⟨Nat.one_le_iff_ne_zero.2 hslots, rfl, rfl⟩

theorem succeeds_bringUpDevice (library : Option String) (config : Config) :
    Succeeds compute v (bringUpDevice library config) fun x v' =>
      x.1.session = some ⟨token, x.1.capabilities.bufferSize.toNat⟩ ∧
        x.1.capabilities.IsFor v.setup ∧ 1 ≤ x.1.capabilities.bufferCount.toNat ∧
        x.2 = Pool.fresh x.1.capabilities.bufferCount.toNat ∧ v' = v.opened := by
  rw [bringUpDevice]
  cases openParams config with
  | error e => exact .after _ fun _ _ => .error e
  | ok params =>
      refine Succeeds.bind (Device.succeeds_bringUp library config.endpoint params) ?_
      rintro device _ ⟨hsession, hc, rfl⟩
      have hset : Succeeds compute v.opened (setUp device) _ :=
        succeeds_setUp (by rw [hsession]; rfl)
      refine hset.outcome ?_ fun e _ => .after _ fun _ _ => .error e
      rintro pool _ ⟨hslots, hpool, rfl⟩
      exact .pure ⟨hsession, hc, hslots, hpool, rfl⟩

/-- **A dispatcher that comes up is up.** -/
theorem succeeds_bringUp (library : Option String) (config : Config) :
    Succeeds compute v (bringUp library config) fun d v' => d.IsUp v.setup ∧ v' = v.opened := by
  have hsink : Succeeds compute v (liftM (installSink config.sink) : Action Unit)
      fun _ v' => v' = v := by
    cases config.sink with
    | none => exact .pure rfl
    | some sink => exact .log
  refine hsink.bind ?_
  rintro - v rfl
  refine Succeeds.outcome (succeeds_bringUpDevice library config) ?_
    fun e _ => .after _ fun _ _ => .error e
  rintro ⟨device, pool⟩ _ ⟨hsession, hc, hslots, hpool, rfl⟩
  dsimp only at hsession hc hpool
  -- a device that reports no slots at all does not come up
  have hcount : device.capabilities.bufferCount = v.setup.bufferCount := by
    refine hc.count.resolve_right ?_
    intro hzero
    simp [hzero] at hslots
  rw [hcount] at hslots hpool
  refine .pure ⟨⟨hslots, hpool, hsession, ?_, rfl, rfl, rfl⟩, rfl⟩
  exact hc.size.imp (congrArg UInt32.toNat) (congrArg UInt32.toNat)

/-! ### Coming up with interference -/

/-- The ways in which a dispatcher comes up on a fresh device, where others meddle in between. -/
def ComesUp (compute : UInt32 → Bytes → Bytes) (setup : Setup) (d : Dispatcher)
    (w : World Simulator) : Prop :=
  ∃ config router, (bringUp none config).run.Meddled (driver compute) Meddling
    ⟨Simulator.fresh setup, router⟩ (.ok d) w

/-- A dispatcher comes up when nobody meddles. -/
theorem comesUp_of_run {setup : Setup} {d : Dispatcher} {config : Config} {router : Log.Router}
    (h : ((driver compute).run (bringUp none config).run ⟨Simulator.fresh setup, router⟩).1 =
      .ok d) :
    d.ComesUp compute setup
      ((driver compute).run (bringUp none config).run ⟨Simulator.fresh setup, router⟩).2 := by
  refine ⟨config, router, ?_⟩
  rw [← h]
  generalize (bringUp none config).run = up
  exact Program.meddled_run _ _ up _

theorem comesUp_of_toOption {setup : Setup} {d : Dispatcher} {config : Config} {router : Log.Router}
    (h : ((driver compute).run (bringUp none config).run
      ⟨Simulator.fresh setup, router⟩).1.toOption = some d) :
    d.ComesUp compute setup
      ((driver compute).run (bringUp none config).run ⟨Simulator.fresh setup, router⟩).2 :=
  comesUp_of_run (Outcome.eq_ok_of_toOption h)

/-- What others do while a dispatcher comes up leaves the slots alone. -/
theorem outline_of_meddling {w w' : World Simulator} (h : Meddling w w') :
    w'.driver.outline = w.driver.outline := by
  cases h with
  | hook hook _ s hs => exact Hook.outline_eq hs
  | log => rfl

/-- The ways in which a dispatcher comes up on a device that others may have used before. -/
def ComesUpOn (compute : UInt32 → Bytes → Bytes) (s : Simulator) (d : Dispatcher)
    (w : World Simulator) : Prop :=
  ∃ library config router, (bringUp library config).run.Meddled (driver compute) Meddling
    ⟨s, router⟩ (.ok d) w

section

variable {setup : Setup} {s : Simulator} {d : Dispatcher} {w : World Simulator}

theorem ComesUp.comesUpOn (h : ComesUp compute setup d w) :
    d.ComesUpOn compute (Simulator.fresh setup) w := ⟨none, h⟩

/-- **A dispatcher that comes up is up, and the device is as it was, but open.** -/
theorem ComesUpOn.isUp (h : d.ComesUpOn compute s w) :
    d.IsUp s.setup ∧ w.driver.outline = s.outline.opened := by
  obtain ⟨library, config, router, hrun⟩ := h
  have hup : Succeeds compute s.outline (bringUp library config) _ :=
    succeeds_bringUp library config
  exact hup.meets.meddled (fun w => w.driver.outline) (fun _ _ => outline_of_meddling)
    (fun o Q w hs => hs w rfl) hrun

/-- **A dispatcher that comes up is up, and the slots are blank.** -/
theorem ComesUp.isUp (h : ComesUp compute setup d w) :
    d.IsUp setup ∧ w.driver.outline = (Simulator.fresh setup).outline.opened :=
  h.comesUpOn.isUp

end

end Dispatcher

end Offload
