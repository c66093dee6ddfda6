/-
**The same exchange on two states of the device.**

An exchange goes by what the calls about its slot answer and by nothing else.  On two states that
these calls cannot tell apart it makes the same steps, uses up the same faults and adds as many
overlaps, and it ends with the same outcome but for the device's own account of a failure.

Main definitions:

* `Exchange.EndsAlike` — ends of a round that are equal but for that account;
* `Exchange.Run.Alike` — exchanges that have come equally far;
* `Exchange.InStep`, `Exchange.Lockstep` — two steps that do the same, and two of the same kind.

Main results:

* `Exchange.alike_deviceRound` — **a round does not go by the account of a failure**;
* `Exchange.lockstep_step` — **exchanges that have come equally far go on alike**.
-/

import Offload.Proofs.Device.Bounded
import Offload.Proofs.Native.Alike
import Offload.Proofs.Simulator.Apart

set_option autoImplicit false
set_option relaxedAutoImplicit false

namespace Offload.Exchange

open Native Simulator

/-! ### Rounds -/

/-- Ends of a round that are equal but for the device's own account of a failure. -/
def EndsAlike (r r' : Option (Outcome Bytes)) : Prop :=
  r'.map Outcome.blurred = r.map Outcome.blurred

theorem alike_view {c : Call} (prepared : c.Stored) (ofStored : c.Stored → Outcome View) :
    (request c prepared >>= fun stored => liftM (ofStored stored) : Action View).run.Alike
      (SameButReports Eq) (request c prepared >>= fun stored => liftM (ofStored stored)).run :=
  alike_then (alike_request prepared) fun _ => alike_liftOutcome (.refl _)

theorem alike_copy {o : Op} (ho : o.isReport = false) (checked : Outcome Unit) :
    (liftM checked >>= fun _ => liftM (perform o) : Action o.Answer).run.Alike (SameButReports Eq)
      (liftM checked >>= fun _ => liftM (perform o) : Action o.Answer).run :=
  alike_then (alike_liftOutcome (.refl _)) fun _ => alike_lift (alike_perform ho)

/-- A transfer does not go by the account of a failure. -/
theorem alike_transfer (s : Session) (slot : UInt32) (input : Bytes) :
    (transfer s slot input).run.Alike (SameButReports Eq) (transfer s slot input).run := by
  refine alike_then (alike_liftOutcome (.refl _)) fun length => ?_
  refine alike_then (alike_view _ _) fun inputView => ?_
  refine alike_then (alike_view _ _) fun outputView => ?_
  refine alike_then (alike_copy (o := .store _ _) rfl _) fun _ => ?_
  refine alike_then (alike_request (c := .send (some s.handle) slot length) ()) fun _ => ?_
  refine alike_then (alike_logLine _ _ _) fun _ => ?_
  refine alike_then (alike_request (c := .wait (some s.handle) slot) 0) fun received => ?_
  -- what the copy out and the discard come to is kept, with the account of a failure in it
  refine alike_action_bind (alike_outcome (alike_copy (o := .fetch _ _) rfl _)) fun r r' hr => ?_
  refine alike_action_bind
    (alike_outcome (alike_request (c := .discard (some s.handle) slot) ())) fun d d' hd => ?_
  refine alike_action_bind (alike_liftOutcome hr) fun response response' hresponse => ?_
  refine alike_action_bind (alike_liftOutcome hd) fun _ _ _ => ?_
  refine alike_action_bind (alike_logLine _ _ _) fun _ _ _ => ?_
  exact .done (.ok hresponse)

/-- **A round does not go by the account of a failure.** -/
theorem alike_deviceRound (device : Device) (slot : UInt32) (input : Bytes) :
    (deviceRound device slot input).Alike EndsAlike (deviceRound device slot input) := by
  have hdone {r r' : Outcome Bytes} (h : SameButReports Eq r r') :
      EndsAlike (some r) (some r') := congrArg some h.blurred_eq
  rw [deviceRound]
  split
  · next session _ =>
      refine alike_bind (alike_request (c := .inputFull (some session.handle) slot) false)
        fun r r' hr => ?_
      cases hr with
      | error h => exact .done (hdone (.error h))
      | ok h =>
          rw [← h]
          split
          · exact .done rfl
          · exact alike_bind (alike_transfer session slot input) fun _ _ h => .done (hdone h)
          · next hr => cases hr
  · exact .done rfl

/-! ### Operations -/

section

variable {compute : UInt32 → Bytes → Bytes} {slot : UInt32} {o : Op} {w w' : World Simulator}

/-- A query about the last failure, and logging, do nothing to the device. -/
theorem driver_answered_report (ho : o.isReport = true) (late : Bool) (w : World Simulator) :
    (answered (driver compute) late o w).2.driver = w.driver := by
  cases o with
  | call | store | fetch => cases ho
  | _ => cases late <;> rfl

/-- **An operation about a slot in two states that it cannot tell apart** is answered in the same
way and does the same. -/
theorem answered_level (compute : UInt32 → Bytes → Bytes) (ho : o.isReport = false)
    (habout : IsAbout slot o) (late : Bool) (h : Level slot w.driver w'.driver) :
    (answered (driver compute) late o w').1 = (answered (driver compute) late o w).1 ∧
      Level slot (answered (driver compute) late o w).2.driver
        (answered (driver compute) late o w').2.driver ∧
      ∃ used extra,
        Pays slot used extra w.driver (answered (driver compute) late o w).2.driver ∧
        Pays slot used extra w'.driver (answered (driver compute) late o w').2.driver := by
  cases o with
  | call c =>
      obtain ⟨h₁, h₂⟩ := answered_call compute late c w
      obtain ⟨h₁', h₂'⟩ := answered_call compute late c w'
      rw [h₁, h₂, h₁', h₂']
      exact h.reply compute late habout.2 (toggles_of_slot? habout.2)
  | store region data =>
      obtain rfl : region.slot = slot := habout
      have hlevel := (isLocal_store region data _ _ h).level
      cases late <;> exact ⟨rfl, hlevel, none, 0, pays_store region data, pays_store region data⟩
  | fetch region length =>
      obtain rfl : region.slot = slot := habout
      have hfetch := h.fetch_eq length
      cases late <;> exact ⟨hfetch, h, none, 0, .refl _ _, .refl _ _⟩
  | lastError | lastErrorText | log => cases ho

/-- Operations about a slot that exists and is not held return at once. -/
theorem returns_of_about (habout : IsAbout slot o) (hslot : w.driver.slot? slot ≠ none)
    (hheld : w.driver.isHeld slot = false) (late : Bool) :
    returns (driver compute) late o w = true := by
  obtain ⟨hblocked, hstill⟩ := not_blocked compute habout hheld
  have htrap : (driver compute).trapped? o w = none := by
    cases o with
    | call c =>
        obtain ⟨t, ht⟩ := Option.ne_none_iff_exists'.1 hslot
        have hcontent : w.driver.content? slot.toNat = some t.content := by
          rw [content?, show w.driver.slots[slot.toNat]? = some t from ht, Option.map_some]
        rw [Driver.trapped?, show (driver compute).traps c w.driver = none from
          traps_eq_none c habout.2 hcontent]
        rfl
    | _ => rfl
  cases late <;> simp [returns, hblocked, hstill, htrap]

end

/-! ### Steps -/

/-- Exchanges that have come equally far. -/
structure Run.Alike (run run' : Run) : Prop where
  input : run'.input = run.input
  entered : run'.entered = run.entered
  rest : run.rest.Alike EndsAlike run'.rest

theorem Run.Alike.symm {run run' : Run} (h : run.Alike run') : run'.Alike run :=
  ⟨h.input.symm, h.entered.symm, h.rest.symm fun _ _ h => h.symm⟩

theorem Run.Alike.trans {run run' run'' : Run} (h : run.Alike run') (h' : run'.Alike run'') :
    run.Alike run'' :=
  ⟨h'.input.trans h.input, h'.entered.trans h.entered,
    h.rest.trans (fun _ _ _ h h' => h'.trans h) h'.rest⟩

theorem alike_begin (device : Device) (slot : UInt32) (input : Bytes) :
    Run.Alike ⟨input, deviceRound device slot input, false⟩
      ⟨input, deviceRound device slot input, false⟩ :=
  ⟨rfl, rfl, alike_deviceRound device slot input⟩

/-- Two steps that do the same to what all exchanges share: calls about the slot cannot tell the
states that they leave apart, and they cost the same. -/
structure InStep (slot : UInt32) (site site' site₁ site₁' : Site Simulator) : Prop where
  device : site₁.device = site.device
  device' : site₁'.device = site'.device
  level : Level slot site₁.world.driver site₁'.world.driver
  pays : ∃ used extra, Pays slot used extra site.world.driver site₁.world.driver ∧
    Pays slot used extra site'.world.driver site₁'.world.driver

theorem inStep_of_driver_eq {slot : UInt32} {site site' site₁ site₁' : Site Simulator}
    (hlevel : Level slot site.world.driver site'.world.driver) (hdevice : site₁.device = site.device)
    (hdevice' : site₁'.device = site'.device) (hdriver : site₁.world.driver = site.world.driver)
    (hdriver' : site₁'.world.driver = site'.world.driver) : InStep slot site site' site₁ site₁' := by
  refine ⟨hdevice, hdevice', ?_, none, 0, ?_, ?_⟩
  · rwa [hdriver, hdriver']
  · rw [hdriver]
    exact .refl _ _
  · rw [hdriver']
    exact .refl _ _

/-- Two steps of the same kind: both exchanges go on, or both have their outcome. -/
inductive Lockstep (slot : UInt32) (site site' : Site Simulator) :
    Pool.Progress Run (Site Simulator) → Pool.Progress Run (Site Simulator) → Prop
  | continues (run run' : Run) (site₁ site₁' : Site Simulator) (hrun : run.Alike run')
      (hsites : InStep slot site site' site₁ site₁') :
      Lockstep slot site site' (.continues run site₁) (.continues run' site₁')
  | returned (outcome outcome' : Outcome Bytes)
      (h : Outcome.blurred outcome' = Outcome.blurred outcome) :
      Lockstep slot site site' (.returned outcome site) (.returned outcome' site')

theorem Lockstep.ne_blocked {slot : UInt32} {site site' : Site Simulator}
    {next next' : Pool.Progress Run (Site Simulator)} (h : Lockstep slot site site' next next') :
    next ≠ .blocked ∧ next' ≠ .blocked := by
  cases h <;> simp

theorem Lockstep.ne_died {slot : UInt32} {site site' site₁ : Site Simulator}
    {next next' : Pool.Progress Run (Site Simulator)} (h : Lockstep slot site site' next next') :
    next ≠ .died site₁ := by
  cases h <;> simp

section

variable {compute : UInt32 → Bytes → Bytes} {i : Nat} {run run' : Run}
  {site site' : Site Simulator}

/-- **Exchanges that have come equally far go on alike**, on states that calls about their slot
cannot tell apart. -/
theorem lockstep_step (hrun : run.Alike run')
    (hlevel : Level (UInt32.ofNat i) site.world.driver site'.world.driver)
    (hdevice : site'.device = site.device)
    (habout : ∀ o next, run.rest = .step o next → IsAbout (UInt32.ofNat i) o)
    (hslot : site.world.driver.slot? (UInt32.ofNat i) ≠ none)
    (hheld : site.world.driver.isHeld (UInt32.ofNat i) = false) :
    Lockstep (UInt32.ofNat i) site site' (step (driver compute) i run site)
      (step (driver compute) i run' site') := by
  have hslot' : site'.world.driver.slot? (UInt32.ofNat i) ≠ none := by rwa [hlevel.slot?]
  have hheld' : site'.world.driver.isHeld (UInt32.ofNat i) = false := by rwa [hlevel.isHeld_eq]
  obtain ⟨input, rest, entered⟩ := run
  obtain ⟨input', rest', entered'⟩ := run'
  obtain ⟨hinput, hentered, hrest⟩ := hrun
  obtain rfl : input' = input := hinput
  obtain rfl : entered' = entered := hentered
  -- reports leave the device alone, and whatever they answer the exchanges go on alike
  have hreport {o o' : Op} {next : o.Answer → Program (Option (Outcome Bytes))}
      {next' : o'.Answer → Program (Option (Outcome Bytes))} (ho : o.isReport = true)
      (ho' : o'.isReport = true) (habout : IsAbout (UInt32.ofNat i) o)
      (habout' : IsAbout (UInt32.ofNat i) o')
      (hnext : ∀ x x', (next x).Alike EndsAlike (next' x')) :
      Lockstep (UInt32.ofNat i) site site'
        (step (driver compute) i ⟨input', .step o next, entered'⟩ site)
        (step (driver compute) i ⟨input', .step o' next', entered'⟩ site') := by
    rw [step_of_returns (driver compute) rfl (returns_of_about habout hslot hheld _),
      step_of_returns (driver compute) rfl (returns_of_about habout' hslot' hheld' _)]
    exact .continues _ _ _ _ ⟨rfl, rfl, hnext _ _⟩ (inStep_of_driver_eq hlevel rfl rfl
      (driver_answered_report ho _ _) (driver_answered_report ho' _ _))
  cases hrest with
  | @done r r' h =>
      cases r with
      | none =>
          obtain rfl : r' = none := by simpa [EndsAlike] using h
          -- the next round begins on the same device
          have hround := alike_deviceRound site.device (UInt32.ofNat i) input'
          have hstep : step (driver compute) i ⟨input', .done none, entered'⟩ site' = .continues
              ⟨input', deviceRound site.device (UInt32.ofNat i) input', entered'⟩ site' := by
            rw [← hdevice]
            rfl
          rw [hstep]
          exact .continues _ _ _ _ ⟨rfl, rfl, hround⟩ (inStep_of_driver_eq hlevel rfl rfl rfl rfl)
      | some outcome =>
          obtain ⟨outcome', rfl, hsame⟩ : ∃ outcome', r' = some outcome' ∧
              Outcome.blurred outcome' = Outcome.blurred outcome := Option.map_eq_some_iff.1 h
          exact .returned outcome outcome' hsame
  | step o ho h =>
      have habout := habout o _ rfl
      obtain ⟨hanswer, hlevel', used, extra, hpays, hpays'⟩ :=
        answered_level compute ho habout entered' hlevel
      rw [step_of_returns (driver compute) rfl (returns_of_about habout hslot hheld _),
        step_of_returns (driver compute) rfl (returns_of_about habout hslot' hheld' _)]
      refine .continues _ _ _ _ ⟨rfl, rfl, ?_⟩ ⟨rfl, rfl, hlevel', used, extra, hpays, hpays'⟩
      dsimp only
      rw [hanswer]
      exact h _
  | lastError h => exact hreport rfl rfl trivial trivial h
  | lastErrorText h => exact hreport rfl rfl trivial trivial h
  | log request request' h => exact hreport rfl rfl trivial trivial fun _ _ => h

end

end Offload.Exchange
