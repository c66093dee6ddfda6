/-
**The handle of a device, from its creation until it is given back.**

Whatever a driver answers, every way of opening a device that does not lead to an open one gives the
handle back if there was one, and closing an open device gives it back once; no other operation of a
session does.

Main definitions:

* `Exchange.Uses` — operations that use one handle, and do not give it back.

Main results:

* `Device.life_settleHandle`, `Device.life_bringUp` — a device that does not open has given its
  handle back;
* `Device.life_close` — **closing a device gives its handle back**;
* `Exchange.uses_deviceRound` — an exchange uses the handle of its session.
-/

import Offload.Proofs.Device.Kinds
import Offload.Proofs.Native.Traced

set_option autoImplicit false
set_option relaxedAutoImplicit false

namespace Offload

open Native

namespace Device

variable {T : Trace} {h : Handle}

/-! ### Opening -/

theorem life_queryCapabilities {Q : Outcome Capabilities → Trace → Prop} (hT : IsLive h T)
    (hQ : ∀ r T', IsLive h T' → Q r T') : (queryCapabilities h).run.Meets lifeSpec Q T := by
  have hcount {c : Call} {T : Trace} {Q : Outcome c.Stored → Trace → Prop} {prepared : c.Stored}
      (hT : IsLive h T) (hc : c = .shellCount h ∨ c = .bufferCount h ∨ c = .bufferSize h)
      (hQ : ∀ r T', IsLive h T' → Q r T') : (request c prepared).run.Meets lifeSpec Q T := by
    refine life_request hT ?_ (fun reply => ?_) hQ <;> rcases hc with rfl | rfl | rfl <;> rfl
  simp only [queryCapabilities, meets_action_bind]
  refine hcount hT (Or.inl rfl) fun r T₁ h₁ => ?_
  cases r with
  | error e => exact hQ _ _ h₁
  | ok =>
      refine hcount h₁ (Or.inr (Or.inl rfl)) fun r T₂ h₂ => ?_
      cases r with
      | error e => exact hQ _ _ h₂
      | ok =>
          refine hcount h₂ (Or.inr (Or.inr rfl)) fun r T₃ h₃ => ?_
          cases r with
          | error e => exact hQ _ _ h₃
          | ok => exact hQ _ _ h₃

/-- A handle that is given back is spent, whatever the call comes to. -/
theorem life_closeHandle {Q : Outcome Unit → Trace → Prop} (hT : IsLive h T)
    (hQ : ∀ r T', IsSpent h T' → Q r T') : (closeHandle h).run.Meets lifeSpec Q T := by
  refine meets_request_iff.2 ⟨hT.may rfl, fun reply => life_check fun r => ?_⟩
  cases r with
  | ok => exact hQ _ _ hT.close
  | error e => exact hQ _ _ hT.close

theorem life_requirePresence {params : OpenParams} {Q : Outcome Unit → Trace → Prop}
    (hT : IsBlank T) (hQ : ∀ r T', IsBlank T' → Q r T') :
    (requirePresence params).run.Meets lifeSpec Q T := by
  refine life_call (hT.may rfl) fun reply => ?_
  have hT' : IsBlank (T ++ [⟨.present params, some reply⟩]) := hT.concat rfl rfl
  by_cases hs : reply.status = .success
  · rw [if_pos hs]
    exact hQ _ _ hT'
  · rw [if_neg hs]
    exact fun _ => hQ _ _ hT'

/-- A creation that succeeds is the only way to a handle. -/
theorem life_createHandle {endpoint : UInt32} {params : OpenParams}
    {Q : Outcome Handle → Trace → Prop} (hT : IsBlank T) (hok : ∀ h T', IsLive h T' → Q (.ok h) T')
    (herror : ∀ e T', IsBlank T' → Q (.error e) T') :
    (createHandle endpoint params).run.Meets lifeSpec Q T := by
  refine life_call (hT.may rfl) fun reply => ?_
  have hcreates : (⟨.create endpoint params, some reply⟩ : Made).creates? =
      if reply.status = .success then reply.stored.getD none else none := rfl
  have hfail (hnone : (⟨.create endpoint params, some reply⟩ : Made).creates? = none) (e : Error) :
      Q (.error e) (T ++ [⟨.create endpoint params, some reply⟩]) :=
    herror e _ (hT.concat hnone rfl)
  cases hstored : reply.stored.getD none with
  | none =>
      exact fun _ => hfail (by rw [hcreates, hstored, ite_self]) _
  | some h =>
      by_cases hs : reply.status = .success
      · simp only [hs]
        exact hok h _ (hT.create (by rw [hcreates, if_pos hs, hstored]) rfl)
      · simp only [hs]
        exact fun _ => hfail (by rw [hcreates, if_neg hs]) _

/-- A handle whose capabilities cannot be had is given back. -/
theorem life_settleHandle {Q : Outcome Capabilities → Trace → Prop} (hT : IsLive h T)
    (hok : ∀ c T', IsLive h T' → Q (.ok c) T') (herror : ∀ e T', IsSpent h T' → Q (.error e) T') :
    (settleHandle h).run.Meets lifeSpec Q T := by
  rw [settleHandle, meets_action_bind, meets_outcome]
  refine life_queryCapabilities hT fun r T₁ h₁ => ?_
  cases r with
  | ok c => exact hok c _ h₁
  | error e =>
      simp only [either_ok, meets_action_bind, meets_outcome]
      refine life_closeHandle h₁ fun r T₂ h₂ => ?_
      cases r with
      | ok => exact herror e _ h₂
      | error e' => exact herror e _ h₂

theorem life_acquire {endpoint : UInt32} {params : OpenParams}
    {Q : Outcome (Handle × Capabilities) → Trace → Prop} (hT : IsBlank T)
    (hok : ∀ h c T', IsLive h T' → Q (.ok (h, c)) T')
    (herror : ∀ e T', IsSettled T' → Q (.error e) T') :
    (acquire endpoint params).run.Meets lifeSpec Q T := by
  simp only [acquire, meets_action_bind]
  refine life_requirePresence hT fun r T₁ h₁ => ?_
  cases r with
  | error e => exact herror e _ (Or.inl h₁)
  | ok =>
      refine life_createHandle h₁ (fun h T₂ h₂ => ?_) fun e T₂ h₂ => herror e _ (Or.inl h₂)
      exact life_settleHandle h₂ (fun c T₃ h₃ => hok h c _ h₃)
        fun e T₃ h₃ => herror e _ (Or.inr ⟨h, h₃⟩)

theorem life_noteUnloaded {library : Option String} {Q : Unit → Trace → Prop} (hQ : Q () T) :
    (noteUnloaded library).Meets lifeSpec Q T := by
  cases library <;> exact hQ

/-- **A device that does not open has given its handle back**, if it had one. -/
theorem life_bringUp {library : Option String} {endpoint : UInt32} {params : OpenParams}
    {Q : Outcome Device → Trace → Prop} (hT : IsBlank T)
    (hok : ∀ d h n T', d.session = some ⟨h, n⟩ → IsLive h T' → Q (.ok d) T')
    (herror : ∀ e T', IsSettled T' → Q (.error e) T') :
    (bringUp library endpoint params).run.Meets lifeSpec Q T := by
  rw [bringUp, meets_action_bind, meets_outcome]
  refine life_acquire hT (fun h c T₁ h₁ => ?_) fun e T₁ h₁ => ?_
  · exact hok _ h _ _ rfl h₁
  · rw [either_ok, meets_action_bind]
    exact (meets_lift _).2 (life_noteUnloaded (herror e _ h₁))

/-! ### Closing -/

theorem life_setPcieEnabled {n : Nat} {enabled : Bool} {Q : Outcome Unit → Trace → Prop}
    (hT : IsLive h T) (hQ : ∀ r T', IsLive h T' → Q r T') :
    (Session.setPcieEnabled ⟨h, n⟩ enabled).run.Meets lifeSpec Q T := by
  rw [Session.setPcieEnabled, meets_action_bind]
  refine life_request hT rfl (fun _ => rfl) fun r T₁ h₁ => ?_
  cases r with
  | error e => exact hQ _ _ h₁
  | ok current => exact life_request h₁ rfl (fun _ => rfl) hQ

theorem life_warnOnError {what : String} {step : Action Unit} {Q : Unit → Trace → Prop}
    (hstep : step.run.Meets lifeSpec (fun _ T' => Q () T') T) :
    (warnOnError what step).Meets lifeSpec Q T := by
  refine (Program.meets_bind _ _).2 (hstep.mono lifeSpec_isMono fun r T' hQ => ?_)
  cases r with
  | ok => exact hQ
  | error e => exact hQ

/-- **Closing an open device gives its handle back**, once, whatever fails. -/
theorem life_close {d : Device} {n : Nat} {Q : Bool × Device → Trace → Prop}
    (hs : d.session = some ⟨h, n⟩) (hT : IsLive h T)
    (hQ : ∀ T', IsSpent h T' → Q (true, d.closed) T') : d.close.Meets lifeSpec Q T := by
  rw [close, hs]
  refine (Program.meets_bind _ _).2 ((Program.meets_bind _ _).2 (life_warnOnError ?_))
  refine life_setPcieEnabled hT fun _ T₁ h₁ => ?_
  refine (Program.meets_bind _ _).2 (life_warnOnError (life_closeHandle h₁ fun _ T₂ h₂ => ?_))
  refine (Program.meets_bind _ _).2 (life_noteUnloaded ?_)
  exact hQ _ h₂

end Device

/-! ### Operations that use a handle -/

namespace Exchange

/-- The operation uses no other handle, and does not give it back: a call takes the handle, and
everything that is no call is allowed. -/
def Uses (h : Handle) : Op → Prop
  | .call c => c.handle? = some (some h) ∧ ∀ reply, (⟨c, reply⟩ : Made).closes? = none
  | _ => True

theorem admitsReports_uses (h : Handle) : AdmitsReports (Uses h) :=
  ⟨trivial, trivial, fun _ _ => trivial⟩

/-- Exchanges use the handle of their session; only closing, which is about no slot, gives it
back. -/
theorem admitsExchanges_uses (h : Handle) : AdmitsExchanges h (Uses h) where
  toAdmitsReports := admitsReports_uses h
  onSlot c hhandle hslot := by
    refine ⟨hhandle, fun reply => ?_⟩
    cases c with
    | close => exact absurd rfl hslot
    | _ => rfl
  store _ _ := trivial
  fetch _ _ := trivial

/-- **A round of an exchange uses the handle of its session.** -/
theorem uses_deviceRound {h : Handle} {slot : UInt32} {device : Device} {n : Nat}
    (hs : device.session = some ⟨h, n⟩) (input : Bytes) :
    (deviceRound device slot input).Every (Uses h) := by
  refine every_deviceRound device slot input fun s hsession => ?_
  obtain rfl : ⟨h, n⟩ = s := Option.some_inj.1 (hs.symm.trans hsession)
  exact admitsExchanges_uses h

end Exchange

end Offload
