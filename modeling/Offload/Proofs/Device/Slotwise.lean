/-
**An exchange keeps to its slot.**

Whatever the simulated device answers, every operation of an exchange is about the slot of its job,
and no exchange on an open device ends with the error of a closed one.  Nothing is assumed about what
the slot holds or about what the device computes.

Main definitions:

* `Exchange.slotSpec` — operations about one slot, which the simulated device answers;
* `Exchange.IsOpenEnd` — the ends of rounds other than the error of a closed device.

Main results:

* `Exchange.slotwise_deviceRound` — **a round keeps to its slot**;
* `Exchange.slotwise_continues` — so does an exchange, step by step.
-/

import Offload.Proofs.Device.Exchange

set_option autoImplicit false
set_option relaxedAutoImplicit false

namespace Offload.Exchange

open Native Simulator

/-- Operations about one slot, with the answers that the simulated device can give. -/
def slotSpec (compute : UInt32 → Bytes → Bytes) (slot : UInt32) : OpSpec Unit := fun o Q v =>
  IsAbout slot o ∧ ∀ (late : Bool) (w : World Simulator), Q (answered (driver compute) late o w).1 v

/-- The errors of an open device. -/
def IsOpenError (e : Error) : Prop := e ≠ .closed

/-- The ends of rounds other than the error of a closed device. -/
def IsOpenEnd (r : Option (Outcome Bytes)) : Prop := r ≠ some (.error .closed)

section

variable {compute : UInt32 → Bytes → Bytes} {slot : UInt32} {α : Type}

/-! ### Judged calls -/

theorem slotwise_check {status : Status} {Q : Outcome Unit → Unit → Prop} (hok : Q (.ok ()) ())
    (herror : ∀ e, IsOpenError e → Q (.error e) ()) :
    (check status).run.Meets (slotSpec compute slot) Q () := by
  by_cases hs : status.isBenign = true
  · rw [check_of_isBenign hs]
    exact hok
  · rw [check, if_neg hs]
    have hend {code : UInt32} {text : String} :
        Q (.error (.deviceOperation status code text)) () := herror _ (by simp [IsOpenError])
    exact ⟨trivial, fun _ _ => ⟨trivial, fun _ _ => ⟨trivial, fun _ _ => hend⟩⟩⟩

theorem slotwise_request {c : Call} {prepared : c.Stored} {Q : Outcome c.Stored → Unit → Prop}
    (hhandle : c.handle? = some (some token)) (hc : c.slot? = some slot)
    (hok : ∀ late s, Q (.ok ((reply compute late c s).1.stored.getD prepared)) ())
    (herror : ∀ e, IsOpenError e → Q (.error e) ()) :
    (request c prepared).run.Meets (slotSpec compute slot) Q () := by
  rw [meets_request_iff]
  refine ⟨⟨hhandle, hc⟩, ?_⟩
  intro late w
  rw [(answered_call compute late c w).1]
  exact slotwise_check (hok late w.driver) herror

theorem slotwise_perform {o : Op} {Q : o.Answer → Unit → Prop} (ho : IsAbout slot o)
    (hQ : ∀ x, Q x ()) : (perform o).Meets (slotSpec compute slot) Q () :=
  ⟨ho, fun _ _ => hQ _⟩

theorem slotwise_logLine {level : Log.Level} {text : String} {Q : Outcome Unit → Unit → Prop}
    (hQ : Q (.ok ()) ()) :
    (liftM (logLine level text) : Action Unit).run.Meets (slotSpec compute slot) Q () :=
  ⟨trivial, fun _ _ => hQ⟩

theorem slotwise_liftOutcome {r : Outcome α} {Q : Outcome α → Unit → Prop} :
    (liftM r : Action α).run.Meets (slotSpec compute slot) Q () ↔ Q r () := Iff.rfl

/-! ### Views and copies -/

/-- A pointer call stores the region of its own slot, or nothing. -/
theorem stored_proceed {c : Call} {entered : Status × Simulator}
    {go : Simulator → Reply c × Simulator} {x : c.Stored}
    (hgo : ∀ s, (go s).1.stored = some x) :
    (proceed entered go).1.stored = some x ∨ (proceed entered go).1.stored = none := by
  unfold proceed
  split
  · exact Or.inl (hgo _)
  · exact Or.inr rfl

theorem slotwise_view {c : Call} (stored : c.Stored) {prepared : c.Stored}
    {ofStored : c.Stored → Outcome View} {view : View} {Q : Outcome View → Unit → Prop}
    (hhandle : c.handle? = some (some token)) (hc : c.slot? = some slot)
    (hstored : ∀ late s, (reply compute late c s).1.stored = some stored ∨
      (reply compute late c s).1.stored = none)
    (hview : ofStored stored = .ok view)
    (hnone : ∃ e, ofStored prepared = .error e ∧ IsOpenError e) (hok : Q (.ok view) ())
    (herror : ∀ e, IsOpenError e → Q (.error e) ()) :
    (request c prepared >>= fun stored => liftM (ofStored stored)).run.Meets
      (slotSpec compute slot) Q () := by
  rw [meets_action_bind]
  refine slotwise_request hhandle hc ?_ herror
  intro late s
  show Q (ofStored _) ()
  rcases hstored late s with h | h
  · rw [h, Option.getD_some, hview]
    exact hok
  · obtain ⟨e, he, hclosed⟩ := hnone
    rw [h, Option.getD_none, he]
    exact herror e hclosed

theorem isOpenError_ofPointer_none (n : Nat) :
    ∃ e, View.ofPointer none n = .error e ∧ IsOpenError e := ⟨_, rfl, by simp [IsOpenError]⟩

theorem slotwise_inputView (n : Nat) {Q : Outcome View → Unit → Prop}
    (hok : Q (.ok ⟨⟨.input, slot⟩, n⟩) ()) (herror : ∀ e, IsOpenError e → Q (.error e) ()) :
    (Session.inputView ⟨token, n⟩ slot).run.Meets (slotSpec compute slot) Q () := by
  refine slotwise_view (some ⟨.input, slot⟩) rfl rfl (fun late s => ?_) rfl
    (isOpenError_ofPointer_none n) hok herror
  rw [reply_of_ne compute late (by simp [operation])]
  exact stored_proceed fun _ => rfl

theorem slotwise_outputView (n : Nat) {Q : Outcome View → Unit → Prop}
    (hok : Q (.ok ⟨⟨.output, slot⟩, n⟩) ()) (herror : ∀ e, IsOpenError e → Q (.error e) ()) :
    (Session.outputView ⟨token, n⟩ slot).run.Meets (slotSpec compute slot) Q () := by
  refine slotwise_view (some ⟨.output, slot⟩) rfl rfl (fun late s => ?_) rfl
    (isOpenError_ofPointer_none n) hok herror
  rw [reply_of_ne compute late (by simp [operation])]
  exact stored_proceed fun _ => rfl

theorem slotwise_copy {o : Op} {length capacity : Nat} {Q : Outcome o.Answer → Unit → Prop}
    (ho : IsAbout slot o) (hok : ∀ x, Q (.ok x) ()) (herror : ∀ e, IsOpenError e → Q (.error e) ()) :
    (liftM (Buffer.checkBounds length capacity) >>= fun _ => liftM (perform o) :
      Action o.Answer).run.Meets (slotSpec compute slot) Q () := by
  rw [meets_action_bind]
  by_cases hle : length ≤ capacity
  · rw [Buffer.checkBounds_of_le hle]
    exact slotwise_perform ho hok
  · rw [Buffer.checkBounds_of_lt (Nat.lt_of_not_le hle)]
    exact herror _ (by simp [IsOpenError])

/-! ### Whole rounds -/

theorem slotwise_transfer (n : Nat) (input : Bytes) {Q : Outcome Bytes → Unit → Prop}
    (hok : ∀ bytes, Q (.ok bytes) ()) (herror : ∀ e, IsOpenError e → Q (.error e) ()) :
    (transfer ⟨token, n⟩ slot input).run.Meets (slotSpec compute slot) Q () := by
  simp only [transfer, meets_action_bind, slotwise_liftOutcome]
  cases hlength : messageLength (Padding.pad input) with
  | error e =>
      refine herror e ?_
      rintro rfl
      unfold messageLength at hlength
      split at hlength <;> cases hlength
  | ok length =>
      refine slotwise_inputView n ?_ herror
      refine slotwise_outputView n ?_ herror
      refine slotwise_copy (o := .store ⟨.input, slot⟩ (Padding.pad input)) rfl (fun _ => ?_) herror
      refine slotwise_request rfl rfl (fun _ _ => ?_) herror
      refine slotwise_logLine ?_
      refine slotwise_request rfl rfl (fun late s => ?_) herror
      simp only [either_ok, meets_outcome]
      -- whatever the copy out comes to, the output region is given back, and the copy is judged then
      refine slotwise_copy (o := .fetch ⟨.output, slot⟩ _) rfl (fun bytes => ?_) fun e he => ?_
      · refine slotwise_request rfl rfl (fun _ _ => ?_) fun e he => ?_
        · exact slotwise_logLine (hok bytes)
        · exact herror e he
      · exact slotwise_request rfl rfl (fun _ _ => herror e he) fun _ _ => herror e he

/-- **A round on an open device keeps to its slot**, and does not end as on a closed one. -/
theorem slotwise_deviceRound {device : Device} {n : Nat} (hs : device.session = some ⟨token, n⟩)
    (input : Bytes) :
    (deviceRound device slot input).Meets (slotSpec compute slot) (fun r _ => IsOpenEnd r) () := by
  have hgo : ((transfer ⟨token, n⟩ slot input).run >>= fun r => pure (some r)).Meets
      (slotSpec compute slot) (fun r _ => IsOpenEnd r) () := by
    refine (Program.meets_bind _ _).2 (slotwise_transfer n input (fun bytes => ?_) fun e he => ?_)
    · exact fun h => by cases h
    · exact fun h => he (by simpa using h)
  simp only [deviceRound, hs]
  rw [round, Program.meets_bind]
  refine slotwise_request (c := .inputFull (some token) slot) rfl rfl (fun late s => ?_)
    fun e he => ?_
  · generalize (reply compute late (.inputFull (some token) slot) s).1.stored.getD false = full
    cases full with
    | false => exact hgo
    | true => exact fun h => by cases h
  · exact fun h => he (by simpa using h)

/-- An exchange on an open device goes on keeping to its slot. -/
theorem slotwise_continues {i n : Nat} {run run' : Run} {site site' : Site Simulator}
    (hs : site.device.session = some ⟨token, n⟩)
    (hmeets : run.rest.Meets (slotSpec compute (UInt32.ofNat i)) (fun r _ => IsOpenEnd r) ())
    (hstep : step (driver compute) i run site = .continues run' site') :
    run'.rest.Meets (slotSpec compute (UInt32.ofNat i)) (fun r _ => IsOpenEnd r) () := by
  cases stepped_of_step hstep with
  | again => exact slotwise_deviceRound hs _
  | answer o next hrest =>
      rw [hrest] at hmeets
      exact hmeets.2 _ _
  | enter => exact hmeets

end

end Offload.Exchange
