/-
**How the exchange of a job ends.**

An exchange none of whose calls was struck ends with the output that the device computes from the
padded message, or with the error of an output that does not fit; this does not depend on what the
slot held before.  A round that ends without a result has sent nothing.

Main definitions:

* `Exchange.answer` — the outcome of a clean exchange;
* `Exchange.Task.Ends` — how an exchange ends;
* `Exchange.Task.Shows` — the output region holds the answer.

Main results:

* `Exchange.Task.Kept.copied`, `Exchange.Task.Kept.sends` — the message is copied, and sent;
* `Exchange.meets_transfer` — a transfer ends as it should;
* `Exchange.meets_deviceRound` — **so does a round**.
-/

import Mathlib.Algebra.Group.Nat.Defs
import Offload.Proofs.Device.Exchange

set_option autoImplicit false
set_option relaxedAutoImplicit false

namespace Offload.Exchange

open Native Simulator

/-- The outcome of a job whose exchange is clean: what the device computes from its message, unless
it does not fit the region. -/
def answer (compute : UInt32 → Bytes → Bytes) (setup : Setup) (slot : UInt32) (message : Bytes) :
    Outcome Bytes :=
  let output := compute slot message
  if output.length ≤ setup.bufferSize.toNat then .ok output
  else .error (.bufferBounds output.length setup.bufferSize.toNat)

namespace Task

variable (compute : UInt32 → Bytes → Bytes) (k : Task)

/-- How an exchange ends. -/
def Ends (outcome : Outcome Bytes) (v : Look) : Prop :=
  ∃ t, k.Kept v t ∧
    (isClean v.2 = true → outcome = answer compute k.setup k.slot k.message)

/-- How a round ends: with a result, or having sent nothing. -/
def RoundEnds : Option (Outcome Bytes) → Look → Prop
  | none, v => ∃ t, k.Kept v t ∧ hasSent v.2 = false
  | some outcome, v => k.Ends compute outcome v

/-- The output region begins with the answer, provided that the answer fits. -/
def Shows (t : Content) : Prop :=
  (compute k.slot k.message).length ≤ k.setup.bufferSize.toNat →
    t.output.take (compute k.slot k.message).length = compute k.slot k.message

/-- The length of the answer as the driver reports it. -/
def reported : UInt32 := UInt32.ofNat (compute k.slot k.message).length

end Task

variable {compute : UInt32 → Bytes → Bytes} {k : Task} {v : Look} {t : Content}

/-- What holds throughout an exchange holds at its end, when some call has been struck. -/
theorem Task.Kept.ends (hk : k.Kept v t) (hv : isClean v.2 = false) (r : Outcome Bytes) :
    k.Ends compute r v :=
  ⟨t, hk, fun hclean => absurd (hv.symm.trans hclean) Bool.false_ne_true⟩

/-! ### The message -/

theorem Task.length_lt (k : Task) : k.message.length < 2 ^ 32 :=
  Nat.lt_of_le_of_lt k.length_le k.setup.bufferSize.toNat_lt

theorem Task.le_bufferSize (k : Task) {length : UInt32}
    (hlength : length.toNat = k.message.length) : length ≤ k.setup.bufferSize := by
  rw [UInt32.le_iff_toNat_le, hlength]
  exact k.length_le

theorem Task.messageLength_eq (k : Task) :
    messageLength k.message = .ok (UInt32.ofNat k.message.length) := if_pos k.length_lt

/-- What holds throughout an exchange holds after its message was copied into the input region. -/
theorem Task.Kept.copied (hk : k.Kept v t) :
    k.Kept (⟨k.setup, true, some { t with input := Buffer.overwrite k.message t.input }⟩, v.2)
      { t with input := Buffer.overwrite k.message t.input } := by
  have hle : k.message.length ≤ t.input.length := hk.input ▸ k.length_le
  exact ⟨rfl, (Buffer.length_overwrite hle).trans hk.input, hk.output, hk.sent⟩

theorem hasSent_send {acts : List Act} {h : Option Handle} {slot length : UInt32}
    {fault : Option Status} :
    hasSent (acts ++ [⟨.send h slot length, fault, .success⟩]) = true := by
  rw [hasSent_concat]
  simp [Act.isSent]

/-- What holds throughout an exchange holds after its message was sent. -/
theorem Task.Kept.sends (hk : k.Kept v t) (hsent : hasSent v.2 = false) {t' : Content}
    {h : Option Handle} {length : UInt32} {fault : Option Status} (hinput : t'.input = t.input)
    (houtput : t'.output.length = t.output.length) (htaken : t'.sent = t.sent ++ [k.message]) :
    k.Kept (⟨k.setup, true, some t'⟩, v.2 ++ [⟨.send h k.slot length, fault, .success⟩]) t' := by
  refine ⟨rfl, hinput ▸ hk.input, houtput.trans hk.output, ?_⟩
  rw [htaken, hk.sent, if_neg (by simp [hsent]), if_pos hasSent_send, List.append_nil]

/-! ### The steps of a transfer -/

/-- The view of a region: a call that is struck and passes stores no pointer. -/
theorem meets_view {c : Call} {prepared : c.Stored} {ofStored : c.Stored → Outcome View}
    {view : View} {Q : Outcome View → Look → Prop} (hk : k.Kept v t)
    (hhandle : c.handle? = some (some token)) (hc : c.slot? = some k.slot)
    (hne : operation c ≠ .send) (hnone : ∃ e, ofStored prepared = .error e)
    (hview : ∀ stored t', Does compute c t stored t' →
      ofStored (stored.getD prepared) = .ok view ∧ t' = t)
    (herror : ∀ e v', isClean v'.2 = false → k.Kept v' t → Q (.error e) v')
    (hok : ∀ v', hasSent v'.2 = hasSent v.2 → k.Kept v' t → Q (.ok view) v') :
    (request c prepared >>= fun stored => liftM (ofStored stored)).run.Meets
      (opSpec compute k) Q v := by
  rw [meets_action_bind]
  refine meets_quiet hk hhandle hc hne ?_ ?_
  · intro r v' hr hclean _ hk'
    rcases hr with rfl | ⟨e, rfl⟩
    · obtain ⟨e, he⟩ := hnone
      show Q (ofStored prepared) v'
      rw [he]
      exact herror e v' hclean hk'
    · exact herror e v' hclean hk'
  · intro stored t' v' hd _ hsent hk'
    obtain ⟨hstored, rfl⟩ := hview stored t' hd
    show Q (ofStored _) v'
    rw [hstored]
    exact hok v' hsent hk'

theorem meets_inputView {Q : Outcome View → Look → Prop} (hk : k.Kept v t)
    (herror : ∀ e v', isClean v'.2 = false → k.Kept v' t → Q (.error e) v')
    (hok : ∀ v', hasSent v'.2 = hasSent v.2 → k.Kept v' t →
      Q (.ok ⟨⟨.input, k.slot⟩, k.setup.bufferSize.toNat⟩) v') :
    (k.session.inputView k.slot).run.Meets (opSpec compute k) Q v := by
  refine meets_view hk rfl rfl (by simp [operation]) ⟨_, rfl⟩ ?_ herror hok
  rintro _ _ ⟨⟩
  exact ⟨rfl, rfl⟩

theorem meets_outputView {Q : Outcome View → Look → Prop} (hk : k.Kept v t)
    (herror : ∀ e v', isClean v'.2 = false → k.Kept v' t → Q (.error e) v')
    (hok : ∀ v', hasSent v'.2 = hasSent v.2 → k.Kept v' t →
      Q (.ok ⟨⟨.output, k.slot⟩, k.setup.bufferSize.toNat⟩) v') :
    (k.session.outputView k.slot).run.Meets (opSpec compute k) Q v := by
  refine meets_view hk rfl rfl (by simp [operation]) ⟨_, rfl⟩ ?_ herror hok
  rintro _ _ ⟨⟩
  exact ⟨rfl, rfl⟩

theorem meets_copyIn {Q : Outcome Unit → Look → Prop} (hk : k.Kept v t)
    (hQ : ∀ v' input, v'.2 = v.2 → k.Kept v' { t with input } →
      input.take k.message.length = k.message → Q (.ok ()) v') :
    (View.copyIn ⟨⟨.input, k.slot⟩, k.setup.bufferSize.toNat⟩ k.message).run.Meets
      (opSpec compute k) Q v := by
  rw [View.copyIn, Buffer.checkBounds_of_le k.length_le, meets_action_bind]
  show opSpec compute k (.store ⟨.input, k.slot⟩ k.message) (fun _ => Q (.ok ())) v
  exact opSpec_store hk (hQ _ _ rfl hk.copied (by simp [Buffer.overwrite]))

/-- The copy out of the output region, unless it is longer than the region. -/
theorem meets_copyOut {length : Nat} {Q : Outcome Bytes → Look → Prop} (hk : k.Kept v t)
    (hfits : length ≤ k.setup.bufferSize.toNat → Q (.ok (t.output.take length)) v)
    (hlong : k.setup.bufferSize.toNat < length →
      Q (.error (.bufferBounds length k.setup.bufferSize.toNat)) v) :
    (View.copyOut ⟨⟨.output, k.slot⟩, k.setup.bufferSize.toNat⟩ length).run.Meets
      (opSpec compute k) Q v := by
  rw [View.copyOut, meets_action_bind]
  by_cases hle : length ≤ k.setup.bufferSize.toNat
  · rw [Buffer.checkBounds_of_le hle]
    show opSpec compute k (.fetch ⟨.output, k.slot⟩ length) (fun r => Q (.ok r)) v
    exact opSpec_fetch hk (hfits hle)
  · have hlt : k.setup.bufferSize.toNat < length := Nat.lt_of_not_le hle
    rw [Buffer.checkBounds_of_lt hlt]
    exact hlong hlt

/-- The message is sent: unless the call is struck, the slot has taken it and shows the answer. -/
theorem meets_send {length : UInt32} {Q : Outcome Unit → Look → Prop} (hk : k.Kept v t)
    (hsent : hasSent v.2 = false) (hlength : length.toNat = k.message.length)
    (hmessage : t.input.take k.message.length = k.message)
    (herror : ∀ e v', isClean v'.2 = false → k.Kept v' t → Q (.error e) v')
    (hok : ∀ v' t', k.Kept v' t' →
      (isClean v'.2 = true → t'.pending = some (k.reported compute) ∧ k.Shows compute t') →
      Q (.ok ()) v') :
    (k.session.send k.slot length).run.Meets (opSpec compute k) Q v := by
  refine meets_request hk rfl rfl ?_ ?_ ?_
  · rintro _ _ _ ⟨⟩
    exact k.le_bufferSize hlength
  · intro r v' hr hclean _ hk'
    rcases hr with rfl | ⟨e, rfl⟩
    · exact hok v' t hk' fun h => absurd (hclean.symm.trans h) Bool.false_ne_true
    · exact herror e v' hclean hk'
  · intro fault stored t' hf hd
    cases hd with
    | send _ _ _ _ output ho =>
        rw [hlength, hmessage] at ho ⊢
        subst ho
        have hcut : ((compute k.slot k.message).take t.output.length).length ≤ t.output.length :=
          List.length_take_le _ _
        refine hok _ _ (hk.sends hsent rfl (Buffer.length_overwrite hcut) rfl) fun _ =>
          ⟨rfl, fun hfits => ?_⟩
        have hall : (compute k.slot k.message).take t.output.length =
            compute k.slot k.message := List.take_of_length_le (hk.output ▸ hfits)
        show (Buffer.overwrite _ _).take _ = _
        rw [hall]
        simp [Buffer.overwrite]

theorem meets_waitOutput {Q : Outcome UInt32 → Look → Prop} (hk : k.Kept v t)
    (hv : isClean v.2 = true → t.pending = some (k.reported compute) ∧ k.Shows compute t)
    (herror : ∀ e v', isClean v'.2 = false → k.Kept v' t → Q (.error e) v')
    (hok : ∀ received v' t', k.Kept v' t' →
      (isClean v'.2 = true → received = k.reported compute ∧ k.Shows compute t') →
      Q (.ok received) v') :
    (k.session.waitOutput k.slot).run.Meets (opSpec compute k) Q v := by
  refine meets_quiet hk rfl rfl (by simp [operation]) ?_ ?_
  · intro r v' hr hclean _ hk'
    rcases hr with rfl | ⟨e, rfl⟩
    · exact hok _ v' t hk' fun h => absurd (hclean.symm.trans h) Bool.false_ne_true
    · exact herror e v' hclean hk'
  · intro stored t' v' hd hclean _ hk'
    cases hd
    refine hok _ v' _ hk' fun h => ?_
    obtain ⟨hpending, hshows⟩ := hv (hclean ▸ h)
    exact ⟨by simp [hpending], hshows⟩

theorem meets_answer {received : UInt32} {Q : Outcome Bytes → Look → Prop}
    (hcompute : (compute k.slot k.message).length < 2 ^ 32) (hk : k.Kept v t)
    (hv : isClean v.2 = true → received = k.reported compute ∧ k.Shows compute t)
    (hQ : ∀ r, (isClean v.2 = true → r = answer compute k.setup k.slot k.message) → Q r v) :
    (View.copyOut ⟨⟨.output, k.slot⟩, k.setup.bufferSize.toNat⟩ received.toNat).run.Meets
      (opSpec compute k) Q v := by
  have hreported : (k.reported compute).toNat = (compute k.slot k.message).length :=
    UInt32.toNat_ofNat_of_lt' hcompute
  refine meets_copyOut hk (fun hfits => hQ _ fun hclean => ?_) fun hlong => hQ _ fun hclean => ?_
  · obtain ⟨rfl, hshows⟩ := hv hclean
    rw [hreported] at hfits ⊢
    rw [hshows hfits, answer, if_pos hfits]
  · obtain ⟨rfl, -⟩ := hv hclean
    rw [hreported] at hlong ⊢
    rw [answer, if_neg (Nat.not_le_of_lt hlong)]

theorem meets_discard {Q : Outcome Unit → Look → Prop} (hk : k.Kept v t)
    (hQ : ∀ r v' t', k.Kept v' t' → (isClean v'.2 = true → isClean v.2 = true ∧ r = .ok ()) →
      Q r v') :
    (k.session.discard k.slot).run.Meets (opSpec compute k) Q v := by
  refine meets_quiet hk rfl rfl (by simp [operation]) ?_ ?_
  · intro r v' _ hclean _ hk'
    exact hQ r v' t hk' fun h => absurd (hclean.symm.trans h) Bool.false_ne_true
  · intro stored t' v' _ hclean _ hk'
    exact hQ _ v' t' hk' fun h => ⟨hclean ▸ h, rfl⟩

/-! ### Whole exchanges -/

theorem meets_liftOutcome {α : Type} {r : Outcome α} {Q : Outcome α → Look → Prop} :
    (liftM r : Action α).run.Meets (opSpec compute k) Q v ↔ Q r v := Iff.rfl

/-- A log line changes nothing that a job looks at. -/
theorem meets_logLine {level : Log.Level} {text : String} {Q : Outcome Unit → Look → Prop}
    (hk : k.Kept v t) (hQ : Q (.ok ()) v) :
    (liftM (logLine level text) : Action Unit).run.Meets (opSpec compute k) Q v :=
  opSpec_log hk hQ

/-- **A transfer ends as it should.** -/
theorem meets_transfer {input : Bytes}
    (hcompute : (compute k.slot k.message).length < 2 ^ 32) (hinput : Padding.pad input = k.message)
    (hk : k.Kept v t) (hsent : hasSent v.2 = false) :
    (transfer k.session k.slot input).run.Meets (opSpec compute k) (k.Ends compute) v := by
  simp only [transfer, hinput, k.messageLength_eq, meets_action_bind, meets_liftOutcome, either_ok]
  -- the two views, and the message in the input region
  refine meets_inputView hk (fun e v₁ hv₁ hk₁ => hk₁.ends hv₁ _) fun v₁ hsent₁ hk₁ => ?_
  refine meets_outputView hk₁ (fun e v₂ hv₂ hk₂ => hk₂.ends hv₂ _) fun v₂ hsent₂ hk₂ => ?_
  refine meets_copyIn hk₂ fun v₃ input₃ heq hk₃ hmessage => ?_
  have hsent₃ : hasSent v₃.2 = false := by rw [heq, hsent₂, hsent₁, hsent]
  refine meets_send hk₃ hsent₃ (UInt32.toNat_ofNat_of_lt' k.length_lt) hmessage
    (fun e v₄ hv₄ hk₄ => hk₄.ends hv₄ _) fun v₄ t₄ hk₄ hv₄ => ?_
  -- the answer, which may be missing when a call has been struck
  refine meets_logLine hk₄ ?_
  refine meets_waitOutput hk₄ hv₄ (fun e v₅ hv₅ hk₅ => hk₅.ends hv₅ _)
    fun received v₅ t₅ hk₅ hv₅ => ?_
  simp only [either_ok, meets_outcome]
  refine meets_answer hcompute hk₅ hv₅ fun response hresponse => ?_
  refine meets_discard hk₅ fun discarded v₆ t₆ hk₆ hv₆ => ?_
  have hanswer : isClean v₆.2 = true → response = answer compute k.setup k.slot k.message :=
    fun hclean => hresponse (hv₆ hclean).1
  cases response with
  | error e => exact ⟨t₆, hk₆, hanswer⟩
  | ok bytes =>
      cases discarded with
      | error e =>
          refine hk₆.ends (Bool.eq_false_iff.2 fun hclean => ?_) _
          cases (hv₆ hclean).2
      | ok => exact meets_logLine hk₆ ⟨t₆, hk₆, hanswer⟩

/-- **A round on the device ends as it should.** -/
theorem meets_deviceRound {device : Device} {input : Bytes}
    (hcompute : (compute k.slot k.message).length < 2 ^ 32) (hinput : Padding.pad input = k.message)
    (hsession : device.session = some k.session) (hk : k.Kept v t) (hsent : hasSent v.2 = false) :
    (deviceRound device k.slot input).Meets (opSpec compute k) (k.RoundEnds compute) v := by
  have hgo {v' : Look} {t' : Content} (hk' : k.Kept v' t') (hsent' : hasSent v'.2 = false) :
      ((transfer k.session k.slot input).run >>= fun r => pure (some r)).Meets (opSpec compute k)
        (k.RoundEnds compute) v' :=
    (Program.meets_bind _ _).2 (meets_transfer hcompute hinput hk' hsent')
  simp only [deviceRound, hsession]
  rw [round, Program.meets_bind]
  refine meets_quiet hk rfl rfl (by simp [operation]) ?_ ?_
  · intro r v' hr hclean hsame hk'
    rcases hr with rfl | ⟨e, rfl⟩
    · exact hgo hk' (hsame.trans hsent)
    · exact hk'.ends hclean _
  · intro stored t' v' hd _ hsame hk'
    cases hd with
    | inputFull _ _ _ full =>
        cases full with
        | false => exact hgo hk' (hsame.trans hsent)
        | true => exact ⟨t, hk', hsame.trans hsent⟩

end Offload.Exchange
