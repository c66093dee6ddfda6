/-
**Where the bytes of an answer come from.**

An exchange goes on when a call of it has timed out, although the call did nothing.  What it ends
with is then not always the answer to its own message: it may be nothing at all, or what an earlier
exchange has left in the slot.  Nothing is assumed here about what the device computes; an answer of
more than four gigabytes is reported with its length cut to 32 bits, and cut accordingly.

Main definitions:

* `Exchange.hasWaited`, `Exchange.hasMissed`, `Exchange.hasTimedOut` — more that is read off the
  calls of a job;
* `Exchange.deliverable` — an answer as the driver reports it;
* `Exchange.Task.Left` — what an exchange has left in its slot so far, and what it has found there;
* `Exchange.Task.Explains` — **where the bytes of an answer come from**.

Main results:

* `Exchange.Task.Left.take_output` — the output region shows the answer;
* `Exchange.leaves_transfer`, `Exchange.leaves_deviceRound` — **every answer is explained**.
-/

import Offload.Proofs.Device.Transfer

set_option autoImplicit false
set_option relaxedAutoImplicit false

namespace Offload.Exchange

open Native Simulator

/-! ### What is read off the calls of a job -/

/-- The call was one to wait for output, and it succeeded. -/
def Act.isWaited (a : Act) : Bool :=
  match a.call with
  | .wait _ _ => a.status = .success
  | _ => false

/-- The call was one to send a message, and it timed out: nothing was sent, and the job went on. -/
def Act.isMissed (a : Act) : Bool :=
  match a.call with
  | .send _ _ _ => a.status = .waitTimeout
  | _ => false

/-- A call to wait for output has succeeded. -/
def hasWaited (acts : List Act) : Bool := acts.any Act.isWaited

/-- A call to send a message has timed out. -/
def hasMissed (acts : List Act) : Bool := acts.any Act.isMissed

/-- Some call has timed out. -/
def hasTimedOut (acts : List Act) : Bool := acts.any fun a => a.status = .waitTimeout

@[simp] theorem hasWaited_concat (acts : List Act) (a : Act) :
    hasWaited (acts ++ [a]) = (hasWaited acts || a.isWaited) := by
  simp [hasWaited]

@[simp] theorem hasMissed_concat (acts : List Act) (a : Act) :
    hasMissed (acts ++ [a]) = (hasMissed acts || a.isMissed) := by
  simp [hasMissed]

@[simp] theorem hasTimedOut_concat (acts : List Act) (a : Act) :
    hasTimedOut (acts ++ [a]) = (hasTimedOut acts || decide (a.status = .waitTimeout)) := by
  simp [hasTimedOut]

theorem hasTimedOut_of_hasMissed {acts : List Act} (h : hasMissed acts = true) :
    hasTimedOut acts = true := by
  obtain ⟨a, ha, hmissed⟩ := List.any_eq_true.1 h
  refine List.any_eq_true.2 ⟨a, ha, ?_⟩
  obtain ⟨c, fault, status⟩ := a
  cases c with
  | send => exact hmissed
  | _ => cases hmissed

/-- A call that is struck receives nothing. -/
theorem hasWaited_struck {acts : List Act} {c : Call} {status : Status} (hs : status ≠ .success) :
    hasWaited (acts ++ [⟨c, some status, status⟩]) = hasWaited acts := by
  have hwaited : (⟨c, some status, status⟩ : Act).isWaited = false := by
    cases c with
    | wait => simp [Act.isWaited, hs]
    | _ => rfl
  rw [hasWaited_concat, hwaited, Bool.or_false]

theorem hasWaited_of_ne {acts : List Act} {a : Act} (ha : operation a.call ≠ .wait) :
    hasWaited (acts ++ [a]) = hasWaited acts := by
  have hwaited : a.isWaited = false := by
    obtain ⟨c, fault, status⟩ := a
    cases c with
    | wait => exact absurd rfl ha
    | _ => rfl
  rw [hasWaited_concat, hwaited, Bool.or_false]

/-- Calls that say no more than others about what was sent and received, and no less about what has
timed out. -/
structure SaysNoMore (acts acts' : List Act) : Prop where
  sent : hasSent acts' = hasSent acts
  waited : hasWaited acts' = hasWaited acts
  missed : hasMissed acts = true → hasMissed acts' = true
  timedOut : hasTimedOut acts = true → hasTimedOut acts' = true

theorem saysNoMore_concat {acts : List Act} {a : Act}
    (hsent : hasSent (acts ++ [a]) = hasSent acts)
    (hwaited : hasWaited (acts ++ [a]) = hasWaited acts) : SaysNoMore acts (acts ++ [a]) :=
  ⟨hsent, hwaited, fun h => by simp [h], fun h => by simp [h]⟩

/-! ### What is left in the slot -/

/-- What the device computes from a message, as the driver reports it: with a length of 32 bits. -/
def deliverable (compute : UInt32 → Bytes → Bytes) (slot : UInt32) (message : Bytes) : Bytes :=
  (compute slot message).take (UInt32.ofNat (compute slot message).length).toNat

namespace Task

variable (compute : UInt32 → Bytes → Bytes) (k : Task)

/-- What an exchange that found `t₀` in its slot has left there: its answer is in the output region
once its message is sent, and pending until it has waited for it. -/
structure Left (t₀ : Content) (v : Look) (t : Content) : Prop where
  kept : k.Kept v t
  output : t.output = if hasSent v.2 = true then
    Buffer.overwrite ((compute k.slot k.message).take t₀.output.length) t₀.output else t₀.output
  pending : t.pending = if hasWaited v.2 = true then none
    else if hasSent v.2 = true then some (k.reported compute) else t₀.pending

/-- Where the bytes of an answer come from: the message was sent, and they are the answer to it; or
there are none, since some call has timed out; or the message was not sent, since sending it has
timed out, and they are what was found in the slot. -/
inductive Explains (t₀ : Content) (acts : List Act) (bytes : Bytes) : Prop
  | own (hsent : hasSent acts = true) (h : bytes = deliverable compute k.slot k.message)
  | nothing (h : bytes = []) (htimedOut : hasTimedOut acts = true)
  | found (hmissed : hasMissed acts = true) (hsent : hasSent acts = false) (length : UInt32)
      (hpending : t₀.pending = some length) (hle : length.toNat ≤ k.setup.bufferSize.toNat)
      (h : bytes = t₀.output.take length.toNat)

/-- How a round of an exchange that found `t₀` in its slot ends: with an answer that is explained, or
without a result, and then the slot is as it was found. -/
def Leaves (t₀ : Content) : Option (Outcome Bytes) → Look → Prop
  | none, v => k.Left compute t₀ v t₀ ∧ hasSent v.2 = false ∧ hasWaited v.2 = false
  | some outcome, v => ∃ t, k.Left compute t₀ v t ∧
      ∀ bytes, outcome = .ok bytes → k.Explains compute t₀ v.2 bytes

end Task

section

variable {compute : UInt32 → Bytes → Bytes} {k : Task} {v v' : Look} {t₀ t t' : Content}

theorem Task.Explains.later {acts acts' : List Act} {bytes : Bytes}
    (h : k.Explains compute t₀ acts bytes) (hacts : SaysNoMore acts acts') :
    k.Explains compute t₀ acts' bytes := by
  cases h with
  | own hsent h => exact .own (hacts.sent.trans hsent) h
  | nothing h htimedOut => exact .nothing h (hacts.timedOut htimedOut)
  | found hmissed hsent length hpending hle h =>
      exact .found (hacts.missed hmissed) (hacts.sent.trans hsent) length hpending hle h

namespace Task.Left

/-- An exchange that ends with an error explains no answer. -/
theorem error (hl : k.Left compute t₀ v t) (e : Error) : k.Leaves compute t₀ (some (.error e)) v :=
  ⟨t, hl, by rintro _ ⟨⟩⟩

theorem later (hl : k.Left compute t₀ v t) (hkept : k.Kept v' t) (hacts : SaysNoMore v.2 v'.2) :
    k.Left compute t₀ v' t :=
  ⟨hkept, by rw [hacts.sent, hl.output], by rw [hacts.waited, hacts.sent, hl.pending]⟩

theorem struck (hl : k.Left compute t₀ v t) {c : Call} {status : Status} (hs : status ≠ .success) :
    k.Left compute t₀ (v.1, v.2 ++ [⟨c, some status, status⟩]) t :=
  hl.later (hl.kept.struck hs) (saysNoMore_concat (hasSent_struck hs) (hasWaited_struck hs))

/-- Once the message is sent the output region shows the answer. -/
theorem take_output (hl : k.Left compute t₀ v t) (hsent : hasSent v.2 = true)
    (hle : (k.reported compute).toNat ≤ k.setup.bufferSize.toNat) :
    t.output.take (k.reported compute).toNat = deliverable compute k.slot k.message := by
  have hcut : ((compute k.slot k.message).take t₀.output.length).length ≤ t₀.output.length :=
    List.length_take_le _ _
  have houtput := hl.output
  rw [if_pos hsent] at houtput
  have hsize : t₀.output.length = k.setup.bufferSize.toNat := by
    rw [← hl.kept.output, houtput, Buffer.length_overwrite hcut]
  -- the reported length is at most that of the answer, and at most that of the region
  have hreported : (k.reported compute).toNat ≤ (compute k.slot k.message).length := by
    rw [reported, UInt32.toNat_ofNat']
    exact Nat.mod_le _ _
  rw [houtput, Buffer.overwrite, hsize, deliverable, List.take_append_of_le_length, List.take_take,
    Nat.min_eq_left hle]
  · rfl
  · rw [List.length_take]
    exact Nat.le_min.2 ⟨hle, hreported⟩

end Task.Left

/-! ### Calls that neither send nor wait -/

/-- A call that neither sends nor waits changes nothing that the slot holds. -/
theorem Does.eq_of_quiet {c : Call} {stored : Option c.Stored} (hd : Does compute c t stored t')
    (hsend : operation c ≠ .send) (hwait : operation c ≠ .wait) : t' = t := by
  cases hd with
  | send => exact absurd rfl hsend
  | wait => exact absurd rfl hwait
  | _ => rfl

theorem leaves_quiet {c : Call} {prepared : c.Stored} {Q : Outcome c.Stored → Look → Prop}
    (hl : k.Left compute t₀ v t) (hhandle : c.handle? = some (some token))
    (hc : c.slot? = some k.slot) (hsend : operation c ≠ .send) (hwait : operation c ≠ .wait)
    (hok : ∀ stored v', stored = none ∨ Does compute c t stored t → SaysNoMore v.2 v'.2 →
      k.Left compute t₀ v' t → Q (.ok (stored.getD prepared)) v')
    (herror : ∀ e v', SaysNoMore v.2 v'.2 → k.Left compute t₀ v' t → Q (.error e) v') :
    (request c prepared).run.Meets (opSpec compute k) Q v := by
  have hacts (fault : Option Status) (status : Status) :
      SaysNoMore v.2 (v.2 ++ [⟨c, fault, status⟩]) :=
    saysNoMore_concat (hasSent_of_ne hsend) (hasWaited_of_ne hwait)
  refine meets_judged hl.kept hhandle hc (fun h i length heq => absurd (heq ▸ rfl) hsend) ?_ ?_ ?_
  · exact hok none _ (Or.inl rfl) (hacts _ _) (hl.struck (by decide))
  · intro status e hs
    exact herror e _ (hacts _ _) (hl.struck hs)
  · intro fault stored t' hf hd
    obtain rfl := Does.eq_of_quiet hd hsend hwait
    refine hok stored _ (Or.inr hd) (hacts _ _) (hl.later ⟨rfl, hl.kept.input, hl.kept.output, ?_⟩
      (hacts _ _))
    rw [hl.kept.sent, (hacts fault .success).sent]

theorem leaves_view {c : Call} {prepared : c.Stored} {ofStored : c.Stored → Outcome View}
    {view : View} {Q : Outcome View → Look → Prop} (hl : k.Left compute t₀ v t)
    (hhandle : c.handle? = some (some token)) (hc : c.slot? = some k.slot)
    (hsend : operation c ≠ .send) (hwait : operation c ≠ .wait)
    (hnone : ∃ e, ofStored prepared = .error e)
    (hview : ∀ stored, Does compute c t stored t → ofStored (stored.getD prepared) = .ok view)
    (hok : ∀ v', SaysNoMore v.2 v'.2 → k.Left compute t₀ v' t → Q (.ok view) v')
    (herror : ∀ e v', k.Left compute t₀ v' t → Q (.error e) v') :
    (request c prepared >>= fun stored => liftM (ofStored stored)).run.Meets
      (opSpec compute k) Q v := by
  rw [meets_action_bind]
  refine leaves_quiet hl hhandle hc hsend hwait ?_ fun e v' _ hl' => herror e v' hl'
  intro stored v' hstored hacts hl'
  show Q (ofStored _) v'
  rcases hstored with rfl | hd
  · obtain ⟨e, he⟩ := hnone
    rw [Option.getD_none, he]
    exact herror e v' hl'
  · rw [hview stored hd]
    exact hok v' hacts hl'

theorem leaves_inputView {Q : Outcome View → Look → Prop} (hl : k.Left compute t₀ v t)
    (hok : ∀ v', SaysNoMore v.2 v'.2 → k.Left compute t₀ v' t →
      Q (.ok ⟨⟨.input, k.slot⟩, k.setup.bufferSize.toNat⟩) v')
    (herror : ∀ e v', k.Left compute t₀ v' t → Q (.error e) v') :
    (k.session.inputView k.slot).run.Meets (opSpec compute k) Q v := by
  refine leaves_view hl rfl rfl (by simp [operation]) (by simp [operation]) ⟨_, rfl⟩ ?_ hok herror
  rintro _ ⟨⟩
  rfl

theorem leaves_outputView {Q : Outcome View → Look → Prop} (hl : k.Left compute t₀ v t)
    (hok : ∀ v', SaysNoMore v.2 v'.2 → k.Left compute t₀ v' t →
      Q (.ok ⟨⟨.output, k.slot⟩, k.setup.bufferSize.toNat⟩) v')
    (herror : ∀ e v', k.Left compute t₀ v' t → Q (.error e) v') :
    (k.session.outputView k.slot).run.Meets (opSpec compute k) Q v := by
  refine leaves_view hl rfl rfl (by simp [operation]) (by simp [operation]) ⟨_, rfl⟩ ?_ hok herror
  rintro _ ⟨⟩
  rfl

/-! ### Sending, waiting and giving back -/

/-- The message is sent, or sending it has timed out, or the exchange ends. -/
theorem leaves_send {length : UInt32} {Q : Outcome Unit → Look → Prop}
    (hl : k.Left compute t₀ v t) (hsent : hasSent v.2 = false) (hwaited : hasWaited v.2 = false)
    (hlength : length.toNat = k.message.length)
    (hmessage : t.input.take k.message.length = k.message)
    (hok : ∀ v' t', k.Left compute t₀ v' t' → hasWaited v'.2 = false →
      hasSent v'.2 = true ∨ hasMissed v'.2 = true → Q (.ok ()) v')
    (herror : ∀ e v', k.Left compute t₀ v' t → Q (.error e) v') :
    (k.session.send k.slot length).run.Meets (opSpec compute k) Q v := by
  refine meets_judged hl.kept rfl rfl ?_ ?_ ?_ ?_
  · rintro _ _ _ ⟨⟩
    exact k.le_bufferSize hlength
  · have hmissed : hasMissed (v.2 ++ [⟨.send (some k.session.handle) k.slot length,
        some .waitTimeout, .waitTimeout⟩]) = true := by
      rw [hasMissed_concat]
      simp [Act.isMissed]
    refine hok _ t (hl.struck (by decide)) ?_ (Or.inr hmissed)
    rw [hasWaited_struck (by decide), hwaited]
  · intro status e hs
    exact herror e _ (hl.struck hs)
  · intro fault stored t' hf hd
    have hnot : hasWaited (v.2 ++
        [⟨.send (some k.session.handle) k.slot length, fault, .success⟩]) = false := by
      rw [hasWaited_of_ne (by simp [operation]), hwaited]
    have houtput := hl.output
    rw [if_neg (by simp [hsent])] at houtput
    cases hd with
    | send _ _ _ _ output ho =>
        rw [hlength, hmessage] at ho ⊢
        subst ho
        have hcut : ((compute k.slot k.message).take t.output.length).length ≤ t.output.length :=
          List.length_take_le _ _
        refine hok _ _ ⟨hl.kept.sends hsent rfl (Buffer.length_overwrite hcut) rfl, ?_, ?_⟩ hnot
          (Or.inl hasSent_send)
        · rw [if_pos hasSent_send, houtput]
        · rw [if_neg (by simp [hnot]), if_pos hasSent_send]
          rfl

/-- What is received is explained: after a wait that has timed out it is nothing, and otherwise what
was pending. -/
theorem leaves_waitOutput {Q : Outcome UInt32 → Look → Prop} (hl : k.Left compute t₀ v t)
    (hwaited : hasWaited v.2 = false) (hsent : hasSent v.2 = true ∨ hasMissed v.2 = true)
    (hok : ∀ received v' t', k.Left compute t₀ v' t' →
      (received.toNat ≤ k.setup.bufferSize.toNat →
        k.Explains compute t₀ v'.2 (t'.output.take received.toNat)) → Q (.ok received) v')
    (herror : ∀ e v', k.Left compute t₀ v' t → Q (.error e) v') :
    (k.session.waitOutput k.slot).run.Meets (opSpec compute k) Q v := by
  refine meets_judged hl.kept rfl rfl (by rintro _ _ _ ⟨⟩) ?_ ?_ ?_
  · refine hok 0 _ t (hl.struck (by decide)) fun _ => .nothing (by simp) ?_
    rw [hasTimedOut_concat]
    simp
  · intro status e hs
    exact herror e _ (hl.struck hs)
  · intro fault stored t' hf hd
    cases hd
    have hsame : hasSent (v.2 ++ [⟨.wait (some k.session.handle) k.slot, fault, .success⟩]) =
        hasSent v.2 := hasSent_of_ne (by simp [operation])
    have hnow : hasWaited (v.2 ++ [⟨.wait (some k.session.handle) k.slot, fault, .success⟩]) =
        true := by
      rw [hasWaited_concat]
      simp [Act.isWaited]
    have hmissed (h : hasMissed v.2 = true) :
        hasMissed (v.2 ++ [⟨.wait (some k.session.handle) k.slot, fault, .success⟩]) = true := by
      rw [hasMissed_concat, h, Bool.true_or]
    have hpending := hl.pending
    have houtput := hl.output
    rw [if_neg (by simp [hwaited])] at hpending
    refine hok _ _ { t with pending := none } ⟨⟨rfl, hl.kept.input, hl.kept.output, ?_⟩, ?_, ?_⟩ ?_
    · rw [hl.kept.sent, hsame]
    · rw [hsame]
      exact houtput
    · rw [if_pos hnow]
    · show UInt32.toNat (t.pending.getD 0) ≤ _ →
        k.Explains compute t₀ _ (t.output.take (t.pending.getD 0).toNat)
      intro hle
      cases hs : hasSent v.2 with
      | true =>
          -- the message was sent, and its answer is pending
          rw [if_pos hs] at hpending
          rw [hpending, Option.getD_some] at hle ⊢
          exact .own (hsame.trans hs) (hl.take_output hs hle)
      | false =>
          -- sending it has timed out, and what is pending was found in the slot
          have hmiss := hsent.resolve_left (by simp [hs])
          rw [if_neg (by simp [hs])] at hpending houtput
          cases hfound : t₀.pending with
          | none =>
              rw [hpending, hfound]
              exact .nothing (by simp) (hasTimedOut_of_hasMissed (hmissed hmiss))
          | some length =>
              rw [hpending, hfound, Option.getD_some] at hle ⊢
              rw [houtput]
              exact .found (hmissed hmiss) (hsame.trans hs) length hfound hle rfl

theorem leaves_copyOut {received : UInt32} {Q : Outcome Bytes → Look → Prop}
    (hl : k.Left compute t₀ v t)
    (hreceived : received.toNat ≤ k.setup.bufferSize.toNat →
      k.Explains compute t₀ v.2 (t.output.take received.toNat))
    (hQ : ∀ r, (∀ bytes, r = .ok bytes → k.Explains compute t₀ v.2 bytes) → Q r v) :
    (View.copyOut ⟨⟨.output, k.slot⟩, k.setup.bufferSize.toNat⟩ received.toNat).run.Meets
      (opSpec compute k) Q v := by
  refine meets_copyOut hl.kept (fun hfits => hQ _ ?_) fun _ => hQ _ (by rintro bytes ⟨⟩)
  rintro bytes ⟨⟩
  exact hreceived hfits

theorem leaves_discard {Q : Outcome Unit → Look → Prop} (hl : k.Left compute t₀ v t)
    (hQ : ∀ r v', SaysNoMore v.2 v'.2 → k.Left compute t₀ v' t → Q r v') :
    (k.session.discard k.slot).run.Meets (opSpec compute k) Q v :=
  leaves_quiet hl rfl rfl (by simp [operation]) (by simp [operation])
    (fun _ v' _ hacts hl' => hQ _ v' hacts hl') fun e v' hacts hl' => hQ _ v' hacts hl'

/-! ### Whole exchanges -/

/-- **The answer of a transfer is explained.** -/
theorem leaves_transfer {input : Bytes} (hinput : Padding.pad input = k.message)
    (hl : k.Left compute t₀ v t) (hsent : hasSent v.2 = false) (hwaited : hasWaited v.2 = false) :
    (transfer k.session k.slot input).run.Meets (opSpec compute k)
      (fun r => k.Leaves compute t₀ (some r)) v := by
  simp only [transfer, hinput, k.messageLength_eq, meets_action_bind, meets_liftOutcome, either_ok]
  -- the two views, and the message in the input region
  refine leaves_inputView hl (fun v₁ hacts₁ hl₁ => ?_) fun e v₁ hl₁ => hl₁.error e
  refine leaves_outputView hl₁ (fun v₂ hacts₂ hl₂ => ?_) fun e v₂ hl₂ => hl₂.error e
  refine meets_copyIn hl₂.kept fun v₃ input₃ heq hk₃ hmessage => ?_
  have hsent₃ : hasSent v₃.2 = false := by rw [heq, hacts₂.sent, hacts₁.sent, hsent]
  have hwaited₃ : hasWaited v₃.2 = false := by rw [heq, hacts₂.waited, hacts₁.waited, hwaited]
  have hl₃ : k.Left compute t₀ v₃ { t with input := input₃ } :=
    ⟨hk₃, by rw [heq]; exact hl₂.output, by rw [heq]; exact hl₂.pending⟩
  refine leaves_send hl₃ hsent₃ hwaited₃ (UInt32.toNat_ofNat_of_lt' k.length_lt) hmessage
    (fun v₄ t₄ hl₄ hwaited₄ hsent₄ => ?_) fun e v₄ hl₄ => hl₄.error e
  -- the answer, which may be what was found in the slot
  refine meets_logLine hl₄.kept ?_
  refine leaves_waitOutput hl₄ hwaited₄ hsent₄ (fun received v₅ t₅ hl₅ hreceived => ?_)
    fun e v₅ hl₅ => hl₅.error e
  simp only [either_ok, meets_outcome]
  refine leaves_copyOut hl₅ hreceived fun response hresponse => ?_
  refine leaves_discard hl₅ fun discarded v₆ hacts₆ hl₆ => ?_
  cases response with
  | error e => exact hl₆.error e
  | ok bytes =>
      cases discarded with
      | error e => exact hl₆.error e
      | ok =>
          refine meets_logLine hl₆.kept ⟨t₅, hl₆, ?_⟩
          rintro _ ⟨⟩
          exact (hresponse bytes rfl).later hacts₆

/-- **The answer of a round on the device is explained**, and a round without a result leaves the
slot as it was found. -/
theorem leaves_deviceRound {device : Device} {input : Bytes} (hinput : Padding.pad input = k.message)
    (hsession : device.session = some k.session) (hl : k.Left compute t₀ v t₀)
    (hsent : hasSent v.2 = false) (hwaited : hasWaited v.2 = false) :
    (deviceRound device k.slot input).Meets (opSpec compute k) (k.Leaves compute t₀) v := by
  have hgo {v' : Look} (hacts : SaysNoMore v.2 v'.2) (hl' : k.Left compute t₀ v' t₀) :
      ((transfer k.session k.slot input).run >>= fun r => pure (some r)).Meets (opSpec compute k)
        (k.Leaves compute t₀) v' :=
    (Program.meets_bind _ _).2 (leaves_transfer hinput hl' (hacts.sent.trans hsent)
      (hacts.waited.trans hwaited))
  simp only [deviceRound, hsession]
  rw [round, Program.meets_bind]
  refine leaves_quiet hl rfl rfl (by simp [operation]) (by simp [operation]) ?_
    fun e v' _ hl' => hl'.error e
  intro stored v' hstored hacts hl'
  rcases hstored with rfl | hd
  · exact hgo hacts hl'
  · cases hd with
    | inputFull _ _ _ full =>
        cases full with
        | false => exact hgo hacts hl'
        | true => exact ⟨hl', hacts.sent.trans hsent, hacts.waited.trans hwaited⟩

end

end Offload.Exchange
