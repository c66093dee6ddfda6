/-
**What a job owes its slot.**

A job that has sent its message owes the slot a call that gives the output back, until it has made
one, however that came out, or its wait has failed.  A job sends nothing as long as it owes
anything, and whatever strikes it, it owes nothing when it ends.

Main definitions:

* `Exchange.owes` — a job that has made these calls owes the slot something;
* `Exchange.owingSpec` — what each operation guarantees about it.

Main results:

* `Exchange.hasSent_of_owes` — a job that owes anything has sent its message;
* `Exchange.owing_transfer`, `Exchange.owing_deviceRound` — **a job sends only when it owes nothing,
  and owes nothing when it ends**.
-/

import Mathlib.Data.List.Induction
import Offload.Proofs.Device.Exchange
import Offload.Proofs.Simulator.Flights

set_option autoImplicit false
set_option relaxedAutoImplicit false

namespace Offload.Exchange

open Native Simulator

/-- Whether the job owes the slot something after one more call. -/
def leaves (owing : Bool) (c : Call) (status : Status) : Bool :=
  if settles c status then carries c status else owing && !abandons c status

/-- The job that has made these calls has sent a message, and has not given the output back. -/
def owes (acts : List Act) : Bool :=
  acts.foldl (fun owing a => leaves owing a.call a.status) false

@[simp] theorem owes_nil : owes [] = false := rfl

@[simp] theorem owes_concat (acts : List Act) (a : Act) :
    owes (acts ++ [a]) = leaves (owes acts) a.call a.status := by
  simp [owes]

/-- A job that owes anything has sent its message. -/
theorem hasSent_of_owes {acts : List Act} (h : owes acts = true) : hasSent acts = true := by
  -- by induction on the calls, the last one first
  induction acts using List.reverseRecOn with
  | nil => cases h
  | append_singleton acts a ih =>
      rw [owes_concat, leaves] at h
      rw [hasSent_concat, Bool.or_eq_true_iff]
      split at h
      · refine Or.inr ?_
        rw [Act.isSent]
        cases hc : a.call <;> rw [hc] at h <;> exact h
      · exact Or.inl (ih (Bool.and_eq_true_iff.1 h).1)

/-! ### The operations of a job -/

/-- A message is sent only when nothing is owed. -/
def IsDueNow (owing : Bool) : Op → Prop
  | .call (.send _ _ _) => owing = false
  | _ => True

/-- Whether something is owed after an answer. -/
def owingAfter (owing : Bool) : (o : Op) → o.Answer → Bool
  | .call c, reply => leaves owing c reply.status
  | .lastError, _ | .lastErrorText, _ | .store _ _, _ | .fetch _ _, _ | .log _, _ => owing

/-- What each operation guarantees, whatever the answer. -/
def owingSpec : OpSpec Bool := fun o Q owing =>
  IsDueNow owing o ∧ ∀ x, Q x (owingAfter owing o x)

section

variable {owing : Bool} {α : Type}

theorem owing_check {status : Status} {Q : Outcome Unit → Bool → Prop}
    (hok : status.isBenign = true → Q (.ok ()) owing)
    (herror : status.isBenign = false → ∀ e, Q (.error e) owing) :
    (check status).run.Meets owingSpec Q owing := by
  cases hs : status.isBenign with
  | true =>
      rw [check_of_isBenign hs]
      exact hok hs
  | false =>
      rw [check, if_neg (by simp [hs])]
      exact ⟨trivial, fun _ => ⟨trivial, fun _ => ⟨trivial, fun _ => herror hs _⟩⟩⟩

theorem owing_request {c : Call} {prepared : c.Stored} {Q : Outcome c.Stored → Bool → Prop}
    (hdue : IsDueNow owing (.call c))
    (hok : ∀ x status, status.isBenign = true → Q (.ok x) (leaves owing c status))
    (herror : ∀ e status, status.isBenign = false → Q (.error e) (leaves owing c status)) :
    (request c prepared).run.Meets owingSpec Q owing := by
  refine meets_request_iff.2 ⟨hdue, fun reply => ?_⟩
  exact owing_check (hok _ reply.status) fun hs e => herror e reply.status hs

/-- A judged call after which nothing else is owed than before. -/
theorem owing_quiet {c : Call} {prepared : c.Stored} {Q : Outcome c.Stored → Bool → Prop}
    (hdue : IsDueNow owing (.call c)) (hc : ∀ status, leaves owing c status = owing)
    (hok : ∀ x, Q (.ok x) owing) (herror : ∀ e, Q (.error e) owing) :
    (request c prepared).run.Meets owingSpec Q owing := by
  refine owing_request hdue (fun x status _ => ?_) fun e status _ => ?_
  · rw [hc]
    exact hok x
  · rw [hc]
    exact herror e

theorem owing_liftOutcome {r : Outcome α} {Q : Outcome α → Bool → Prop} :
    (liftM r : Action α).run.Meets owingSpec Q owing ↔ Q r owing := Iff.rfl

theorem owing_logLine {level : Log.Level} {text : String} {Q : Outcome Unit → Bool → Prop}
    (hQ : Q (.ok ()) owing) :
    (liftM (logLine level text) : Action Unit).run.Meets owingSpec Q owing :=
  ⟨trivial, fun _ => hQ⟩

theorem owing_view {c : Call} {prepared : c.Stored} {ofStored : c.Stored → Outcome View}
    {Q : Outcome View → Bool → Prop} (hdue : IsDueNow owing (.call c))
    (hc : ∀ status, leaves owing c status = owing) (hok : ∀ view, Q (.ok view) owing)
    (herror : ∀ e, Q (.error e) owing) :
    (request c prepared >>= fun stored => liftM (ofStored stored)).run.Meets owingSpec Q owing := by
  rw [meets_action_bind]
  refine owing_quiet hdue hc (fun stored => ?_) herror
  show Q (ofStored stored) owing
  cases ofStored stored with
  | ok view => exact hok view
  | error e => exact herror e

theorem owing_copy {o : Op} {length capacity : Nat} {Q : Outcome o.Answer → Bool → Prop}
    (hdue : IsDueNow owing o) (ho : ∀ x, owingAfter owing o x = owing)
    (hok : ∀ x, Q (.ok x) owing) (herror : ∀ e, Q (.error e) owing) :
    (liftM (Buffer.checkBounds length capacity) >>= fun _ => liftM (perform o) :
      Action o.Answer).run.Meets owingSpec Q owing := by
  rw [meets_action_bind]
  by_cases hle : length ≤ capacity
  · rw [Buffer.checkBounds_of_le hle]
    refine ⟨hdue, fun x => ?_⟩
    rw [ho]
    exact hok x
  · rw [Buffer.checkBounds_of_lt (Nat.lt_of_not_le hle)]
    exact herror _

/-! ### Whole rounds -/

/-- A wait that fails settles what is owed. -/
theorem leaves_eq_false_of_wait {h : Option Handle} {slot : UInt32} {status : Status}
    (hs : status.isBenign = false) : leaves owing (.wait h slot) status = false := by
  have hne : status ≠ .success := by
    rintro rfl
    cases hs
  simp [leaves, settles, carries, hne]

/-- After a call to give the output back nothing is owed. -/
theorem leaves_eq_false_of_discard {h : Option Handle} {slot : UInt32} {status : Status} :
    leaves owing (.discard h slot) status = false := by
  by_cases hs : status = .success <;> simp [leaves, settles, carries, abandons, hs]

/-- A call to send that fails leaves nothing owed. -/
theorem leaves_eq_false_of_send {h : Option Handle} {slot length : UInt32} {status : Status}
    (hs : status.isBenign = false) : leaves false (.send h slot length) status = false := by
  have hne : status ≠ .success := by
    rintro rfl
    cases hs
  simp [leaves, settles, hne]

/-- **A transfer sends only when nothing is owed, and owes nothing when it ends.** -/
theorem owing_transfer (s : Session) (slot : UInt32) (input : Bytes)
    {Q : Outcome Bytes → Bool → Prop} (hQ : ∀ r, Q r false) :
    (transfer s slot input).run.Meets owingSpec Q false := by
  have hend (e : Error) : Q (.error e) false := hQ _
  simp only [transfer, meets_action_bind, owing_liftOutcome]
  cases messageLength (Padding.pad input) with
  | error e => exact hend e
  | ok length =>
      refine owing_view trivial (fun _ => rfl) (fun inputView => ?_) hend
      refine owing_view trivial (fun _ => rfl) (fun outputView => ?_) hend
      refine owing_copy (o := .store inputView.region (Padding.pad input)) trivial (fun _ => rfl)
        (fun _ => ?_) hend
      refine owing_request rfl (fun _ sent _ => ?_) fun e _ hs => ?_
      · -- the message may have been sent, so the end of the wait matters
        refine owing_logLine ?_
        refine owing_request trivial (fun received _ _ => ?_) fun e _ hs => ?_
        · simp only [either_ok, meets_outcome]
          refine owing_copy (o := .fetch outputView.region received.toNat) trivial (fun _ => rfl)
            (fun bytes => ?_) fun e => ?_
          · refine owing_request trivial (fun _ _ _ => ?_) fun e _ _ => ?_ <;>
              rw [leaves_eq_false_of_discard]
            · exact owing_logLine (hQ _)
            · exact hend e
          · refine owing_request trivial (fun _ _ _ => ?_) fun _ _ _ => ?_ <;>
              rw [leaves_eq_false_of_discard] <;> exact hend e
        · rw [leaves_eq_false_of_wait hs]
          exact hend e
      · rw [leaves_eq_false_of_send hs]
        exact hend e

/-- **So does a round**, on whatever device. -/
theorem owing_deviceRound (device : Device) (slot : UInt32) (input : Bytes) :
    (deviceRound device slot input).Meets owingSpec (fun _ owing => owing = false) false := by
  have hgo (session : Session) :
      ((transfer session slot input).run >>= fun r => pure (some r)).Meets owingSpec
        (fun _ owing => owing = false) false :=
    (Program.meets_bind _ _).2 (owing_transfer session slot input fun _ => rfl)
  cases hs : device.session with
  | none =>
      rw [deviceRound, hs]
      rfl
  | some session =>
      simp only [deviceRound, hs]
      rw [round, Program.meets_bind]
      refine owing_quiet trivial (fun _ => rfl) (fun full => ?_) fun _ => rfl
      cases full with
      | false => exact hgo session
      | true => rfl

end

end Offload.Exchange
