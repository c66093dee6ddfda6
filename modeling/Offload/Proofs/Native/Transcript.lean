/-
**What a program asks and what it is told.**

The transcript of a program that is run on a driver lists the operations that reach the driver, each
with its answer, in the order in which they are performed.  What a program comes to can be said in
terms of its transcript alone, whatever the driver is.

Main definitions:

* `Native.Heard`, `Native.Transcript` — an operation with its answer, and all of them;
* `Native.Driver.transcript` — the transcript of a program;
* `Native.Driver.attemptTranscript`, `Native.Driver.roundsTranscript` — of one that is given up at
  the first call that traps, and of rounds of it;
* `Native.heardSpec` — operations that may be answered in any way, with what has been heard so far.

Main results:

* `Native.Program.Meets.heard` — **what a program meets holds of its result and its transcript**;
* `Native.Program.Meets.heard_rounds` — **so it is with rounds until one has a result**;
* `Native.heard_request` — a judged call passes, or ends with what is heard right after it.
-/

import Offload.Proofs.Native.Meets

set_option autoImplicit false
set_option relaxedAutoImplicit false

namespace Offload.Native

/-! ### Transcripts -/

/-- An operation that has reached the driver, with its answer. -/
structure Heard where
  op : Op
  answer : op.Answer

/-- The operations that have reached the driver, oldest first. -/
abbrev Transcript : Type := List Heard

namespace Heard

/-- A call with its reply. -/
def reply {c : Call} (reply : Reply c) : Heard := ⟨.call c, reply⟩

/-- The code of the most recent failure. -/
def code (code : UInt32) : Heard := ⟨.lastError, code⟩

/-- The text of the most recent failure. -/
def text (text : String) : Heard := ⟨.lastErrorText, text⟩

/-- Bytes stored in shared memory. -/
def stored (region : Region) (data : Bytes) : Heard := ⟨.store region data, ()⟩

/-- Bytes read from shared memory. -/
def fetched (region : Region) (length : Nat) (data : Bytes) : Heard := ⟨.fetch region length, data⟩

/-- The call that was made. -/
def call? : Heard → Option Call
  | ⟨.call c, _⟩ => some c
  | _ => none

/-- The status that a call has reported. -/
def status? : Heard → Option Status
  | ⟨.call _, reply⟩ => some reply.status
  | _ => none

@[simp] theorem call?_reply {c : Call} (r : Reply c) : (reply r).call? = some c := rfl

@[simp] theorem call?_code (c : UInt32) : (code c).call? = none := rfl

@[simp] theorem call?_text (t : String) : (text t).call? = none := rfl

@[simp] theorem call?_stored (region : Region) (data : Bytes) :
    (stored region data).call? = none := rfl

@[simp] theorem call?_fetched (region : Region) (length : Nat) (data : Bytes) :
    (fetched region length data).call? = none := rfl

@[simp] theorem status?_reply {c : Call} (r : Reply c) : (reply r).status? = some r.status := rfl

@[simp] theorem status?_stored (region : Region) (data : Bytes) :
    (stored region data).status? = none := rfl

@[simp] theorem status?_fetched (region : Region) (length : Nat) (data : Bytes) :
    (fetched region length data).status? = none := rfl

end Heard

/-- The calls of a transcript. -/
def Transcript.calls (T : Transcript) : List Call := T.filterMap Heard.call?

@[simp] theorem calls_nil : Transcript.calls [] = [] := rfl

@[simp] theorem calls_cons (x : Heard) (T : Transcript) :
    Transcript.calls (x :: T) = x.call?.toList ++ T.calls := by
  cases h : x.call? <;> simp [Transcript.calls, h]

theorem calls_append (T T' : Transcript) :
    Transcript.calls (T ++ T') = Transcript.calls T ++ Transcript.calls T' :=
  List.filterMap_append

theorem mem_calls {T : Transcript} {c : Call} {reply : Reply c} (h : .reply reply ∈ T) :
    c ∈ T.calls :=
  List.mem_filterMap.2 ⟨_, h, rfl⟩

/-- What an operation adds to a transcript; logging does not reach the driver. -/
def hear : (o : Op) → o.Answer → Transcript
  | .log _, _ => []
  | .call c, reply => [⟨.call c, reply⟩]
  | .lastError, code => [⟨.lastError, code⟩]
  | .lastErrorText, text => [⟨.lastErrorText, text⟩]
  | .store region data, u => [⟨.store region data, u⟩]
  | .fetch region length, data => [⟨.fetch region length, data⟩]

/-- What is heard with an operation is its answer. -/
theorem eq_of_mem_hear {o : Op} {a : o.Answer} {x : Heard} (hx : x ∈ hear o a) :
    x = ⟨o, a⟩ := by
  cases o with
  | log => cases hx
  | _ => exact List.mem_singleton.1 hx

/-- The transcript of a program that is run on a driver. -/
def Driver.transcript {σ α : Type} (D : Driver σ) : Program α → World σ → Transcript
  | .done _, _ => []
  | .step o next, w =>
      let r := D.answer o w
      hear o r.1 ++ D.transcript (next r.1) r.2

/-- The transcript of a program that is given up at the first operation that traps. -/
def Driver.attemptTranscript {σ α : Type} (D : Driver σ) : Program α → World σ → Transcript
  | .done _, _ => []
  | .step o next, w =>
      match D.trapped? o w with
      | some _ => []
      | none => let r := D.answer o w; hear o r.1 ++ D.attemptTranscript (next r.1) r.2

/-- The transcript of rounds of a program until one has a result. -/
def Driver.roundsTranscript {σ α : Type} (D : Driver σ) (round : Program (Option α)) :
    Nat → World σ → Transcript
  | 0, _ => []
  | bound + 1, w =>
      D.attemptTranscript round w ++
        match D.attempt round w with
        | (some none, w) => D.roundsTranscript round bound w
        | _ => []

/-! ### Programs and their transcripts -/

/-- Every operation may be answered in any way, and its answer is heard. -/
def heardSpec : OpSpec Transcript := fun o Q T => ∀ x, Q x (T ++ hear o x)

section

variable {α β σ : Type} {T : Transcript}

theorem heardSpec_isMono : heardSpec.IsMono := fun _ _ _ _ hQ h x => hQ _ _ (h x)

/-- **What a program meets holds of its result and its transcript** on every driver. -/
theorem Program.Meets.heard {p : Program α} {Q : α → Transcript → Prop}
    (hp : p.Meets heardSpec Q T) (D : Driver σ) (w : World σ) :
    Q (D.run p w).1 (T ++ D.transcript p w) := by
  induction p generalizing w T with
  | done a => simpa [Driver.transcript] using hp
  | step o next ih =>
      rw [Driver.run_step, Driver.transcript, ← List.append_assoc]
      exact ih _ (hp _) _

/-- What a program meets holds of its transcript too when it might have been given up. -/
theorem Program.Meets.heard_attempt {p : Program α} {Q : α → Transcript → Prop}
    (hp : p.Meets heardSpec Q T) (D : Driver σ) {w : World σ} {a : α}
    (ha : (D.attempt p w).1 = some a) : Q a (T ++ D.attemptTranscript p w) := by
  induction p generalizing w T with
  | done b =>
      obtain rfl : b = a := Option.some_inj.1 ha
      simpa [Driver.attemptTranscript] using hp
  | step o next ih =>
      rw [Driver.attempt] at ha
      rw [Driver.attemptTranscript]
      cases htrap : D.trapped? o w with
      | some left =>
          rw [htrap] at ha
          cases ha
      | none =>
          rw [htrap] at ha
          dsimp only
          rw [← List.append_assoc]
          exact ih _ (hp _) ha

/-- **What every round meets holds of rounds until one has a result.**  `Again` is what a round
without a result leads to and what the next one begins with. -/
theorem Program.Meets.heard_rounds {round : Program (Option α)} {Again : Transcript → Prop}
    {Q : α → Transcript → Prop}
    (hround : ∀ T, Again T →
      round.Meets heardSpec (fun r T' => r.elim (Again T') fun a => Q a T') T)
    (hT : Again T) (D : Driver σ) {bound : Nat} {w : World σ} {a : α}
    (ha : (D.attemptRounds round bound w).1 = some (some a)) :
    Q a (T ++ D.roundsTranscript round bound w) := by
  induction bound generalizing w T with
  | zero => cases ha
  | succ bound ih =>
      rw [Driver.attemptRounds] at ha
      rw [Driver.roundsTranscript]
      rcases hr : D.attempt round w with ⟨r, w'⟩
      have hheard (r' : Option α) (hr' : r = some r') :=
        (hround T hT).heard_attempt D (w := w) (a := r') (by rw [hr, hr'])
      rw [hr] at ha
      cases r with
      | none => cases ha
      | some r' =>
          cases r' with
          | none =>
              rw [← List.append_assoc]
              exact ih (hheard none rfl) ha
          | some a' =>
              obtain rfl : a' = a := by simpa using ha
              rw [List.append_nil]
              exact hheard (some a') rfl

/-- A log line is not heard. -/
theorem heard_log {request : Log.Request} {Q : Unit → Transcript → Prop} (hQ : Q () T) :
    (perform (.log request)).Meets heardSpec Q T := fun _ => by
  simpa [hear] using hQ

/-- A call whose status is not judged. -/
theorem heard_call {c : Call} {f : Reply c → Action α} {Q : Outcome α → Transcript → Prop}
    (hf : ∀ reply, (f reply).run.Meets heardSpec Q (T ++ [.reply reply])) :
    (liftM (call c) >>= f).run.Meets heardSpec Q T :=
  (meets_action_bind _ f).2 hf

/-- The text of the most recent failure. -/
theorem heard_text {f : String → Action α} {Q : Outcome α → Transcript → Prop}
    (hf : ∀ text, (f text).run.Meets heardSpec Q (T ++ [.text text])) :
    (liftM lastErrorText >>= f).run.Meets heardSpec Q T :=
  (meets_action_bind _ f).2 hf

/-- **A judged call passes, or ends with what is heard right after it.** -/
theorem heard_request {c : Call} {prepared : c.Stored} {Q : Outcome c.Stored → Transcript → Prop}
    (hok : ∀ reply : Reply c, reply.status.isBenign = true →
      Q (.ok (reply.stored.getD prepared)) (T ++ [.reply reply]))
    (herror : ∀ (reply : Reply c) code text, reply.status.isBenign = false →
      Q (.error (.deviceOperation reply.status code text))
        (T ++ [.reply reply, .code code, .text text])) :
    (request c prepared).run.Meets heardSpec Q T := by
  refine meets_request_iff.2 fun reply => ?_
  cases hs : reply.status.isBenign with
  | true =>
      rw [check_of_isBenign hs]
      exact hok reply hs
  | false =>
      rw [check, if_neg (by simp [hs])]
      intro code text _
      have heard : Q (.error (.deviceOperation reply.status code text))
          (T ++ hear (.call c) reply ++ hear .lastError code ++ hear .lastErrorText text ++ []) := by
        simpa [hear, Heard.reply, Heard.code, Heard.text] using herror reply code text hs
      exact heard

end

end Offload.Native
