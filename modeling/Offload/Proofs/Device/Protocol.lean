/-
**The calls of one job.**

A job asks whether its slot is ready until it is; then it asks for the two regions, stores its
padded message in the first, sends it, waits, reads the answer from the second and gives it back.
Whatever a driver answers, what it is asked is a beginning of this script, and where the script is
left, and with what, can be read off the last reply.

Main definitions:

* `Exchange.Ready`, `Exchange.Located`, `Exchange.Prepared`, `Exchange.Sent`, `Exchange.Waited` —
  how far a job has come, with the replies that have brought it there;
* `Exchange.Conducted` — **the ways in which a job ends**: what is heard once the slot is asked for
  the last time, and what the job comes to;
* `Exchange.script` — the calls of a job that answers.

Main results:

* `Exchange.Conducted.calls_eq` — the calls are a beginning of the script;
* `Exchange.Conducted.failsLast` — the first call that fails is the last one;
* `Exchange.Conducted.givenBack` — the output region is given back once if the output has come;
* `Exchange.protocol_trace` — **every exchange on every driver is one of these**.
-/

import Mathlib.Algebra.Group.Nat.Defs
import Offload.Device.Exchange
import Offload.Simulator.Driver
import Offload.Proofs.Native.Transcript

set_option autoImplicit false
set_option relaxedAutoImplicit false

namespace Offload

open Native

namespace Exchange

/-! ### How far a job has come -/

/-- The slot has said that it is ready. -/
structure Ready (s : Session) (slot : UInt32) where
  asked : Reply (.inputFull s.handle slot)
  asked_benign : asked.status.isBenign = true
  is_ready : asked.stored.getD false = false

/-- The driver has said where the input region is. -/
structure Located (s : Session) (slot : UInt32) extends Ready s slot where
  input : Reply (.inputPointer s.handle slot)
  input_benign : input.status.isBenign = true
  source : Region
  input_eq : input.stored.getD none = some source

/-- And where the output region is. -/
structure Prepared (s : Session) (slot : UInt32) extends Located s slot where
  output : Reply (.outputPointer s.handle slot)
  output_benign : output.status.isBenign = true
  target : Region
  output_eq : output.stored.getD none = some target

/-- The message fits the input region; it has been stored there and sent. -/
structure Sent (s : Session) (slot : UInt32) (message : Bytes) extends Prepared s slot where
  fits : message.length ≤ s.bufferSize
  sent : Reply (.send s.handle slot (UInt32.ofNat message.length))
  sent_benign : sent.status.isBenign = true

/-- The output has come. -/
structure Waited (s : Session) (slot : UInt32) (message : Bytes) extends Sent s slot message where
  waited : Reply (.wait s.handle slot)
  waited_benign : waited.status.isBenign = true

section

variable {s : Session} {slot : UInt32} {message : Bytes}

/-- What is heard until the slot is ready, from the last question on. -/
def Ready.heard (p : Ready s slot) : Transcript := [.reply p.asked]

/-- What is heard until the input region is known. -/
def Located.heard (p : Located s slot) : Transcript := p.toReady.heard ++ [.reply p.input]

/-- What is heard until both regions are known. -/
def Prepared.heard (p : Prepared s slot) : Transcript := p.toLocated.heard ++ [.reply p.output]

/-- What is heard until the message has been sent. -/
def Sent.heard (p : Sent s slot message) : Transcript :=
  p.toPrepared.heard ++ [.stored p.source message, .reply p.sent]

/-- What is heard until the output has come. -/
def Waited.heard (p : Waited s slot message) : Transcript :=
  p.toSent.heard ++ [.reply p.waited]

/-- The length of the output as the driver reports it. -/
def Waited.received (p : Waited s slot message) : Nat := (p.waited.stored.getD 0).toNat

end

/-- What is heard of a call that fails. -/
def failing {c : Call} (reply : Reply c) (code : UInt32) (text : String) : Transcript :=
  [.reply reply, .code code, .text text]

section

variable {T T' : Transcript}

/-- All calls have been answered well. -/
def AllBenign (T : Transcript) : Prop :=
  ∀ x ∈ T, ∀ status, x.status? = some status → status.isBenign = true

theorem allBenign_append : AllBenign (T ++ T') ↔ AllBenign T ∧ AllBenign T' :=
  List.forall_mem_append

theorem allBenign_reply {c : Call} {reply : Reply c} (h : reply.status.isBenign = true) :
    AllBenign [.reply reply] := by
  simpa [AllBenign] using h

end

section

variable {s : Session} {slot : UInt32} {message : Bytes}

theorem Ready.allBenign (p : Ready s slot) : AllBenign p.heard := allBenign_reply p.asked_benign

theorem Located.allBenign (p : Located s slot) : AllBenign p.heard :=
  allBenign_append.2 ⟨p.toReady.allBenign, allBenign_reply p.input_benign⟩

theorem Prepared.allBenign (p : Prepared s slot) : AllBenign p.heard :=
  allBenign_append.2 ⟨p.toLocated.allBenign, allBenign_reply p.output_benign⟩

theorem Sent.allBenign (p : Sent s slot message) : AllBenign p.heard :=
  allBenign_append.2 ⟨p.toPrepared.allBenign, by simp [AllBenign, p.sent_benign]⟩

theorem Waited.allBenign (p : Waited s slot message) : AllBenign p.heard :=
  allBenign_append.2 ⟨p.toSent.allBenign, allBenign_reply p.waited_benign⟩

@[simp] theorem calls_failing {c : Call} (reply : Reply c) (code : UInt32) (text : String) :
    (failing reply code text).calls = [c] := rfl

@[simp] theorem Ready.calls_heard (p : Ready s slot) :
    p.heard.calls = [.inputFull s.handle slot] := rfl

@[simp] theorem Located.calls_heard (p : Located s slot) :
    p.heard.calls = p.toReady.heard.calls ++ [.inputPointer s.handle slot] := rfl

@[simp] theorem Prepared.calls_heard (p : Prepared s slot) :
    p.heard.calls = p.toLocated.heard.calls ++ [.outputPointer s.handle slot] := rfl

@[simp] theorem Sent.calls_heard (p : Sent s slot message) :
    p.heard.calls = p.toPrepared.heard.calls ++
      [.send s.handle slot (UInt32.ofNat message.length)] := rfl

@[simp] theorem Waited.calls_heard (p : Waited s slot message) :
    p.heard.calls = p.toSent.heard.calls ++ [.wait s.handle slot] := rfl

end

/-! ### How a job ends -/

/-- The ways in which a job ends, from the last question on: what is heard, and what it comes to. -/
inductive Conducted (s : Session) (slot : UInt32) (message : Bytes) :
    Transcript → Outcome Bytes → Prop
  /-- The question itself fails. -/
  | notAsked (asked : Reply (.inputFull s.handle slot)) (hfatal : asked.status.isBenign = false)
      (code : UInt32) (text : String) :
      Conducted s slot message (failing asked code text)
        (.error (.deviceOperation asked.status code text))
  | notLocated (p : Ready s slot) (input : Reply (.inputPointer s.handle slot))
      (hfatal : input.status.isBenign = false) (code : UInt32) (text : String) :
      Conducted s slot message (p.heard ++ failing input code text)
        (.error (.deviceOperation input.status code text))
  /-- There is no input region; this is the driver's fault, and nothing more is asked. -/
  | nullInput (p : Ready s slot) (input : Reply (.inputPointer s.handle slot))
      (hbenign : input.status.isBenign = true) (hnull : input.stored.getD none = none) :
      Conducted s slot message (p.heard ++ [.reply input])
        (.error (.deviceOperation .driverError 0 "driver returned a null buffer pointer"))
  | notPrepared (p : Located s slot) (output : Reply (.outputPointer s.handle slot))
      (hfatal : output.status.isBenign = false) (code : UInt32) (text : String) :
      Conducted s slot message (p.heard ++ failing output code text)
        (.error (.deviceOperation output.status code text))
  | nullOutput (p : Located s slot) (output : Reply (.outputPointer s.handle slot))
      (hbenign : output.status.isBenign = true) (hnull : output.stored.getD none = none) :
      Conducted s slot message (p.heard ++ [.reply output])
        (.error (.deviceOperation .driverError 0 "driver returned a null buffer pointer"))
  /-- The message does not fit, and nothing is stored or sent. -/
  | tooLong (p : Prepared s slot) (hlong : s.bufferSize < message.length) :
      Conducted s slot message p.heard (.error (.bufferBounds message.length s.bufferSize))
  | notSent (p : Prepared s slot) (hfits : message.length ≤ s.bufferSize)
      (sent : Reply (.send s.handle slot (UInt32.ofNat message.length)))
      (hfatal : sent.status.isBenign = false) (code : UInt32) (text : String) :
      Conducted s slot message (p.heard ++ .stored p.source message :: failing sent code text)
        (.error (.deviceOperation sent.status code text))
  /-- The output does not come, and the output region is not given back. -/
  | notWaited (p : Sent s slot message) (waited : Reply (.wait s.handle slot))
      (hfatal : waited.status.isBenign = false) (code : UInt32) (text : String) :
      Conducted s slot message (p.heard ++ failing waited code text)
        (.error (.deviceOperation waited.status code text))
  /-- The output does not fit; it is not read, and its region is given back. -/
  | oversized (p : Waited s slot message) (hlong : s.bufferSize < p.received)
      (discarded : Reply (.discard s.handle slot)) (hbenign : discarded.status.isBenign = true) :
      Conducted s slot message (p.heard ++ [.reply discarded])
        (.error (.bufferBounds p.received s.bufferSize))
  /-- The output does not fit, and this is what stands when giving its region back fails too. -/
  | oversizedNotDiscarded (p : Waited s slot message) (hlong : s.bufferSize < p.received)
      (discarded : Reply (.discard s.handle slot)) (hfatal : discarded.status.isBenign = false)
      (code : UInt32) (text : String) :
      Conducted s slot message (p.heard ++ failing discarded code text)
        (.error (.bufferBounds p.received s.bufferSize))
  | notDiscarded (p : Waited s slot message) (hfits : p.received ≤ s.bufferSize) (data : Bytes)
      (discarded : Reply (.discard s.handle slot)) (hfatal : discarded.status.isBenign = false)
      (code : UInt32) (text : String) :
      Conducted s slot message
        (p.heard ++ .fetched p.target p.received data :: failing discarded code text)
        (.error (.deviceOperation discarded.status code text))
  /-- The job answers with what was read from the output region. -/
  | answered (p : Waited s slot message) (hfits : p.received ≤ s.bufferSize) (data : Bytes)
      (discarded : Reply (.discard s.handle slot)) (hbenign : discarded.status.isBenign = true) :
      Conducted s slot message
        (p.heard ++ [.fetched p.target p.received data, .reply discarded]) (.ok data)

/-- The calls of a job that answers, once its slot is ready. -/
def script (s : Session) (slot : UInt32) (message : Bytes) : List Call :=
  [.inputPointer s.handle slot, .outputPointer s.handle slot,
    .send s.handle slot (UInt32.ofNat message.length), .wait s.handle slot,
    .discard s.handle slot]

/-- The first call that fails is the last one, and the job comes to what is heard of it, unless it
was to give back a region whose output did not fit. -/
def FailsLast (s : Session) (slot : UInt32) (T : Transcript) (outcome : Outcome Bytes) : Prop :=
  AllBenign T ∨ ∃ before, AllBenign before ∧ ∃ (c : Call) (reply : Reply c) (code : UInt32)
    (text : String), T = before ++ failing reply code text ∧ reply.status.isBenign = false ∧
      (outcome = .error (.deviceOperation reply.status code text) ∨
        c = .discard s.handle slot ∧ ∃ n, s.bufferSize < n ∧
          outcome = .error (.bufferBounds n s.bufferSize))

/-- The output of the slot has come. -/
def HasCome (s : Session) (slot : UInt32) (T : Transcript) : Prop :=
  ∃ reply : Reply (.wait s.handle slot), .reply reply ∈ T ∧ reply.status.isBenign = true

/-- The output region is given back once if the output has come, and not at all if it has not. -/
def GivenBack (s : Session) (slot : UInt32) (T : Transcript) : Prop :=
  HasCome s slot T ∧ T.calls.count (.discard s.handle slot) = 1 ∨
    ¬HasCome s slot T ∧ T.calls.count (.discard s.handle slot) = 0

/-! ### What can be read off the end of a job -/

namespace Conducted

variable {s : Session} {slot : UInt32} {message : Bytes} {T : Transcript} {outcome : Outcome Bytes}

/-- **The calls are a beginning of the script.** -/
theorem calls_eq (h : Conducted s slot message T outcome) :
    ∃ calls, calls <+: script s slot message ∧ T.calls = .inputFull s.handle slot :: calls := by
  have hprefix (n : Nat) : (script s slot message).take n <+: script s slot message :=
    List.take_prefix n _
  cases h with
  | notAsked => exact ⟨_, hprefix 0, rfl⟩
  | notLocated | nullInput => exact ⟨_, hprefix 1, rfl⟩
  | notPrepared | nullOutput | tooLong => exact ⟨_, hprefix 2, rfl⟩
  | notSent => exact ⟨_, hprefix 3, rfl⟩
  | notWaited => exact ⟨_, hprefix 4, rfl⟩
  | oversized | oversizedNotDiscarded | notDiscarded | answered => exact ⟨_, hprefix 5, rfl⟩

/-- **The first call that fails is the last one.** -/
theorem failsLast (h : Conducted s slot message T outcome) : FailsLast s slot T outcome := by
  cases h with
  | notAsked asked hfatal code text =>
      exact Or.inr ⟨[], by simp [AllBenign], _, asked, code, text, rfl, hfatal, Or.inl rfl⟩
  | notLocated p input hfatal code text =>
      exact Or.inr ⟨p.heard, p.allBenign, _, input, code, text, rfl, hfatal, Or.inl rfl⟩
  | nullInput p input hbenign =>
      exact Or.inl (allBenign_append.2 ⟨p.allBenign, allBenign_reply hbenign⟩)
  | notPrepared p output hfatal code text =>
      exact Or.inr ⟨p.heard, p.allBenign, _, output, code, text, rfl, hfatal, Or.inl rfl⟩
  | nullOutput p output hbenign =>
      exact Or.inl (allBenign_append.2 ⟨p.allBenign, allBenign_reply hbenign⟩)
  | tooLong p => exact Or.inl p.allBenign
  | notSent p hfits sent hfatal code text =>
      refine Or.inr ⟨p.heard ++ [.stored p.source message], ?_, _, sent, code, text, by simp,
        hfatal, Or.inl rfl⟩
      exact allBenign_append.2 ⟨p.allBenign, by simp [AllBenign]⟩
  | notWaited p waited hfatal code text =>
      exact Or.inr ⟨p.heard, p.allBenign, _, waited, code, text, rfl, hfatal, Or.inl rfl⟩
  | oversized p hlong discarded hbenign =>
      exact Or.inl (allBenign_append.2 ⟨p.allBenign, allBenign_reply hbenign⟩)
  | oversizedNotDiscarded p hlong discarded hfatal code text =>
      exact Or.inr ⟨p.heard, p.allBenign, _, discarded, code, text, rfl, hfatal,
        Or.inr ⟨rfl, _, hlong, rfl⟩⟩
  | notDiscarded p hfits data discarded hfatal code text =>
      refine Or.inr ⟨p.heard ++ [.fetched p.target p.received data], ?_, _, discarded, code, text,
        by simp, hfatal, Or.inl rfl⟩
      exact allBenign_append.2 ⟨p.allBenign, by simp [AllBenign]⟩
  | answered p hfits data discarded hbenign =>
      exact Or.inl (allBenign_append.2 ⟨p.allBenign, by simp [AllBenign, hbenign]⟩)

/-- **The output region is given back once if the output has come.** -/
theorem givenBack (h : Conducted s slot message T outcome) : GivenBack s slot T := by
  have hnone {T : Transcript} (hwait : .wait s.handle slot ∉ T.calls)
      (hdiscard : .discard s.handle slot ∉ T.calls) :
      ¬HasCome s slot T ∧ T.calls.count (.discard s.handle slot) = 0 :=
    ⟨fun ⟨_, hmem, _⟩ => hwait (mem_calls hmem), List.count_eq_zero.2 hdiscard⟩
  cases h with
  | oversized p | oversizedNotDiscarded p | notDiscarded p | answered p =>
      refine Or.inl ⟨⟨p.waited, by simp [Waited.heard], p.waited_benign⟩, ?_⟩
      simp [calls_append]
  | notWaited p waited hfatal =>
      refine Or.inr ⟨?_, by simp [calls_append]⟩
      rintro ⟨reply, hmem, hbenign⟩
      rcases List.mem_append.1 hmem with hmem | hmem
      · simpa using mem_calls hmem
      · have heq : reply = waited := by
          simpa [failing, Heard.reply, Heard.code, Heard.text] using hmem
        rw [heq, hfatal] at hbenign
        cases hbenign
  | _ => exact Or.inr (hnone (by simp [calls_append]) (by simp [calls_append]))

end Conducted

/-! ### One operation after the other -/

section

variable {s : Session} {slot : UInt32} {T : Transcript}

theorem heard_copyIn {v : View} {data : Bytes} {Q : Outcome Unit → Transcript → Prop}
    (hok : data.length ≤ v.capacity → Q (.ok ()) (T ++ [.stored v.region data]))
    (herror : v.capacity < data.length → Q (.error (.bufferBounds data.length v.capacity)) T) :
    (v.copyIn data).run.Meets heardSpec Q T := by
  rw [View.copyIn]
  rcases Nat.lt_or_ge v.capacity data.length with hlong | hfits
  · rw [Buffer.checkBounds_of_lt hlong]
    exact herror hlong
  · rw [Buffer.checkBounds_of_le hfits]
    exact fun _ => hok hfits

theorem heard_copyOut {v : View} {n : Nat} {Q : Outcome Bytes → Transcript → Prop}
    (hok : n ≤ v.capacity → ∀ data, Q (.ok data) (T ++ [.fetched v.region n data]))
    (herror : v.capacity < n → Q (.error (.bufferBounds n v.capacity)) T) :
    (v.copyOut n).run.Meets heardSpec Q T := by
  rw [View.copyOut]
  rcases Nat.lt_or_ge v.capacity n with hlong | hfits
  · rw [Buffer.checkBounds_of_lt hlong]
    exact herror hlong
  · rw [Buffer.checkBounds_of_le hfits]
    exact fun data => hok hfits data

/-- Asking for a region: the call may fail, and there may be no region. -/
theorem heard_view {c : Call} {prepared : c.Stored} {f : c.Stored → Option Region} {n : Nat}
    {Q : Outcome View → Transcript → Prop}
    (hok : ∀ (reply : Reply c) region, reply.status.isBenign = true →
      f (reply.stored.getD prepared) = some region → Q (.ok ⟨region, n⟩) (T ++ [.reply reply]))
    (hnull : ∀ reply : Reply c, reply.status.isBenign = true →
      f (reply.stored.getD prepared) = none →
      Q (.error (.deviceOperation .driverError 0 "driver returned a null buffer pointer"))
        (T ++ [.reply reply]))
    (herror : ∀ (reply : Reply c) code text, reply.status.isBenign = false →
      Q (.error (.deviceOperation reply.status code text)) (T ++ failing reply code text)) :
    (request c prepared >>= fun stored => liftM (View.ofPointer (f stored) n)).run.Meets
      heardSpec Q T := by
  rw [meets_action_bind]
  refine heard_request (fun reply hbenign => ?_) herror
  show Q (View.ofPointer (f (reply.stored.getD prepared)) n) (T ++ [.reply reply])
  cases hregion : f (reply.stored.getD prepared) with
  | none => exact hnull reply hbenign hregion
  | some region => exact hok reply region hbenign hregion

theorem append_step (A B : Transcript) (x : Heard) : T ++ A ++ [x] ++ B = T ++ (A ++ x :: B) := by
  simp

/-- The job is over: what has been heard since is one of the ways in which a job ends. -/
def Over (s : Session) (slot : UInt32) (message : Bytes) (T : Transcript)
    (outcome : Outcome Bytes) (T' : Transcript) : Prop :=
  ∃ rest, T' = T ++ rest ∧ Conducted s slot message rest outcome

/-- **What follows once the slot is ready ends in one of the ways.** -/
theorem conducted_transfer {input : Bytes} (hlength : (Padding.pad input).length < 2 ^ 32)
    (p : Ready s slot) :
    (transfer s slot input).run.Meets heardSpec (Over s slot (Padding.pad input) T)
      (T ++ p.heard) := by
  have hmessage : messageLength (Padding.pad input) =
      .ok (UInt32.ofNat (Padding.pad input).length) := if_pos hlength
  simp only [transfer, hmessage, meets_action_bind]
  -- the two regions
  refine heard_view (c := .inputPointer s.handle slot) (f := id)
    (fun first source hfirst hsource => ?_) (fun first hfirst hnull => ?_)
    fun first code text hfatal => ?_
  rotate_left
  · exact ⟨_, List.append_assoc .., .nullInput p first hfirst hnull⟩
  · exact ⟨_, List.append_assoc .., .notLocated p first hfatal code text⟩
  let located : Located s slot := ⟨p, first, hfirst, source, hsource⟩
  rw [show T ++ p.heard ++ [.reply first] = T ++ located.heard from List.append_assoc ..]
  refine heard_view (c := .outputPointer s.handle slot) (f := id)
    (fun second target hsecond htarget => ?_) (fun second hsecond hnull => ?_)
    fun second code text hfatal => ?_
  rotate_left
  · exact ⟨_, List.append_assoc .., .nullOutput located second hsecond hnull⟩
  · exact ⟨_, List.append_assoc .., .notPrepared located second hfatal code text⟩
  let prepared : Prepared s slot := ⟨located, second, hsecond, target, htarget⟩
  rw [show T ++ located.heard ++ [.reply second] = T ++ prepared.heard from List.append_assoc ..]
  -- the message
  refine heard_copyIn (fun hfits => ?_) fun hlong => ⟨_, rfl, .tooLong prepared hlong⟩
  refine heard_request (fun sent hsent => ?_) fun sent code text hfatal => ?_
  rotate_left
  · exact ⟨_, append_step .., .notSent prepared hfits sent hfatal code text⟩
  let sending : Sent s slot (Padding.pad input) := ⟨prepared, hfits, sent, hsent⟩
  rw [show T ++ prepared.heard ++ [.stored source (Padding.pad input)] ++ [.reply sent] =
    T ++ sending.heard from append_step ..]
  refine (meets_lift _).2 (heard_log ?_)
  -- the output
  refine heard_request (fun waited hwaited => ?_) fun waited code text hfatal => ?_
  rotate_left
  · exact ⟨_, List.append_assoc .., .notWaited sending waited hfatal code text⟩
  let waiting : Waited s slot (Padding.pad input) := ⟨sending, waited, hwaited⟩
  rw [show T ++ sending.heard ++ [.reply waited] = T ++ waiting.heard from List.append_assoc ..]
  simp only [either_ok, meets_outcome]
  refine heard_copyOut (fun hfits data => ?_) fun hlong => ?_
  · refine heard_request (fun discarded hdiscarded => ?_) fun discarded code text hfatal => ?_
    · refine (meets_lift _).2 (heard_log ?_)
      exact ⟨_, append_step .., .answered waiting hfits data discarded hdiscarded⟩
    · exact ⟨_, append_step ..,
        .notDiscarded waiting hfits data discarded hfatal code text⟩
  · refine heard_request (fun discarded hdiscarded => ?_) fun discarded code text hfatal => ?_
    · exact ⟨_, List.append_assoc .., .oversized waiting hlong discarded hdiscarded⟩
    · exact ⟨_, List.append_assoc ..,
        .oversizedNotDiscarded waiting hlong discarded hfatal code text⟩

/-- A slot has said to one question after another that it is not ready. -/
def NotReady (s : Session) (slot : UInt32) (T : Transcript) : Prop :=
  ∃ asked : List (Reply (.inputFull s.handle slot)), T = asked.map .reply ∧
    ∀ reply ∈ asked, reply.status.isBenign = true ∧ reply.stored.getD false = true

/-- **A round is over, or the slot is not ready.** -/
theorem conducted_round {input : Bytes} (hlength : (Padding.pad input).length < 2 ^ 32)
    (hT : NotReady s slot T) :
    (round s slot input).Meets heardSpec
      (fun r T' => r.elim (NotReady s slot T') fun outcome =>
        ∃ T₀, NotReady s slot T₀ ∧ Over s slot (Padding.pad input) T₀ outcome T') T := by
  rw [round, Program.meets_bind]
  refine heard_request (fun reply hbenign => ?_) fun reply code text hfatal => ?_
  · cases hfull : reply.stored.getD false with
    | true =>
        obtain ⟨asked, rfl, hasked⟩ := hT
        refine ⟨asked ++ [reply], by simp, fun reply' hmem => ?_⟩
        rcases List.mem_append.1 hmem with hmem | hmem
        · exact hasked reply' hmem
        · rw [List.mem_singleton.1 hmem]
          exact ⟨hbenign, hfull⟩
    | false =>
        refine (Program.meets_bind _ _).2 ?_
        refine (conducted_transfer hlength ⟨reply, hbenign, hfull⟩).mono heardSpec_isMono ?_
        exact fun outcome T' hover => ⟨T, hT, hover⟩
  · exact ⟨T, hT, _, rfl, .notAsked reply hfatal code text⟩

namespace NotReady

variable {T' : Transcript} {outcome : Outcome Bytes}

/-- The calls of the rounds in which a slot is not ready. -/
theorem calls_eq (h : NotReady s slot T) :
    ∃ k, T.calls = List.replicate k (.inputFull s.handle slot) := by
  obtain ⟨asked, rfl, -⟩ := h
  refine ⟨asked.length, ?_⟩
  induction asked with
  | nil => rfl
  | cons reply asked ih => simp [ih, List.replicate_succ]

theorem allBenign (h : NotReady s slot T) : AllBenign T := by
  obtain ⟨asked, rfl, hasked⟩ := h
  intro x hx status hstatus
  obtain ⟨reply, hmem, rfl⟩ := List.mem_map.1 hx
  obtain rfl := Option.some_inj.1 hstatus
  exact (hasked reply hmem).1

theorem failsLast (h : NotReady s slot T) (hT' : FailsLast s slot T' outcome) :
    FailsLast s slot (T ++ T') outcome := by
  rcases hT' with hbenign | ⟨before, hbefore, c, reply, code, text, rfl, hfatal, houtcome⟩
  · exact Or.inl (allBenign_append.2 ⟨h.allBenign, hbenign⟩)
  · exact Or.inr ⟨T ++ before, allBenign_append.2 ⟨h.allBenign, hbefore⟩, c, reply, code, text,
      (List.append_assoc ..).symm, hfatal, houtcome⟩

theorem givenBack (h : NotReady s slot T) (hT' : GivenBack s slot T') :
    GivenBack s slot (T ++ T') := by
  obtain ⟨k, hcalls⟩ := h.calls_eq
  have hcount : (T ++ T').calls.count (.discard s.handle slot) =
      T'.calls.count (.discard s.handle slot) := by
    simp [calls_append, hcalls, List.count_replicate]
  have hcome : HasCome s slot (T ++ T') ↔ HasCome s slot T' := by
    constructor
    · rintro ⟨reply, hmem, hbenign⟩
      rcases List.mem_append.1 hmem with hmem | hmem
      · have hcall := mem_calls hmem
        rw [hcalls] at hcall
        cases List.eq_of_mem_replicate hcall
      · exact ⟨reply, hmem, hbenign⟩
    · rintro ⟨reply, hmem, hbenign⟩
      exact ⟨reply, List.mem_append_right _ hmem, hbenign⟩
  rw [GivenBack, hcount, hcome]
  exact hT'

end NotReady

/-- **The native calls of one job**, on every driver, when its exchange comes to an end: the slot is
asked until it is ready, and what is heard from the last question on is one of the ways in which a
job ends.  So the calls are questions, at least one, and a beginning of the script; the first call
that fails is the last one, and what the job comes to tells its code; and the output region is given
back once if the output has come, and else not at all. -/
theorem protocol_trace {σ : Type} (D : Driver σ) {input : Bytes}
    (hlength : (Padding.pad input).length < 2 ^ 32) {bound : Nat} {w : World σ}
    {outcome : Outcome Bytes}
    (hends : (D.attemptRounds (round s slot input) bound w).1 = some (some outcome)) :
    ∃ T T', D.roundsTranscript (round s slot input) bound w = T ++ T' ∧
      NotReady s slot T ∧ Conducted s slot (Padding.pad input) T' outcome ∧
      (∃ k calls, calls <+: script s slot (Padding.pad input) ∧
        (T ++ T').calls = List.replicate (k + 1) (.inputFull s.handle slot) ++ calls) ∧
      FailsLast s slot (T ++ T') outcome ∧ GivenBack s slot (T ++ T') := by
  have hheard := Program.Meets.heard_rounds (fun T hT => conducted_round hlength hT)
    ⟨[], rfl, by simp⟩ D hends
  obtain ⟨T, hT, T', heq, hconducted⟩ := hheard
  obtain ⟨k, hquestions⟩ := hT.calls_eq
  obtain ⟨calls, hprefix, hcalls⟩ := hconducted.calls_eq
  refine ⟨T, T', heq, hT, hconducted, ⟨k, calls, hprefix, ?_⟩, hT.failsLast hconducted.failsLast,
    hT.givenBack hconducted.givenBack⟩
  rw [calls_append, hquestions, hcalls, List.replicate_succ', List.append_assoc]
  rfl

end

/-! ### An output that does not fit -/

/-- A device with one slot, which is not ready at once; its answers do not fit, and giving back its
output region fails. -/
def overflowing : World Simulator where
  driver :=
    { Simulator.fresh { Simulator.Setup.standard with bufferCount := 1, bufferSize := 64 } with
      isOpen := true
      slots := [{ Simulator.Slot.idle (List.replicate 64 0) with busyPolls := 1 }]
      faults := [⟨.discard, some 0, .driverError⟩] }
  router := Log.Router.default

/-- The device answers with the message and the message again. -/
def twice (_ : UInt32) (message : Bytes) : Bytes := message ++ message

/-- The rounds of a job on it. -/
def overflow : Program (Option (Outcome Bytes)) := round ⟨Simulator.token, 64⟩ 0 [1]

/-- The job is refused the output, although giving its region back fails later. -/
theorem protocol_trace_overflow :
    ∃ T T', (Simulator.driver twice).roundsTranscript overflow 3 overflowing = T ++ T' ∧
      Conducted ⟨Simulator.token, 64⟩ 0 (Padding.pad [1]) T' (.error (.bufferBounds 128 64)) ∧
      (T ++ T').calls.count (.discard Simulator.token 0) = 1 ∧ ¬AllBenign (T ++ T') := by
  have hends : ((Simulator.driver twice).attemptRounds overflow 3 overflowing).1 =
      some (some (.error (.bufferBounds 128 64))) := by decide +kernel
  have hdiscards : ((Simulator.driver twice).roundsTranscript overflow 3 overflowing).calls.count
      (.discard Simulator.token 0) = 1 := by decide +kernel
  have hfatal : ((Simulator.driver twice).roundsTranscript overflow 3 overflowing).any
      (fun x => x.status? = some .driverError) = true := by decide +kernel
  obtain ⟨T, T', heq, -, hconducted, -⟩ :=
    protocol_trace (Simulator.driver twice) (by decide) hends
  rw [overflow, heq] at hdiscards hfatal
  refine ⟨T, T', heq, hconducted, hdiscards, fun hbenign => ?_⟩
  obtain ⟨x, hx, hstatus⟩ := List.any_eq_true.1 hfatal
  cases hbenign x hx _ (decide_eq_true_iff.1 hstatus)

end Exchange

end Offload
