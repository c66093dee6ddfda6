/-
**How long a job asks whether its slot is ready.**

A job asks until the slot is ready, and the asking has no bound of its own.  It ends because every
answer that the slot is not ready uses up one of its busy polls, and faults may end it sooner.  A
question that is struck by a fault with the code of success is answered like any other.  The first
fault with another code ends the asking, unless the slot has become ready before: a timeout passes
for the answer that the slot is ready, and every other code fails the job.

Main definitions:

* `Simulator.Fault.fails`, `Simulator.letThrough` — the faults that fail the questions about a slot,
  and how many faults with the code of success strike questions before the first of them;
* `Simulator.strikes` — the codes of all faults that strike the questions about a slot;
* `Simulator.Slot.asked` — a slot that has answered a number of questions;
* `Simulator.Finds` — what a question finds;
* `Exchange.Asks` — **an exchange asks a number of times and then goes on**;
* `Exchange.Transfers` — it goes on as with a slot that is ready.

Main results:

* `Simulator.strikes_eq` — the codes that strike the questions about a slot, in their order;
* `Simulator.Finds.answered`, `Simulator.Finds.struck` — a question is answered and counted, or it
  ends with the code of a fault;
* `Exchange.asks_busy` — questions that find the slot not ready;
* `Exchange.readiness_loop_ends` — **the asking ends**, after how many questions, and how.
-/

import Mathlib.Algebra.Group.Nat.Defs
import Offload.Proofs.Device.Kinds
import Offload.Proofs.Native.Reaches
import Offload.Proofs.Simulator.Apart
import Offload.Proofs.Simulator.Busy
import Offload.Proofs.Simulator.Obliges

set_option autoImplicit false
set_option relaxedAutoImplicit false

namespace Offload

open Native

namespace Simulator

/-! ### The faults that questions meet -/

/-- The fault fails a question about the slot. -/
def Fault.fails (slot : UInt32) (f : Fault) : Bool :=
  f.isFor .inputFull (some slot) && f.status ≠ .success

/-- How many faults with the code of success strike questions about the slot before one fails. -/
def letThrough (slot : UInt32) (faults : List Fault) : Nat :=
  (faults.takeWhile fun f => !f.fails slot).countP (·.isFor .inputFull (some slot))

/-- The codes of the faults that strike the questions about the slot, in their order. -/
def strikes (slot : UInt32) (faults : List Fault) : List Status :=
  (faults.filter (·.isFor .inputFull (some slot))).map (·.status)

section

variable {slot : UInt32} {t : Slot} {codes : List Status} {code : Status} {s : Simulator}

theorem first?_eq_head? (slot : UInt32) (faults : List Fault) :
    first? .inputFull (some slot) faults = (strikes slot faults).head? := by
  induction faults with
  | nil => rfl
  | cons f faults ih =>
      rw [first?_cons]
      cases hf : f.isFor .inputFull (some slot) with
      | true => simp [strikes, hf]
      | false => simpa [strikes, hf] using ih

/-- A question uses up the first of them. -/
theorem strikes_remaining (slot : UInt32) (faults : List Fault) :
    strikes slot (remaining .inputFull (some slot) faults) = (strikes slot faults).tail := by
  induction faults with
  | nil => rfl
  | cons f faults ih =>
      rw [remaining_cons]
      cases hf : f.isFor .inputFull (some slot) with
      | true => simp [strikes, hf]
      | false => simpa [strikes, hf] using ih

/-- **The codes that strike the questions about a slot**: some of success, and then that of the first
fault that fails one, if there is such a fault. -/
theorem strikes_eq (slot : UInt32) (faults : List Fault) :
    ∃ rest, strikes slot faults = List.replicate (letThrough slot faults) .success ++ rest ∧
      rest.head? = (faults.find? (·.fails slot)).map (·.status) := by
  induction faults with
  | nil => exact ⟨[], rfl, rfl⟩
  | cons f faults ih =>
      obtain ⟨rest, hstrikes, hrest⟩ := ih
      cases hfor : f.isFor .inputFull (some slot) with
      | false =>
          have hfails : f.fails slot = false := by simp [Fault.fails, hfor]
          refine ⟨rest, ?_, ?_⟩
          · simpa [strikes, letThrough, hfor, hfails] using hstrikes
          · simpa [hfails] using hrest
      | true =>
          by_cases hstatus : f.status = .success
          · have hfails : f.fails slot = false := by simp [Fault.fails, hstatus]
            refine ⟨rest, ?_, ?_⟩
            · simpa [strikes, letThrough, hfor, hfails, hstatus, List.replicate_succ] using hstrikes
            · simpa [hfails] using hrest
          · have hfails : f.fails slot = true := by simp [Fault.fails, hfor, hstatus]
            refine ⟨strikes slot (f :: faults), ?_, ?_⟩
            · simp [letThrough, hfails]
            · simp [strikes, hfor, hfails]

/-- Without a fault that fails a question they are all of success. -/
theorem strikes_of_none {faults : List Fault} (h : faults.find? (·.fails slot) = none) :
    strikes slot faults = List.replicate (letThrough slot faults) .success := by
  obtain ⟨rest, hstrikes, hrest⟩ := strikes_eq slot faults
  rw [h, Option.map_none, List.head?_eq_none_iff] at hrest
  rw [hstrikes, hrest, List.append_nil]

/-- The code of the first fault that fails a question comes after those of success. -/
theorem strikes_of_some {faults : List Fault} {f : Fault}
    (h : faults.find? (·.fails slot) = some f) :
    f.status ≠ .success ∧ ∃ rest, strikes slot faults =
      List.replicate (letThrough slot faults) .success ++ f.status :: rest := by
  have hfails : f.fails slot = true := List.find?_some h
  simp only [Fault.fails, Bool.and_eq_true, decide_eq_true_eq] at hfails
  refine ⟨hfails.2, ?_⟩
  obtain ⟨rest, hstrikes, hrest⟩ := strikes_eq slot faults
  rw [h, Option.map_some] at hrest
  obtain ⟨later, rfl⟩ := List.head?_eq_some_iff.1 hrest
  exact ⟨later, hstrikes⟩

theorem eq_success_of_mem_take {m j : Nat} (hm : m ≤ j)
    (hcode : code ∈ (List.replicate j Status.success ++ codes).take m) : code = .success := by
  have hlength : m ≤ (List.replicate j Status.success).length := by rwa [List.length_replicate]
  rw [List.take_append_of_le_length hlength] at hcode
  exact List.eq_of_mem_replicate (List.mem_of_mem_take hcode)

/-! ### Slots that are asked -/

/-- A slot that has answered `n` questions. -/
def Slot.asked (n : Nat) (t : Slot) : Slot :=
  { t with polls := t.polls + n, busyPolls := UInt32.ofNat (t.busyPolls.toNat - n) }

@[simp] theorem Slot.toNat_busyPolls_asked (n : Nat) (t : Slot) :
    (t.asked n).busyPolls.toNat = t.busyPolls.toNat - n :=
  UInt32.toNat_ofNat_of_lt' (Nat.lt_of_le_of_lt (Nat.sub_le _ _) t.busyPolls.toNat_lt)

@[simp] theorem Slot.asked_zero (t : Slot) : t.asked 0 = t := by simp [asked]

theorem Slot.asked_asked (m n : Nat) (t : Slot) : (t.asked m).asked n = t.asked (m + n) := by
  have hpolls : (UInt32.ofNat (t.busyPolls.toNat - m)).toNat = t.busyPolls.toNat - m :=
    t.toNat_busyPolls_asked m
  simp only [asked, hpolls, Nat.sub_sub, Nat.add_assoc]

theorem Slot.asked_one (t : Slot) :
    t.asked 1 =
      { t with
        polls := t.polls + 1
        busyPolls := if t.busyPolls = 0 then 0 else t.busyPolls - 1 } := by
  have hpolls : (t.asked 1).busyPolls = if t.busyPolls = 0 then 0 else t.busyPolls - 1 := by
    refine UInt32.toNat_inj.1 ?_
    rw [toNat_busyPolls_asked, busyPolls_pred]
  exact congrArg (fun busyPolls => { t with polls := t.polls + 1, busyPolls }) hpolls

/-! ### One question -/

/-- What a question about a slot finds: an open device with such a slot, the state of the slot, and
the codes of the faults that strike the questions about it. -/
structure Finds (slot : UInt32) (t : Slot) (codes : List Status) (s : Simulator) : Prop where
  isOpen : s.isOpen = true
  slot_lt : slot < s.setup.bufferCount
  slot_eq : s.slot? slot = some t
  codes_eq : strikes slot s.faults = codes

/-- A question about a slot leaves the others alone. -/
theorem others_inputFull (compute : UInt32 → Bytes → Bytes) (h : Option Handle) {i : UInt32}
    (hi : i ≠ slot) : (call compute (.inputFull h slot) s).2.slot? i = s.slot? i := by
  refine (touches_call compute (.inputFull h slot)).others i.toNat fun heq => hi ?_
  exact (UInt32.toNat_inj.1 (Option.some_inj.1 heq)).symm

/-- What a question leaves, as far as the next one finds it. -/
theorem Finds.after (h : Finds slot t codes s) (compute : UInt32 → Bytes → Bytes) {t' : Slot}
    (ht' : (call compute (.inputFull (some token) slot) s).2.slot? slot = some t') :
    Finds slot t' codes.tail (call compute (.inputFull (some token) slot) s).2 := by
  have htouches := touches_call (s := s) compute (.inputFull (some token) slot)
  have hfaults : (call compute (.inputFull (some token) slot) s).2.faults =
      remaining .inputFull (some slot) s.faults :=
    faults_reply compute false (.inputFull (some token) slot) s
  refine ⟨(htouches.isOpen rfl).trans h.isOpen, ?_, ht', ?_⟩
  · rw [htouches.setup]
    exact h.slot_lt
  · rw [hfaults, strikes_remaining, h.codes_eq]

/-- **A question is answered and counted**, unless it is struck by a fault with another code than
that of success. -/
theorem Finds.answered (h : Finds slot t codes s) (compute : UInt32 → Bytes → Bytes)
    (hcode : ∀ code, codes.head? = some code → code = .success) :
    (call compute (.inputFull (some token) slot) s).1 = .value (decide (0 < t.busyPolls)) ∧
      Finds slot (t.asked 1) codes.tail (call compute (.inputFull (some token) slot) s).2 := by
  have hv := validate_of_open h.isOpen h.slot_lt
  obtain ⟨hslots, -⟩ := slots_enter (s := s) .inputFull (some (some token)) (some slot)
  have hslot : (s.enter .inputFull (some (some token)) (some slot)).2.slot? slot = some t := by
    rw [slot?, hslots]
    exact h.slot_eq
  have hfirst : first? .inputFull (some slot) s.faults = codes.head? := by
    rw [first?_eq_head?, h.codes_eq]
  have hentered : (s.enter .inputFull (some (some token)) (some slot)).1 = .success := by
    rcases enter_cases .inputFull (some (some token)) (some slot) hv with
      ⟨code, hcode', hne, -⟩ | ⟨-, hentered⟩
    · exact absurd (hcode code (hfirst.symm.trans hcode')) hne
    · exact hentered
  refine ⟨?_, h.after compute ?_⟩
  · simp only [call, proceed, if_pos hentered, hslot, Option.map_some, Option.getD_some]
  · simp only [call, proceed, if_pos hentered, slot?_modifySlot, if_true, hslot,
      Option.map_some, Slot.asked_one]

/-- **A question that is struck by a fault with another code** ends with this code; it is not counted,
and the slot is as it was. -/
theorem Finds.struck (h : Finds slot t (code :: codes) s) (compute : UInt32 → Bytes → Bytes)
    (hne : code ≠ .success) :
    let r := call compute (.inputFull (some token) slot) s
    r.1 = .plain code ∧ Finds slot t codes r.2 ∧ r.2.lastError = code.code ∧
      r.2.lastErrorText = injected .inputFull := by
  have hfirst : first? .inputFull (some slot) s.faults = some code := by
    rw [first?_eq_head?, h.codes_eq, List.head?_cons]
  have hr : call compute (.inputFull (some token) slot) s = (.plain code,
      ({ s with faults := remaining .inputFull (some slot) s.faults }.fail code
        (injected .inputFull)).2) := by
    simp only [call, enter_eq, hfirst, proceed]
    exact if_neg hne
  have hslot : (call compute (.inputFull (some token) slot) s).2.slot? slot = some t := by
    rw [hr]
    exact h.slot_eq
  have hafter := h.after compute hslot
  rw [hr] at hafter ⊢
  exact ⟨rfl, hafter, rfl, rfl⟩

end

end Simulator

namespace Exchange

open Simulator

/-! ### Asking and going on -/

section

variable {σ : Type} {D : Driver σ} {s : Session} {slot : UInt32} {input : Bytes}

/-- An exchange that begins in `w` asks `n` times, and what follows is `rest`, from `w'` on.  With
fewer rounds it is still asking, and more rounds than that change nothing. -/
structure Asks (D : Driver σ) (s : Session) (slot : UInt32) (input : Bytes) (w : World σ) (n : Nat)
    (rest : Program (Outcome Bytes)) (w' : World σ) : Prop where
  unended : ∀ bound < n, (D.attemptRounds (round s slot input) bound w).1 = none
  ended : ∀ extra, D.attemptRounds (round s slot input) (n + extra) w =
    (some (D.attempt rest w').1, (D.attempt rest w').2)
  calls : ∀ extra, (D.roundsTranscript (round s slot input) (n + extra) w).calls =
    List.replicate n (.inputFull s.handle slot) ++ Transcript.calls (D.attemptTranscript rest w')

/-- An exchange that asks `n` times goes on as with a slot that is ready: it asks no more, and the
next call is for the region of its input.  Only a message whose length no call can take is refused
before. -/
structure Transfers (D : Driver σ) (s : Session) (slot : UInt32) (input : Bytes) (w : World σ)
    (n : Nat) (w' : World σ) : Prop extends
    Asks D s slot input w n (transfer s slot input).run w' where
  no_question : ∀ h i, .inputFull h i ∉
    Transcript.calls (D.attemptTranscript (transfer s slot input).run w')
  lookup : (Padding.pad input).length < 2 ^ 32 → ∃ later,
    Transcript.calls (D.attemptTranscript (transfer s slot input).run w') =
      .inputPointer s.handle slot :: later
  refused : 2 ^ 32 ≤ (Padding.pad input).length →
    D.attempt (transfer s slot input).run w' =
      (some (.error (.bufferBounds (Padding.pad input).length (2 ^ 32 - 1))), w')

/-- What a round comes to after its question. -/
def afterQuestion (s : Session) (slot : UInt32) (input : Bytes) :
    Outcome Bool → Program (Option (Outcome Bytes))
  | .ok true => .done none
  | .ok false => (transfer s slot input).run >>= fun r => .done (some r)
  | .error e => .done (some (.error e))

theorem round_eq (s : Session) (slot : UInt32) (input : Bytes) :
    round s slot input =
      (request (.inputFull s.handle slot) false).run >>= afterQuestion s slot input := by
  refine congrArg (_ >>= ·) (funext fun r => ?_)
  match r with
  | .ok true => rfl
  | .ok false => rfl
  | .error e => rfl

variable {w w₁ w' : World σ} {n : Nat} {rest : Program (Outcome Bytes)} {T : Transcript}

/-- **One question more**, which finds the slot not ready. -/
theorem Asks.again (h : Asks D s slot input w₁ n rest w')
    (hround : D.Reaches (round s slot input) w T (.done none) w₁)
    (hT : T.calls = [.inputFull s.handle slot]) : Asks D s slot input w (n + 1) rest w' where
  unended bound hbound := by
    cases bound with
    | zero => rfl
    | succ bound =>
        rw [(Driver.attemptRounds_of_again hround bound).1]
        exact h.unended bound (Nat.lt_of_succ_lt_succ hbound)
  ended extra := by
    rw [Nat.add_right_comm, (Driver.attemptRounds_of_again hround (n + extra)).1]
    exact h.ended extra
  calls extra := by
    rw [Nat.add_right_comm, (Driver.attemptRounds_of_again hround (n + extra)).2, calls_append, hT,
      h.calls extra]
    rfl

/-- **The last question.** -/
theorem asks_once
    (hround : D.Reaches (round s slot input) w T (rest >>= fun r => .done (some r)) w')
    (hT : T.calls = [.inputFull s.handle slot]) : Asks D s slot input w 1 rest w' where
  unended bound hbound := by
    obtain rfl : bound = 0 := Nat.lt_one_iff.1 hbound
    rfl
  ended extra := by
    rw [Nat.add_comm]
    exact (Driver.attemptRounds_of_ends hround extra).1
  calls extra := by
    rw [Nat.add_comm, (Driver.attemptRounds_of_ends hround extra).2, calls_append, hT]
    rfl

/-- The kind of the operations that ask no question. -/
def IsNoQuestion (o : Op) : Prop := ∀ h i, o ≠ .call (.inputFull h i)

theorem admitsTransfers_isNoQuestion (h : Handle) : AdmitsTransfers h IsNoQuestion where
  lastError := nofun
  lastErrorText := nofun
  line _ _ := nofun
  onSlot c hhandle _ hquestion h' i heq := by
    obtain rfl : c = .inputFull h' i := by simpa using heq
    obtain rfl : h' = some h := Option.some_inj.1 hhandle
    exact hquestion i rfl
  store _ _ := nofun
  fetch _ _ := nofun

/-- What follows once a slot is ready asks no more. -/
theorem no_question_transfer (D : Driver σ) (s : Session) (slot : UInt32) (input : Bytes)
    (w : World σ) (h : Option Handle) (i : UInt32) :
    .inputFull h i ∉ Transcript.calls (D.attemptTranscript (transfer s slot input).run w) := by
  intro hmem
  obtain ⟨x, hx, hcall⟩ := List.mem_filterMap.1 hmem
  have hkind := (every_transfer (admitsTransfers_isNoQuestion s.handle) slot input).heard_attempt D hx
  obtain ⟨o, answer⟩ := x
  cases o with
  | call c =>
      obtain rfl := Option.some_inj.1 hcall
      exact hkind _ _ rfl
  | _ => cases hcall

theorem lookup_transfer {input : Bytes} {w : World σ}
    (htrap : D.trapped? (.call (.inputPointer s.handle slot)) w = none)
    (hlength : (Padding.pad input).length < 2 ^ 32) :
    ∃ later, Transcript.calls (D.attemptTranscript (transfer s slot input).run w) =
      .inputPointer s.handle slot :: later := by
  have hmessage : messageLength (Padding.pad input) =
      .ok (UInt32.ofNat (Padding.pad input).length) := if_pos hlength
  have hfirst : ∃ next, (transfer s slot input).run =
      .step (.call (.inputPointer s.handle slot)) next := by
    simp only [transfer, hmessage]
    exact ⟨_, rfl⟩
  obtain ⟨next, hnext⟩ := hfirst
  rw [hnext, Driver.attemptTranscript, htrap]
  exact ⟨_, rfl⟩

/-- A message whose length no call can take is refused at once. -/
theorem refused_transfer (D : Driver σ) (s : Session) (slot : UInt32) {input : Bytes} (w : World σ)
    (hlength : 2 ^ 32 ≤ (Padding.pad input).length) :
    D.attempt (transfer s slot input).run w =
      (some (.error (.bufferBounds (Padding.pad input).length (2 ^ 32 - 1))), w) := by
  have hmessage : messageLength (Padding.pad input) =
      .error (.bufferBounds (Padding.pad input).length (2 ^ 32 - 1)) :=
    if_neg (Nat.not_lt.2 hlength)
  simp only [transfer, hmessage]
  rfl

end

/-! ### Asking the simulated device -/

section

variable {slot : UInt32} {t : Slot} {codes : List Status} {code : Status} {size n : Nat}
  {input : Bytes} {w w₁ w' : World Simulator} {rest : Program (Outcome Bytes)}

theorem trapped?_of_finds (compute : UInt32 → Bytes → Bytes) (hw : Finds slot t codes w.driver)
    {c : Call} (hc : c.slot? = some slot) : (driver compute).trapped? (.call c) w = none := by
  have hcontent : w.driver.content? slot.toNat = some t.content :=
    congrArg (Option.map Slot.content) hw.slot_eq
  rw [Driver.trapped?, show (driver compute).traps c w.driver = none from
    traps_eq_none c hc hcontent]
  rfl

/-- The question that a session asks about a slot. -/
abbrev question (slot : UInt32) : Call := .inputFull token slot

theorem reaches_of_passes (compute : UInt32 → Bytes → Bytes) (size : Nat) (input : Bytes)
    (hw : Finds slot t codes w.driver)
    (hbenign : (Simulator.call compute (question slot) w.driver).1.status.isBenign = true) :
    ∃ T w₁, (driver compute).Reaches (round ⟨token, size⟩ slot input) w T
        (afterQuestion ⟨token, size⟩ slot input
          (.ok ((Simulator.call compute (question slot) w.driver).1.stored.getD false))) w₁ ∧
      T.calls = [question slot] ∧
      w₁.driver = (Simulator.call compute (question slot) w.driver).2 := by
  rw [round_eq]
  exact ⟨_, _, Driver.reaches_of_benign (trapped?_of_finds compute hw rfl) hbenign, by simp, rfl⟩

theorem reaches_of_fails (compute : UInt32 → Bytes → Bytes) (size : Nat) (input : Bytes)
    (hw : Finds slot t codes w.driver)
    (hfatal : (Simulator.call compute (question slot) w.driver).1.status.isBenign = false) :
    let r := Simulator.call compute (question slot) w.driver
    let e : Error := .deviceOperation r.1.status r.2.lastError r.2.lastErrorText
    ∃ T w₁, (driver compute).Reaches (round ⟨token, size⟩ slot input) w T
        ((.done (.error e) : Program (Outcome Bytes)) >>= fun r => .done (some r)) w₁ ∧
      T.calls = [question slot] ∧ w₁.driver = r.2 := by
  intro r e
  rw [round_eq]
  obtain ⟨router, hreaches⟩ :=
    Driver.reaches_of_fatal (trapped?_of_finds compute hw (rfl : (question slot).slot? = _)) hfatal
  exact ⟨_, _, hreaches, by simp, rfl⟩

/-- **Questions that find the slot not ready.**  As long as the slot has busy polls left and no
question is struck by a fault with another code than that of success, there is another one. -/
theorem asks_busy (compute : UInt32 → Bytes → Bytes) (size : Nat) (input : Bytes) (m : Nat)
    (hw : Finds slot t codes w.driver) (hm : m ≤ t.busyPolls.toNat)
    (hcodes : ∀ code ∈ codes.take m, code = .success) :
    ∃ w₁, Finds slot (t.asked m) (codes.drop m) w₁.driver ∧
      (∀ i, i ≠ slot → w₁.driver.slot? i = w.driver.slot? i) ∧
      ∀ {n rest w'}, Asks (driver compute) ⟨token, size⟩ slot input w₁ n rest w' →
        Asks (driver compute) ⟨token, size⟩ slot input w (n + m) rest w' := by
  induction m generalizing w t codes with
  | zero => exact ⟨w, by simpa using hw, fun _ _ => rfl, fun h => h⟩
  | succ m ih =>
      have hhead (code : Status) (hcode : codes.head? = some code) : code = .success := by
        cases codes with
        | nil => cases hcode
        | cons c codes =>
            obtain rfl : c = code := Option.some_inj.1 hcode
            exact hcodes c List.mem_cons_self
      obtain ⟨hreply, hfinds⟩ := hw.answered compute hhead
      obtain ⟨T, w₁, hround, hT, hw₁⟩ :=
        reaches_of_passes compute size input hw (by rw [hreply]; rfl)
      have hpos : 0 < t.busyPolls := UInt32.lt_iff_toNat_lt.2 (Nat.lt_of_lt_of_le m.succ_pos hm)
      rw [hreply, Reply.stored_value, Option.getD_some, decide_eq_true hpos] at hround
      rw [← hw₁] at hfinds
      have htail (code : Status) (hcode : code ∈ codes.tail.take m) : code = .success := by
        cases codes with
        | nil => cases List.mem_of_mem_take hcode
        | cons c codes => exact hcodes code (List.mem_cons_of_mem c hcode)
      have hleft : m ≤ (t.asked 1).busyPolls.toNat := by
        rw [Slot.toNat_busyPolls_asked]
        exact Nat.le_sub_one_of_lt hm
      obtain ⟨w₂, hfinds₂, hothers, hasks⟩ := ih hfinds hleft htail
      refine ⟨w₂, ?_, fun i hi => ?_, fun h => (hasks h).again hround hT⟩
      · rwa [Slot.asked_asked, Nat.add_comm, List.drop_tail] at hfinds₂
      · rw [hothers i hi, hw₁, others_inputFull compute _ hi]

/-- **The question that finds the slot ready.** -/
theorem asks_ready (compute : UInt32 → Bytes → Bytes) (size : Nat) (input : Bytes)
    (hw : Finds slot t codes w.driver) (hpolls : t.busyPolls.toNat = 0)
    (hcode : ∀ code, codes.head? = some code → code = .success) :
    ∃ w₁, Finds slot (t.asked 1) codes.tail w₁.driver ∧
      (∀ i, i ≠ slot → w₁.driver.slot? i = w.driver.slot? i) ∧
      Asks (driver compute) ⟨token, size⟩ slot input w 1 (transfer ⟨token, size⟩ slot input).run
        w₁ := by
  obtain ⟨hreply, hfinds⟩ := hw.answered compute hcode
  obtain ⟨T, w₁, hround, hT, hw₁⟩ :=
    reaches_of_passes compute size input hw (by rw [hreply]; rfl)
  have hready : ¬0 < t.busyPolls := by
    rw [UInt32.lt_iff_toNat_lt, hpolls]
    exact Nat.lt_irrefl 0
  rw [hreply, Reply.stored_value, Option.getD_some, decide_eq_false hready] at hround
  rw [← hw₁] at hfinds
  refine ⟨w₁, hfinds, fun i hi => ?_, asks_once hround hT⟩
  rw [hw₁, others_inputFull compute _ hi]

/-- **The question that is struck** by a fault with another code than that of success: a timeout
passes for the answer that the slot is ready, and any other code fails the job. -/
theorem asks_struck (compute : UInt32 → Bytes → Bytes) (size : Nat) (input : Bytes)
    (hw : Finds slot t (code :: codes) w.driver) (hne : code ≠ .success) :
    ∃ w₁, Finds slot t codes w₁.driver ∧
      (∀ i, i ≠ slot → w₁.driver.slot? i = w.driver.slot? i) ∧
      (code = .waitTimeout → Asks (driver compute) ⟨token, size⟩ slot input w 1
        (transfer ⟨token, size⟩ slot input).run w₁) ∧
      (code ≠ .waitTimeout → Asks (driver compute) ⟨token, size⟩ slot input w 1
        (.done (.error (.deviceOperation code code.code (injected .inputFull)))) w₁) := by
  obtain ⟨hreply, hfinds, hcode, htext⟩ := hw.struck compute hne
  have hothers {w₁ : World Simulator}
      (hw₁ : w₁.driver = (Simulator.call compute (question slot) w.driver).2) (i : UInt32)
      (hi : i ≠ slot) : w₁.driver.slot? i = w.driver.slot? i := by
    rw [hw₁, others_inputFull compute _ hi]
  by_cases htimeout : code = .waitTimeout
  · obtain ⟨T, w₁, hround, hT, hw₁⟩ :=
      reaches_of_passes compute size input hw (by rw [hreply, htimeout]; rfl)
    rw [hreply] at hround
    rw [← hw₁] at hfinds
    exact ⟨w₁, hfinds, hothers hw₁, fun _ => asks_once hround hT, fun h => absurd htimeout h⟩
  · have hfatal : code.isBenign = false := by
      cases hbenign : code.isBenign with
      | false => rfl
      | true => exact absurd ((code.isBenign_iff.1 hbenign).resolve_left hne) htimeout
    obtain ⟨T, w₁, hround, hT, hw₁⟩ :=
      reaches_of_fails compute size input hw (by rw [hreply]; exact hfatal)
    rw [hreply, hcode, htext] at hround
    rw [← hw₁] at hfinds
    exact ⟨w₁, hfinds, hothers hw₁, fun h => absurd h htimeout, fun _ => asks_once hround hT⟩

/-- The asking goes on to the transfer in a state in which there is such a slot. -/
theorem Asks.transfers {compute : UInt32 → Bytes → Bytes}
    (h : Asks (driver compute) ⟨token, size⟩ slot input w n
      (transfer ⟨token, size⟩ slot input).run w')
    (hw' : Finds slot t codes w'.driver) :
    Transfers (driver compute) ⟨token, size⟩ slot input w n w' where
  toAsks := h
  no_question := no_question_transfer _ _ slot input w'
  lookup := lookup_transfer (trapped?_of_finds compute hw' rfl)
  refused := refused_transfer _ _ slot w'

/-- **The asking uses up all busy polls** if no fault ends it before: then there is one question for
each of them, and one more. -/
theorem transfers_unless_struck (compute : UInt32 → Bytes → Bytes) (size : Nat) (input : Bytes)
    (hw : Finds slot t codes w.driver)
    (hcodes : ∀ code ∈ codes.take (t.busyPolls.toNat + 1), code = .success) :
    ∃ w', w'.driver.slot? slot = some (t.asked (t.busyPolls.toNat + 1)) ∧
      (∀ i, i ≠ slot → w'.driver.slot? i = w.driver.slot? i) ∧
      Transfers (driver compute) ⟨token, size⟩ slot input w (t.busyPolls.toNat + 1) w' := by
  have hbusy (code : Status) (hcode : code ∈ codes.take t.busyPolls.toNat) : code = .success :=
    hcodes code (List.take_subset_take_left _ (Nat.le_succ _) hcode)
  obtain ⟨w₁, hfinds₁, hothers₁, hasks₁⟩ :=
    asks_busy compute size input t.busyPolls.toNat hw (Nat.le_refl _) hbusy
  have hlast (code : Status) (hcode : (codes.drop t.busyPolls.toNat).head? = some code) :
      code = .success := by
    rw [List.head?_drop] at hcode
    refine hcodes code (List.mem_of_getElem? (i := t.busyPolls.toNat) ?_)
    rw [List.getElem?_take_of_lt (Nat.lt_succ_self _), hcode]
  obtain ⟨w', hfinds, hothers, hasks⟩ := asks_ready compute size input hfinds₁ (by simp) hlast
  refine ⟨w', ?_, fun i hi => (hothers i hi).trans (hothers₁ i hi), ?_⟩
  · rw [hfinds.slot_eq, Slot.asked_asked]
  · rw [Nat.add_comm]
    exact (hasks₁ hasks).transfers hfinds

/-- **The asking ends with the question that a fault fails**, if it comes to that. -/
theorem asks_until_struck (compute : UInt32 → Bytes → Bytes) (size : Nat) (input : Bytes) {j : Nat}
    (hw : Finds slot t (List.replicate j .success ++ code :: codes) w.driver)
    (hne : code ≠ .success) (hj : j ≤ t.busyPolls.toNat) :
    ∃ w', w'.driver.slot? slot = some (t.asked j) ∧
      (∀ i, i ≠ slot → w'.driver.slot? i = w.driver.slot? i) ∧
      (code = .waitTimeout →
        Transfers (driver compute) ⟨token, size⟩ slot input w (j + 1) w') ∧
      (code ≠ .waitTimeout → Asks (driver compute) ⟨token, size⟩ slot input w (j + 1)
        (.done (.error (.deviceOperation code code.code (injected .inputFull)))) w') := by
  obtain ⟨w₁, hfinds₁, hothers₁, hasks₁⟩ :=
    asks_busy compute size input j hw hj fun _ => eq_success_of_mem_take (Nat.le_refl j)
  rw [List.drop_left' List.length_replicate] at hfinds₁
  obtain ⟨w', hfinds, hothers, hpasses, hfails⟩ := asks_struck compute size input hfinds₁ hne
  rw [Nat.add_comm j 1]
  refine ⟨w', hfinds.slot_eq, fun i hi => (hothers i hi).trans (hothers₁ i hi), fun h => ?_,
    fun h => hasks₁ (hfails h)⟩
  exact (hasks₁ (hpasses h)).transfers hfinds

/-- **The asking ends** after at most one question more than the slot has busy polls, and leaves the
other slots alone.  Without a fault that fails a question there is one question for each busy poll
and one more, all of them are counted, and the job goes on to the regions.  Otherwise the asking ends
with the first such fault, unless the slot is ready before that: the question is not counted and
leaves the busy polls alone, a timeout passes, and every other code fails the job. -/
theorem readiness_loop_ends (compute : UInt32 → Bytes → Bytes) {s : Session} (input : Bytes)
    (hs : s.handle = token) (hopen : w.driver.isOpen = true)
    (hslot : slot < w.driver.setup.bufferCount) (ht : w.driver.slot? slot = some t) :
    let b := t.busyPolls.toNat
    let j := letThrough slot w.driver.faults
    ∃ n ≤ b + 1, ∃ w' : World Simulator,
      (∀ i, i ≠ slot → w'.driver.slot? i = w.driver.slot? i) ∧
      ((∀ f ∈ w.driver.faults, f.fails slot = false) →
        n = b + 1 ∧
        w'.driver.slot? slot = some { t with polls := t.polls + (b + 1), busyPolls := 0 } ∧
        Transfers (driver compute) s slot input w n w') ∧
      ∀ f, w.driver.faults.find? (·.fails slot) = some f →
        n = min (b + 1) (j + 1) ∧
        (b < j →
          w'.driver.slot? slot = some { t with polls := t.polls + (b + 1), busyPolls := 0 } ∧
          Transfers (driver compute) s slot input w n w') ∧
        (j ≤ b →
          w'.driver.slot? slot =
            some { t with polls := t.polls + j, busyPolls := UInt32.ofNat (b - j) } ∧
          (f.status = .waitTimeout → Transfers (driver compute) s slot input w n w') ∧
          (f.status ≠ .waitTimeout → Asks (driver compute) s slot input w n
            (.done (.error (.deviceOperation f.status f.status.code (injected .inputFull)))) w')) := by
  intro b j
  obtain ⟨handle, size⟩ := s
  obtain rfl : handle = token := hs
  have hall : t.asked (b + 1) = { t with polls := t.polls + (b + 1), busyPolls := 0 } := by
    simp [Slot.asked, b]
  cases hfind : w.driver.faults.find? (·.fails slot) with
  | none =>
      have hw : Finds slot t (List.replicate j .success) w.driver :=
        ⟨hopen, hslot, ht, strikes_of_none hfind⟩
      obtain ⟨w', ht', hothers, htransfers⟩ :=
        transfers_unless_struck compute size input hw fun _ hcode =>
          List.eq_of_mem_replicate (List.mem_of_mem_take hcode)
      exact ⟨b + 1, Nat.le_refl _, w', hothers, fun _ => ⟨rfl, hall ▸ ht', htransfers⟩, nofun⟩
  | some f =>
      obtain ⟨hstatus, rest, hstrikes⟩ := strikes_of_some hfind
      have hw : Finds slot t (List.replicate j .success ++ f.status :: rest) w.driver :=
        ⟨hopen, hslot, ht, hstrikes⟩
      have hfails : f.fails slot = true := List.find?_some hfind
      -- the case without a fault that fails a question does not arise
      have hsome : ¬∀ f ∈ w.driver.faults, f.fails slot = false := fun h =>
        Bool.false_ne_true ((h f (List.mem_of_find?_eq_some hfind)).symm.trans hfails)
      rcases Nat.lt_or_ge b j with hlt | hle
      · obtain ⟨w', ht', hothers, htransfers⟩ :=
          transfers_unless_struck compute size input hw fun _ => eq_success_of_mem_take hlt
        refine ⟨b + 1, Nat.le_refl _, w', hothers, fun h => absurd h hsome, fun f' hf' => ?_⟩
        refine ⟨by omega, fun _ => ⟨hall ▸ ht', htransfers⟩, fun h => absurd h (Nat.not_le.2 hlt)⟩
      · obtain ⟨w', ht', hothers, hpasses, hends⟩ :=
          asks_until_struck compute size input hw hstatus hle
        refine ⟨j + 1, Nat.succ_le_succ hle, w', hothers, fun h => absurd h hsome, fun f' hf' => ?_⟩
        obtain rfl : f = f' := Option.some_inj.1 hf'
        exact ⟨by omega, fun h => absurd h (Nat.not_lt.2 hle), fun _ => ⟨ht', hpasses, hends⟩⟩

end

/-! ### A question that fails -/

/-- A slot that is going to say three times that it is not ready. -/
def busySlot : Slot := { Slot.idle (List.replicate 64 0) with busyPolls := 3 }

/-- A device with such a slot besides another one.  The first fault is for the other slot and the
third one for another kind of call, so a question about this slot meets the second fault, and the
next question the fourth. -/
def struckSecond : World Simulator where
  driver :=
    { Simulator.fresh { Setup.standard with bufferCount := 2, bufferSize := 64 } with
      isOpen := true
      slots := [Slot.idle (List.replicate 64 0), busySlot]
      faults := [⟨.inputFull, some 0, .driverError⟩, ⟨.inputFull, none, .success⟩,
        ⟨.send, some 1, .driverError⟩, ⟨.inputFull, some 1, .driverError⟩] }
  router := Log.Router.default

/-- The first question is answered and counted, and the second one fails the job. -/
theorem readiness_loop_ends_struckSecond :
    struckSecond.driver.isOpen = true ∧ (1 : UInt32) < struckSecond.driver.setup.bufferCount ∧
      struckSecond.driver.slot? 1 = some busySlot ∧
      ∃ w', w'.driver.slot? 1 = some { busySlot with polls := 1, busyPolls := 2 } ∧
        Asks (driver fun _ message => message) ⟨token, 64⟩ 1 [5] struckSecond 2
          (.done (.error (.deviceOperation .driverError 9 "injected InputFull fault"))) w' := by
  have hopen : struckSecond.driver.isOpen = true := rfl
  have hslot : (1 : UInt32) < struckSecond.driver.setup.bufferCount := by decide
  have ht : struckSecond.driver.slot? 1 = some busySlot := rfl
  obtain ⟨n, -, w', -, -, hstruck⟩ := readiness_loop_ends (s := ⟨token, 64⟩)
    (fun _ message => message) [5] rfl hopen hslot ht
  obtain ⟨rfl, -, hreached⟩ := hstruck ⟨.inputFull, some 1, .driverError⟩ (by decide)
  obtain ⟨hafter, -, hasks⟩ := hreached (by decide)
  exact ⟨hopen, hslot, ht, w', hafter, hasks (by decide)⟩

end Exchange

end Offload
