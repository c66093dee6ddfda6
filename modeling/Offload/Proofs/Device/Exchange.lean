/-
**What the operations of an exchange come to.**

While a job runs on a slot, nobody else changes what the slot holds.  A call of the job is struck by
a fault or does its work, and whatever happens the slot has taken the message of the job exactly if
a call to send it has succeeded.

Main definitions:

* `Exchange.Act` — a native call that a job has made;
* `Exchange.isClean`, `Exchange.hasSent` — what is read off the calls of a job;
* `Exchange.Task` — what an exchange is about;
* `Exchange.Task.Kept` — **what holds throughout an exchange**;
* `Exchange.opSpec` — what each operation of an exchange guarantees.

Main results:

* `Exchange.opSpec_call` — a call is struck or does its work;
* `Exchange.meets_judged` — so is a call whose status is judged, and by what;
* `Exchange.meets_request` — the same for exchanges that ask only whether they are clean.
-/

import Offload.Proofs.Device.Stepped
import Offload.Proofs.Native.Meets
import Offload.Proofs.Simulator.Slots

set_option autoImplicit false
set_option relaxedAutoImplicit false

namespace Offload.Exchange

open Native Simulator

/-! ### The calls of a job -/

/-- A native call that a job has made: the code of the fault that struck it, and its status. -/
structure Act where
  call : Call
  fault : Option Status
  status : Status

/-- The call was not struck, or by a fault with the code of success. -/
def Act.isClean (a : Act) : Bool := a.fault.all (· = .success)

/-- The call was one to send a message, and it succeeded. -/
def Act.isSent (a : Act) : Bool :=
  match a.call with
  | .send _ _ _ => a.status = .success
  | _ => false

/-- No call was struck by a fault with any code but success. -/
def isClean (acts : List Act) : Bool := acts.all Act.isClean

/-- A call to send a message has succeeded. -/
def hasSent (acts : List Act) : Bool := acts.any Act.isSent

@[simp] theorem isClean_concat (acts : List Act) (a : Act) :
    isClean (acts ++ [a]) = (isClean acts && a.isClean) := by
  simp [isClean]

@[simp] theorem hasSent_concat (acts : List Act) (a : Act) :
    hasSent (acts ++ [a]) = (hasSent acts || a.isSent) := by
  simp [hasSent]

/-! ### The operations of a job -/

/-- The calls that an answer to an operation adds to those of the job. -/
def acted (late : Bool) : (o : Op) → o.Answer → Simulator → List Act
  | .call c, reply, s => [⟨c, strike? late c s, reply.status⟩]
  | .lastError, _, _ | .lastErrorText, _, _ | .store _ _, _, _ | .fetch _ _, _, _
  | .log _, _, _ => []

/-! ### What holds throughout an exchange -/

/-- What a job looks at: its slot, and the calls that it has made. -/
abbrev Look : Type := Sight × List Act

/-- What an exchange is about: the slot, the messages that it took before, and the message of the
job, which fits the regions. -/
structure Task where
  setup : Setup
  slot : UInt32
  base : List Bytes
  message : Bytes
  slot_lt : slot < setup.bufferCount
  length_le : message.length ≤ setup.bufferSize.toNat

namespace Task

variable (k : Task)

/-- The session in which the exchange takes place. -/
def session : Session := ⟨token, k.setup.bufferSize.toNat⟩

/-- What holds throughout an exchange: the device is open, the slot has regions of the right size,
and it has taken the message exactly if a call to send it has succeeded. -/
structure Kept (v : Look) (t : Content) : Prop where
  sight : v.1 = ⟨k.setup, true, some t⟩
  input : t.input.length = k.setup.bufferSize.toNat
  output : t.output.length = k.setup.bufferSize.toNat
  sent : t.sent = k.base ++ if hasSent v.2 = true then [k.message] else []

end Task

/-! ### The operations of an exchange -/

/-- The operation is about the slot: it is a call with the right handle, or an access to one of the
slot's regions, or has nothing to do with slots. -/
def IsAbout (slot : UInt32) : Op → Prop
  | .call c => c.handle? = some (some token) ∧ c.slot? = some slot
  | .store region _ | .fetch region _ => region.slot = slot
  | .lastError | .lastErrorText | .log _ => True

variable (compute : UInt32 → Bytes → Bytes) (k : Task)

/-- What each operation of an exchange guarantees, whatever others do to other slots. -/
def opSpec : OpSpec Look := fun o Q v =>
  (∃ t, k.Kept v t) ∧ IsAbout k.slot o ∧
    ∀ (w : World Simulator) (late : Bool), w.driver.sight k.slot.toNat = v.1 →
      (driver compute).trapped? o w = none ∧
        Q (answered (driver compute) late o w).1
          ((answered (driver compute) late o w).2.driver.sight k.slot.toNat,
            v.2 ++ acted late o (answered (driver compute) late o w).1 w.driver)

variable {compute k} {v : Look} {t : Content}

theorem opSpec_lastError {Q : UInt32 → Look → Prop} (hk : k.Kept v t) (hQ : ∀ code, Q code v) :
    opSpec compute k .lastError Q v := by
  refine ⟨⟨t, hk⟩, trivial, fun w late hw => ⟨rfl, ?_⟩⟩
  cases late <;> simpa [answered, Driver.resumed, Driver.answer, driver, acted, hw] using hQ _

theorem opSpec_lastErrorText {Q : String → Look → Prop} (hk : k.Kept v t)
    (hQ : ∀ text, Q text v) : opSpec compute k .lastErrorText Q v := by
  refine ⟨⟨t, hk⟩, trivial, fun w late hw => ⟨rfl, ?_⟩⟩
  cases late <;> simpa [answered, Driver.resumed, Driver.answer, driver, acted, hw] using hQ _

theorem opSpec_log {request : Log.Request} {Q : Unit → Look → Prop} (hk : k.Kept v t)
    (hQ : Q () v) : opSpec compute k (.log request) Q v := by
  refine ⟨⟨t, hk⟩, trivial, fun w late hw => ⟨rfl, ?_⟩⟩
  cases late <;> simpa [answered, Driver.resumed, Driver.answer, driver, acted, hw] using hQ

theorem answered_call (compute : UInt32 → Bytes → Bytes) (late : Bool) (c : Call)
    (w : World Simulator) :
    (answered (driver compute) late (.call c) w).1 = (reply compute late c w.driver).1 ∧
      (answered (driver compute) late (.call c) w).2.driver =
        (reply compute late c w.driver).2 := by
  cases late <;> exact ⟨rfl, rfl⟩

/-- A call about a slot neither opens nor closes the device. -/
theorem toggles_of_slot? {c : Call} {slot : UInt32} (hc : c.slot? = some slot) :
    toggles c = false := by
  cases c with
  | create | close => cases hc
  | _ => rfl

theorem Task.Kept.content_eq (hk : k.Kept v t) {s : Simulator}
    (hs : s.sight k.slot.toNat = v.1) :
    s.setup = k.setup ∧ s.isOpen = true ∧ s.content? k.slot.toNat = some t := by
  have hsight : s.sight k.slot.toNat = ⟨k.setup, true, some t⟩ := hs.trans hk.sight
  simpa [Simulator.sight] using hsight

/-- **A call about the slot is struck, or does its work.** -/
theorem opSpec_call {c : Call} {Q : Reply c → Look → Prop} (hk : k.Kept v t)
    (hhandle : c.handle? = some (some token)) (hc : c.slot? = some k.slot)
    (hsend : ∀ h i length, c = .send h i length → length ≤ k.setup.bufferSize)
    (hstruck : ∀ status, status ≠ .success →
      Q (.plain status) (v.1, v.2 ++ [⟨c, some status, status⟩]))
    (hdone : ∀ (fault : Option Status) (r : Reply c) (t' : Content),
      (∀ status, fault = some status → status = .success) → r.status = .success →
      Does compute c t r.stored t' →
      Q r (⟨k.setup, true, some t'⟩, v.2 ++ [⟨c, fault, .success⟩])) :
    opSpec compute k (.call c) Q v := by
  refine ⟨⟨t, hk⟩, ⟨hhandle, hc⟩, ?_⟩
  intro w late hw
  obtain ⟨hsetup, hopen, ht⟩ := hk.content_eq hw
  have htrap : (driver compute).trapped? (.call c) w = none := by
    rw [Driver.trapped?, show (driver compute).traps c w.driver = none from traps_eq_none c hc ht]
    rfl
  refine ⟨htrap, ?_⟩
  obtain ⟨h₁, h₂⟩ := answered_call compute late c w
  have hcomes := comes_reply compute late c hopen hhandle hc (hsetup ▸ k.slot_lt)
    (hsetup ▸ hsend) ht
  have htouch := touches_reply compute late c (s := w.driver)
  have hafter {t' : Content}
      (ht' : (reply compute late c w.driver).2.content? k.slot.toNat = some t') :
      (answered (driver compute) late (.call c) w).2.driver.sight k.slot.toNat =
        ⟨k.setup, true, some t'⟩ := by
    rw [h₂, sight, htouch.setup, htouch.isOpen (toggles_of_slot? hc), ht', hsetup, hopen]
  rcases hcomes with ⟨status, hfault, hs, hr, ht'⟩ | ⟨hfault, hs, t', ht', hdoes⟩
  · -- struck: the status is the code of the fault, and the slot is as it was
    rw [hafter ht', ← hk.sight]
    have hQ := hstruck status hs
    rw [← hr, ← h₁] at hQ
    simpa [acted, hfault, h₁, hr] using hQ
  · rw [hafter ht']
    have hQ := hdone (strike? late c w.driver) (reply compute late c w.driver).1 t' hfault hs hdoes
    rw [← h₁] at hQ
    simpa [acted, h₁, hs] using hQ

theorem opSpec_store {data : Bytes} {Q : Unit → Look → Prop} (hk : k.Kept v t)
    (hQ : Q () (⟨k.setup, true, some { t with input := Buffer.overwrite data t.input }⟩, v.2)) :
    opSpec compute k (.store ⟨.input, k.slot⟩ data) Q v := by
  refine ⟨⟨t, hk⟩, rfl, fun w late hw => ⟨rfl, ?_⟩⟩
  obtain ⟨hsetup, hopen, ht⟩ := hk.content_eq hw
  have hcontent : (w.driver.store ⟨.input, k.slot⟩ data).content? k.slot.toNat =
      some { t with input := Buffer.overwrite data t.input } :=
    content?_modifySlot (fun t => { t with input := Buffer.overwrite data t.input })
      (fun _ => rfl) ht
  have hafter : (w.driver.store ⟨.input, k.slot⟩ data).sight k.slot.toNat =
      ⟨k.setup, true, some { t with input := Buffer.overwrite data t.input }⟩ := by
    rw [sight, hcontent, ← hsetup, ← hopen]
    rfl
  cases late <;>
    simpa [answered, Driver.resumed, Driver.answer, driver, acted, hafter] using hQ

theorem opSpec_fetch {length : Nat} {Q : Bytes → Look → Prop} (hk : k.Kept v t)
    (hQ : Q (t.output.take length) v) :
    opSpec compute k (.fetch ⟨.output, k.slot⟩ length) Q v := by
  refine ⟨⟨t, hk⟩, rfl, fun w late hw => ⟨rfl, ?_⟩⟩
  have hfetch : w.driver.fetch ⟨.output, k.slot⟩ length = t.output.take length := by
    obtain ⟨u, hu, rfl⟩ := Option.map_eq_some_iff.1 (hk.content_eq hw).2.2
    simp [Simulator.fetch, slot?, hu, Slot.content]
  cases late <;>
    simpa [answered, Driver.resumed, Driver.answer, driver, acted, hfetch, hw] using hQ

/-! ### Judged calls -/

theorem meets_check {status : Status} {Q : Outcome Unit → Look → Prop} (hk : k.Kept v t)
    (hok : status.isBenign = true → Q (.ok ()) v) (herror : ∀ e, Q (.error e) v) :
    (check status).run.Meets (opSpec compute k) Q v := by
  by_cases hs : status.isBenign = true
  · rw [check_of_isBenign hs]
    exact hok hs
  · rw [check, if_neg hs]
    refine opSpec_lastError hk ?_
    intro code
    refine opSpec_lastErrorText hk ?_
    intro text
    exact opSpec_log hk (herror _)

theorem isClean_struck {acts : List Act} {c : Call} {status : Status} (hs : status ≠ .success) :
    isClean (acts ++ [⟨c, some status, status⟩]) = false := by
  simp [Act.isClean, hs]

theorem isClean_done {acts : List Act} {c : Call} {fault : Option Status}
    (hf : ∀ status, fault = some status → status = .success) (status : Status) :
    isClean (acts ++ [⟨c, fault, status⟩]) = isClean acts := by
  have hclean : (⟨c, fault, status⟩ : Act).isClean = true := by
    cases fault with
    | none => rfl
    | some code => simp [Act.isClean, hf code rfl]
  rw [isClean_concat, hclean, Bool.and_true]

/-- A call that is struck sends nothing. -/
theorem hasSent_struck {acts : List Act} {c : Call} {status : Status} (hs : status ≠ .success) :
    hasSent (acts ++ [⟨c, some status, status⟩]) = hasSent acts := by
  have hsent : (⟨c, some status, status⟩ : Act).isSent = false := by
    cases c with
    | send => simp [Act.isSent, hs]
    | _ => rfl
  rw [hasSent_concat, hsent, Bool.or_false]

theorem Does.keeps {c : Call} {stored : Option c.Stored} {t' : Content}
    (hd : Does compute c t stored t') (hc : operation c ≠ .send) :
    t'.sent = t.sent ∧ t'.input = t.input ∧ t'.output = t.output := by
  cases hd with
  | send => exact absurd rfl hc
  | _ => exact ⟨rfl, rfl, rfl⟩

theorem hasSent_of_ne {acts : List Act} {a : Act} (ha : operation a.call ≠ .send) :
    hasSent (acts ++ [a]) = hasSent acts := by
  have hsent : a.isSent = false := by
    obtain ⟨c, fault, status⟩ := a
    cases c with
    | send => exact absurd rfl ha
    | _ => rfl
  rw [hasSent_concat, hsent, Bool.or_false]

/-- What holds throughout an exchange holds after a call that was struck. -/
theorem Task.Kept.struck (hk : k.Kept v t) {c : Call} {status : Status} (hs : status ≠ .success) :
    k.Kept (v.1, v.2 ++ [⟨c, some status, status⟩]) t :=
  ⟨hk.sight, hk.input, hk.output, by rw [hk.sent, hasSent_struck hs]⟩

/-- **A judged call about the slot is struck, or does its work.**  One that is struck goes on with
the prepared value if its status is benign, and ends with an error if not. -/
theorem meets_judged {c : Call} {prepared : c.Stored} {Q : Outcome c.Stored → Look → Prop}
    (hk : k.Kept v t) (hhandle : c.handle? = some (some token)) (hc : c.slot? = some k.slot)
    (hsend : ∀ h i length, c = .send h i length → length ≤ k.setup.bufferSize)
    (hpasses : Q (.ok prepared) (v.1, v.2 ++ [⟨c, some .waitTimeout, .waitTimeout⟩]))
    (hends : ∀ status e, status ≠ .success →
      Q (.error e) (v.1, v.2 ++ [⟨c, some status, status⟩]))
    (hdone : ∀ (fault : Option Status) (stored : Option c.Stored) (t' : Content),
      (∀ status, fault = some status → status = .success) → Does compute c t stored t' →
      Q (.ok (stored.getD prepared))
        (⟨k.setup, true, some t'⟩, v.2 ++ [⟨c, fault, .success⟩])) :
    (request c prepared).run.Meets (opSpec compute k) Q v := by
  rw [meets_request_iff]
  refine opSpec_call hk hhandle hc hsend (fun status hs => ?_) fun fault r t' hf hs hd => ?_
  · refine meets_check (hk.struck (c := c) hs) (fun hbenign => ?_) fun e => hends status e hs
    obtain rfl := ((Status.isBenign_iff status).1 hbenign).resolve_left hs
    exact hpasses
  · rw [hs, check_of_isBenign Status.isBenign_success]
    exact hdone fault r.stored t' hf hd

/-- What a call that is struck goes on with, or ends with, does not matter where nothing but the
record shows it. -/
theorem meets_request {c : Call} {prepared : c.Stored} {Q : Outcome c.Stored → Look → Prop}
    (hk : k.Kept v t) (hhandle : c.handle? = some (some token)) (hc : c.slot? = some k.slot)
    (hsend : ∀ h i length, c = .send h i length → length ≤ k.setup.bufferSize)
    (hstruck : ∀ (r : Outcome c.Stored) (v' : Look), r = .ok prepared ∨ (∃ e, r = .error e) →
      isClean v'.2 = false → hasSent v'.2 = hasSent v.2 → k.Kept v' t → Q r v')
    (hdone : ∀ (fault : Option Status) (stored : Option c.Stored) (t' : Content),
      (∀ status, fault = some status → status = .success) → Does compute c t stored t' →
      Q (.ok (stored.getD prepared))
        (⟨k.setup, true, some t'⟩, v.2 ++ [⟨c, fault, .success⟩])) :
    (request c prepared).run.Meets (opSpec compute k) Q v := by
  have hQ (r : Outcome c.Stored) (hr : r = .ok prepared ∨ ∃ e, r = .error e) (status : Status)
      (hs : status ≠ .success) : Q r (v.1, v.2 ++ [⟨c, some status, status⟩]) :=
    hstruck r _ hr (isClean_struck hs) (hasSent_struck hs) (hk.struck hs)
  refine meets_judged hk hhandle hc hsend ?_ (fun status e hs => ?_) hdone
  · exact hQ _ (Or.inl rfl) .waitTimeout (by decide)
  · exact hQ _ (Or.inr ⟨e, rfl⟩) status hs

/-- A judged call that sends nothing keeps what holds throughout. -/
theorem meets_quiet {c : Call} {prepared : c.Stored} {Q : Outcome c.Stored → Look → Prop}
    (hk : k.Kept v t) (hhandle : c.handle? = some (some token)) (hc : c.slot? = some k.slot)
    (hne : operation c ≠ .send)
    (hstruck : ∀ (r : Outcome c.Stored) (v' : Look), r = .ok prepared ∨ (∃ e, r = .error e) →
      isClean v'.2 = false → hasSent v'.2 = hasSent v.2 → k.Kept v' t → Q r v')
    (hdone : ∀ (stored : Option c.Stored) (t' : Content) (v' : Look), Does compute c t stored t' →
      isClean v'.2 = isClean v.2 → hasSent v'.2 = hasSent v.2 → k.Kept v' t' →
      Q (.ok (stored.getD prepared)) v') :
    (request c prepared).run.Meets (opSpec compute k) Q v := by
  refine meets_request hk hhandle hc (fun h i length heq => absurd (heq ▸ rfl) hne) hstruck
    fun fault stored t' hf hd => ?_
  obtain ⟨hsent, hin, hout⟩ := Does.keeps hd hne
  have hsame : hasSent (v.2 ++ [⟨c, fault, .success⟩]) = hasSent v.2 := hasSent_of_ne hne
  refine hdone stored t' _ hd (isClean_done hf _) hsame ⟨rfl, ?_, ?_, ?_⟩
  · rw [hin, hk.input]
  · rw [hout, hk.output]
  · rw [hsent, hk.sent, hsame]

end Offload.Exchange
