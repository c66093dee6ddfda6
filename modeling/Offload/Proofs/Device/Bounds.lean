/-
**The bounds that a job meets on its way.**

The length of a job's message is looked at when it is given to the driver as a number of 32 bits,
when the message is stored in the input region, and by the driver when it is sent.  A message that
fits the regions passes each time, and then the only bound left is the one on the output.

Main definitions:

* `Exchange.Conducts` — what a round comes to, with all that the job has heard.

Main results:

* `Exchange.messageLength_of_le` — the length is given to the driver as it is;
* `Session.copyIn_inputView` — a message that fits is stored, whatever view the driver has given;
* `Exchange.mem_script_of_meets` — the next call of a job is one of its script;
* `Exchange.Conducted.bufferBounds` — **the bound that a job ends with is the one on its output**.
-/

import Offload.Proofs.Device.Protocol

set_option autoImplicit false
set_option relaxedAutoImplicit false

namespace Offload

open Native

/-! ### Storing the message -/

section

variable {σ : Type} {s : Session} {slot : UInt32} {data : Bytes} {view : View}

/-- The view of an input region reaches as far as the session says. -/
theorem Session.capacity_inputView (D : Driver σ) {w : World σ}
    (h : (D.run (s.inputView slot).run w).1 = .ok view) : view.capacity = s.bufferSize := by
  have hmeets : (s.inputView slot).run.Meets heardSpec
      (fun r _ => ∀ view, r = .ok view → view.capacity = s.bufferSize) [] := by
    refine Exchange.heard_view (c := .inputPointer s.handle slot) (f := id) ?_ ?_ ?_
    · rintro _ _ _ _ _ ⟨⟩
      rfl
    · rintro _ _ _ _ ⟨⟩
    · rintro _ _ _ _ _ ⟨⟩
  exact hmeets.heard D w view h

theorem View.copyIn_of_le (D : Driver σ) (w : World σ) (h : data.length ≤ view.capacity) :
    (D.run (view.copyIn data).run w).1 = .ok () := by
  have hmeets : (view.copyIn data).run.Meets heardSpec (fun r _ => r = .ok ()) [] :=
    Exchange.heard_copyIn (fun _ => rfl) fun hlong => absurd h (Nat.not_le.2 hlong)
  exact hmeets.heard D w

/-- **A message that fits the regions is stored** in whatever view of its input region a slot has
given. -/
theorem Session.copyIn_inputView (D : Driver σ) {w : World σ}
    (h : (D.run (s.inputView slot).run w).1 = .ok view) (hfits : data.length ≤ s.bufferSize)
    (w' : World σ) : (D.run (view.copyIn data).run w').1 = .ok () :=
  View.copyIn_of_le D w' (by rwa [Session.capacity_inputView D h])

end

namespace Exchange

/-- **The length of a message that fits is given to the driver as it is**, and it fits as a number of
32 bits too. -/
theorem messageLength_of_le {message : Bytes} {size : UInt32}
    (h : message.length ≤ size.toNat) :
    messageLength message = .ok (UInt32.ofNat message.length) ∧
      (UInt32.ofNat message.length).toNat = message.length ∧
      UInt32.ofNat message.length ≤ size := by
  have hlt : message.length < 2 ^ 32 := Nat.lt_of_le_of_lt h size.toNat_lt
  have hexact : (UInt32.ofNat message.length).toNat = message.length :=
    UInt32.toNat_ofNat_of_lt' hlt
  exact ⟨if_pos hlt, hexact, by rwa [UInt32.le_iff_toNat_le, hexact]⟩

/-! ### The calls of a job -/

section

variable {s : Session} {slot : UInt32} {message : Bytes} {T : Transcript}

/-- What a round comes to, and what the job has heard by then: the slot is still not ready, or the
job is over. -/
def Conducts (s : Session) (slot : UInt32) (message : Bytes) (r : Option (Outcome Bytes))
    (T : Transcript) : Prop :=
  r.elim (NotReady s slot T) fun outcome =>
    ∃ T₀, NotReady s slot T₀ ∧ Over s slot message T₀ outcome T

/-- The calls that have been made by the end of a round are questions and calls of the script. -/
theorem Conducts.mem_calls {r : Option (Outcome Bytes)} (h : Conducts s slot message r T) {c : Call}
    (hc : c ∈ T.calls) : c ∈ .inputFull s.handle slot :: script s slot message := by
  have hquestion {T₀ : Transcript} (hT₀ : NotReady s slot T₀) (hc : c ∈ T₀.calls) :
      c ∈ .inputFull s.handle slot :: script s slot message := by
    obtain ⟨k, hcalls⟩ := hT₀.calls_eq
    rw [hcalls] at hc
    exact List.mem_cons.2 (Or.inl (List.eq_of_mem_replicate hc))
  cases r with
  | none => exact hquestion h hc
  | some outcome =>
      obtain ⟨T₀, hT₀, rest, rfl, hconducted⟩ := h
      rw [calls_append] at hc
      rcases List.mem_append.1 hc with hc | hc
      · exact hquestion hT₀ hc
      · obtain ⟨calls, hscript, hcalls⟩ := hconducted.calls_eq
        rw [hcalls] at hc
        exact List.cons_subset_cons _ hscript.subset hc

/-- **The next call of a job is a question or one of the script**, since whatever the driver answers
the job can be followed to the end of its round. -/
theorem mem_script_of_meets {c : Call} {next : Reply c → Program (Option (Outcome Bytes))}
    (h : (Program.step (.call c) next).Meets heardSpec (Conducts s slot message) T) :
    c ∈ .inputFull s.handle slot :: script s slot message := by
  -- any driver will do
  let D := Simulator.driver fun _ _ => []
  let w : World Simulator := ⟨Simulator.fresh .standard, .default⟩
  have hend := h.heard D w
  have hcall : c ∈ (T ++ D.transcript (.step (.call c) next) w).calls := by
    rw [calls_append]
    refine List.mem_append_right _ ?_
    rw [Driver.transcript, calls_append]
    exact List.mem_append_left _ (List.mem_singleton_self c)
  exact hend.mem_calls hcall

/-- Questions and the calls of the script are about the slot, and the message is sent with its own
length. -/
theorem about_of_mem_script {c : Call} (h : c ∈ .inputFull s.handle slot :: script s slot message) :
    c.handle? = some (some s.handle) ∧ c.slot? = some slot ∧
      ∀ handle i length, c = .send handle i length → length = UInt32.ofNat message.length := by
  simp only [script, List.mem_cons, List.not_mem_nil, or_false] at h
  rcases h with rfl | rfl | rfl | rfl | rfl | rfl
  case inr.inr.inr.inl =>
    refine ⟨rfl, rfl, ?_⟩
    rintro _ _ _ ⟨⟩
    rfl
  all_goals exact ⟨rfl, rfl, by rintro _ _ _ ⟨⟩⟩

/-! ### The bound that a job ends with -/

/-- **A job whose message fits ends with the error of a bound only when its output does not fit**:
the bound is that of the regions, and what exceeds it is the length that the driver has reported. -/
theorem Conducted.bufferBounds {requested capacity : Nat}
    (h : Conducted s slot message T (.error (.bufferBounds requested capacity)))
    (hfits : message.length ≤ s.bufferSize) :
    capacity = s.bufferSize ∧ s.bufferSize < requested ∧
      ∃ reply : Reply (.wait s.handle slot), .reply reply ∈ T ∧
        reply.stored.map UInt32.toNat = some requested := by
  -- a length that exceeds the regions is not the one that was prepared, which is zero
  have hstored {p : Waited s slot message} (hlong : s.bufferSize < p.received) :
      p.waited.stored.map UInt32.toNat = some p.received := by
    rw [Waited.received] at hlong ⊢
    cases hwaited : p.waited.stored with
    | none => simp [hwaited] at hlong
    | some length => rfl
  cases h with
  | tooLong p hlong => exact absurd hfits (Nat.not_le.2 hlong)
  | oversized p hlong | oversizedNotDiscarded p hlong =>
      refine ⟨rfl, hlong, p.waited, ?_, hstored hlong⟩
      exact List.mem_append_left _ (List.mem_append_right _ (List.mem_singleton_self _))

end

end Exchange

end Offload
