/-
**Messages that were left in flight.**

A call to give an output back that a fault strikes leaves the message in flight although the job is
over.  Such a stray message stays until the next message to its slot, or a call that takes it out of
flight.  The device counts an overlap only when a message meets a stray one, and then there is one
stray message less: so every overlap has a failed call of its own.

Main definitions:

* `Exchange.Act.isLost` — a call to give an output back that a fault has struck;
* `Exchange.stray` — the slots with a stray message, as the calls show them;
* `Exchange.AbandonedSince` — a call to give the output back has failed, and nothing since then has
  decided about the slot;
* `Exchange.Charged` — **every overlap, and every message in flight, is accounted for**.

Main results:

* `Exchange.abandonedSince_of_mem_stray` — where there is a stray message a call has failed;
* `Exchange.Charged.act` — **every call keeps the account**.
-/

import Offload.Proofs.Device.Owing

set_option autoImplicit false
set_option relaxedAutoImplicit false

namespace Offload.Exchange

open Native Simulator

/-- The number of the slot that the call is about. -/
def Act.slot? (a : Act) : Option Nat := a.call.slot?.map UInt32.toNat

/-- The call was to give an output back, and a fault with a code other than success struck it. -/
def Act.isLost (a : Act) : Bool := operation a.call = .discard && !a.isClean

/-- The call decided whether its slot has a message in flight. -/
def Act.isSettling (a : Act) : Bool := settles a.call a.status

/-- The slots with a stray message after one more call. -/
def Act.strays (slots : List Nat) (a : Act) : List Nat :=
  match a.slot? with
  | none => slots
  | some i =>
      if a.isSettling then slots.filter (· ≠ i) else if a.isLost then i :: slots else slots

/-- The slots with a stray message, as the calls show them. -/
def stray (acts : List Act) : List Nat := acts.foldl Act.strays []

/-- A call to give the output of slot number `i` back has failed, and no call about the slot since
then has decided whether it has a message in flight. -/
def AbandonedSince (i : Nat) (acts : List Act) : Prop :=
  ∃ before a after, acts = before ++ a :: after ∧ a.isLost = true ∧ a.slot? = some i ∧
    ∀ b ∈ after, b.slot? = some i → b.isSettling = false

section

variable {acts : List Act} {a : Act} {i : Nat}

@[simp] theorem stray_nil : stray [] = [] := rfl

@[simp] theorem stray_concat (acts : List Act) (a : Act) :
    stray (acts ++ [a]) = a.strays (stray acts) := by
  simp [stray]

theorem AbandonedSince.concat (h : AbandonedSince i acts)
    (ha : a.slot? = some i → a.isSettling = false) : AbandonedSince i (acts ++ [a]) := by
  obtain ⟨before, b, after, rfl, hlost, hb, hafter⟩ := h
  refine ⟨before, b, after ++ [a], by simp, hlost, hb, ?_⟩
  intro c hc
  rcases List.mem_append.1 hc with hc | hc
  · exact hafter c hc
  · rw [List.mem_singleton.1 hc]
    exact ha

/-- **Where there is a stray message a call has failed**, and nothing has been decided since. -/
theorem abandonedSince_of_mem_stray (hi : i ∈ stray acts) : AbandonedSince i acts := by
  -- by induction on the calls, the last one first
  induction acts using List.reverseRecOn with
  | nil => cases hi
  | append_singleton acts a ih =>
      rw [stray_concat, Act.strays] at hi
      split at hi
      · next hnone => exact (ih hi).concat fun h => by cases hnone.symm.trans h
      · next j hj =>
          split at hi
          · next hsettles =>
              obtain ⟨hmem, hne⟩ : i ∈ stray acts ∧ i ≠ j := by simpa using hi
              exact (ih hmem).concat fun h => absurd (Option.some_inj.1 (h.symm.trans hj)) hne
          · next hsettles =>
              have hlater (hmem : i ∈ stray acts) : AbandonedSince i (acts ++ [a]) :=
                (ih hmem).concat fun _ => by simpa using hsettles
              split at hi
              · next hlost =>
                  rcases List.mem_cons.1 hi with rfl | hmem
                  · exact ⟨acts, a, [], rfl, hlost, hj, by simp⟩
                  · exact hlater hmem
              · exact hlater hi

end

/-! ### The account -/

/-- Every overlap is paid for by a failed call to give an output back, with one more such call for
each stray message; and a message is in flight only if it is a stray one or a job owes it. -/
structure Charged (acts : List Act) (s : Simulator) (owing : Nat → Prop) : Prop where
  overlaps : s.overlaps + (stray acts).length ≤ acts.countP Act.isLost
  inFlight : ∀ i, s.inFlight i = true → i ∈ stray acts ∨ owing i

section

variable {acts : List Act} {s s' : Simulator} {owing owing' : Nat → Prop}

theorem charged_fresh (setup : Setup) (owing : Nat → Prop) :
    Charged [] (Simulator.fresh setup) owing where
  overlaps := Nat.le_refl 0
  inFlight i h := by
    rw [Simulator.inFlight] at h
    cases hi : (Simulator.fresh setup).slots[i]? with
    | none => simp [hi] at h
    | some t =>
        have hmem : t ∈ (Simulator.fresh setup).slots := List.mem_of_getElem? hi
        rw [hi, show t = _ from (List.mem_replicate.1 hmem).2] at h
        cases h

theorem Charged.still (hc : Charged acts s owing) (hs : SameFlights s s')
    (howing : ∀ i, s.inFlight i = true → owing i → owing' i) : Charged acts s' owing' where
  overlaps := by rw [hs.overlaps]; exact hc.overlaps
  inFlight i h := by
    rw [hs.inFlight] at h
    exact (hc.inFlight i h).imp_right (howing i h)

variable {a : Act} {i : Nat}

theorem strays_of_slot? (ha : a.slot? = some i) (slots : List Nat) :
    a.strays slots =
      if a.isSettling then slots.filter (· ≠ i)
      else if a.isLost then i :: slots else slots := by
  rw [Act.strays, ha]

/-- A message that meets another one meets a stray one, and there is one less then. -/
theorem overlaps_of_settling {collides : Bool}
    (hc : s.overlaps + (stray acts).length ≤ acts.countP Act.isLost)
    (hcollides : collides = true → i ∈ stray acts) :
    s.overlaps + (if collides then 1 else 0) + ((stray acts).filter (· ≠ i)).length ≤
      acts.countP Act.isLost := by
  cases collides with
  | false =>
      have hle := List.length_filter_le (fun j => decide (j ≠ i)) (stray acts)
      simp only [Bool.false_eq_true, if_false]
      omega
  | true =>
      have hlt : ((stray acts).filter (· ≠ i)).length < (stray acts).length :=
        List.length_filter_lt_length_iff_exists.2 ⟨i, hcollides rfl, by simp⟩
      simp only [if_true]
      omega

/-- A call that leaves a message in flight decides about its slot. -/
theorem isSettling_of_carries (h : carries a.call a.status = true) : a.isSettling = true := by
  rw [Act.isSettling]
  revert h
  cases a.call <;> simp [carries, settles]

/-- **Overlaps, after one more call.**  The job that makes it sends only when it owes nothing. -/
theorem Charged.overlaps_act {owed : Bool} (hc : Charged acts s owing) (ha : a.slot? = some i)
    (hflown : Flown i a.call a.status s s') (howed : owing i → owed = true)
    (hsend : carries a.call a.status = true → owed = false) :
    s'.overlaps + (stray (acts ++ [a])).length ≤ (acts ++ [a]).countP Act.isLost := by
  rw [hflown.overlaps, stray_concat, strays_of_slot? ha, List.countP_append, List.countP_singleton]
  by_cases hsettles : a.isSettling = true
  · rw [if_pos hsettles]
    refine Nat.le_add_right_of_le (overlaps_of_settling hc.overlaps fun hcollides => ?_)
    -- the message in flight is owed by no job, for the job that sends is the one on the slot
    obtain ⟨hcarry, hflight⟩ := Bool.and_eq_true_iff.1 hcollides
    refine (hc.inFlight i hflight).resolve_right fun how => ?_
    exact Bool.false_ne_true ((hsend hcarry).symm.trans (howed how))
  · have hnone : carries a.call a.status = false := by
      simpa using fun h => hsettles (isSettling_of_carries h)
    have hold := hc.overlaps
    rw [if_neg hsettles, hnone]
    by_cases hpays : a.isLost = true <;> simp [hpays] <;> omega

/-- What is in flight on the slot of a call after it.  A call to give an output back fails only if a
fault strikes it. -/
theorem Charged.inFlight_self {owed : Bool} (hc : Charged acts s owing) (ha : a.slot? = some i)
    (hflown : Flown i a.call a.status s s') (howed : owing i → owed = true)
    (hlost : abandons a.call a.status = true → a.isLost = true)
    (hself : leaves owed a.call a.status = true → owing' i) (hi : s'.inFlight i = true) :
    i ∈ stray (acts ++ [a]) ∨ owing' i := by
  rw [hflown.self] at hi
  rw [stray_concat, strays_of_slot? ha, Act.isSettling]
  by_cases hsettles : settles a.call a.status = true
  · rw [if_pos hsettles] at hi
    refine Or.inr (hself ?_)
    rw [leaves, if_pos hsettles, hi]
  · rw [if_neg hsettles] at hi ⊢
    by_cases hpays : a.isLost = true
    · exact Or.inl (by simp [hpays])
    · have hkept : abandons a.call a.status = false := by simpa using fun h => hpays (hlost h)
      rw [if_neg hpays]
      refine (hc.inFlight i hi).imp_right fun how => hself ?_
      rw [leaves, if_neg hsettles, howed how, hkept]
      rfl

theorem Charged.inFlight_others (hc : Charged acts s owing) (ha : a.slot? = some i)
    (hflown : Flown i a.call a.status s s') {j : Nat} (hne : i ≠ j)
    (hothers : owing j → owing' j) (hj : s'.inFlight j = true) :
    j ∈ stray (acts ++ [a]) ∨ owing' j := by
  rw [hflown.others j hne] at hj
  rw [stray_concat, strays_of_slot? ha]
  refine (hc.inFlight j hj).imp (fun hmem => ?_) hothers
  split
  · simpa [hmem] using Ne.symm hne
  · split
    · exact List.mem_cons_of_mem _ hmem
    · exact hmem

/-- **Every call keeps the account.** -/
theorem Charged.act {owed : Bool} (hc : Charged acts s owing) (ha : a.slot? = some i)
    (hflown : Flown i a.call a.status s s') (howed : owing i → owed = true)
    (hsend : carries a.call a.status = true → owed = false)
    (hlost : abandons a.call a.status = true → a.isLost = true)
    (hself : leaves owed a.call a.status = true → owing' i)
    (hothers : ∀ j, i ≠ j → owing j → owing' j) : Charged (acts ++ [a]) s' owing' where
  overlaps := hc.overlaps_act ha hflown howed hsend
  inFlight j hj := by
    by_cases hne : i = j
    · subst hne
      exact hc.inFlight_self ha hflown howed hlost hself hj
    · exact hc.inFlight_others ha hflown hne (hothers j hne) hj

end

end Offload.Exchange
