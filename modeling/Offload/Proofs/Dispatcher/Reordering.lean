/-
**The order of the steps of different workers.**

Steps of different workers of an open device can be swapped, as long as no slot is held and every
fault names a slot.  Nobody who looks at one slot at a time, at the faults that are left and at the
number of overlaps can tell in which order they were made.

Main definitions:

* `Station.works`, `Station.inTurn` — steps of workers, and the same steps one slot after another;
* `Station.Same` — two runs that are abreast on every slot, with the same faults and overlaps.

Main results:

* `Station.Same.swap` — neighbouring steps of different workers can be swapped;
* `Station.Same.perm` — **the order of the steps of different workers does not matter**.
-/

import Offload.Proofs.Dispatcher.Abreast

set_option autoImplicit false
set_option relaxedAutoImplicit false

namespace Offload.Station

open Native Simulator Run

/-! ### Steps of workers -/

/-- Workers make their steps in this order. -/
def works (slots : List Nat) : List Turn := slots.map workOf

/-- The same steps, one slot after another. -/
def inTurn (order slots : List Nat) : List Nat :=
  order.flatMap fun i => List.replicate (slots.count i) i

variable {compute : UInt32 → Bytes → Bytes} {n i j : Nat} {slots slots' : List Nat}
  {r r' r₁ r₂ s s' s₁ : Run}

theorem turns_works_cons : turns compute (works (i :: slots)) r = some r' ↔
    ∃ r₁, r.turn compute (workOf i) = some r₁ ∧ turns compute (works slots) r₁ = some r' :=
  Option.bind_eq_some_iff

theorem turns_works_append : turns compute (works (slots ++ slots')) r = some r' ↔
    ∃ r₁, turns compute (works slots) r = some r₁ ∧ turns compute (works slots') r₁ = some r' := by
  rw [works, List.map_append]
  exact foldlM_append_eq_some

theorem Underway.turns (hu : Underway compute n r)
    (h : turns compute (works slots) r = some r') : Underway compute n r' := by
  induction slots generalizing r with
  | nil =>
      obtain rfl : r = r' := Option.some_inj.1 h
      exact hu
  | cons i slots ih =>
      obtain ⟨r₁, ht, h⟩ := turns_works_cons.1 h
      exact ih (hu.work ht) h

/-- Workers leave registers, the open flag and the calls to close alone. -/
theorem Underway.spares (hu : Underway compute n r)
    (h : Run.turns compute (works slots) r = some r') :
    Spares r.device r'.device ∧ r'.pool.size = r.pool.size ∧ ∀ i ∈ slots, i < r.pool.size := by
  induction slots generalizing r with
  | nil =>
      obtain rfl : r = r' := Option.some_inj.1 h
      exact ⟨.refl _, rfl, fun i hi => absurd hi List.not_mem_nil⟩
  | cons i slots ih =>
      obtain ⟨r₁, ht, h⟩ := turns_works_cons.1 h
      obtain ⟨hi, used, extra, hconfined⟩ := hu.confined_work ht
      obtain ⟨hspares, hsize, hslots⟩ := ih (hu.work ht) h
      refine ⟨hconfined.pays.spares.trans hspares, hsize.trans hconfined.size, ?_⟩
      rw [List.forall_mem_cons]
      exact ⟨hi, fun j hj => hconfined.size ▸ hslots j hj⟩

/-- Every slot that is taken once makes all its steps. -/
theorem count_inTurn {order : List Nat} (horder : order.Nodup) :
    (inTurn order slots).count i = if i ∈ order then slots.count i else 0 := by
  induction order with
  | nil => rfl
  | cons j order ih =>
      obtain ⟨hj, horder⟩ := List.nodup_cons.1 horder
      have hinTurn : inTurn (j :: order) slots =
          List.replicate (slots.count j) j ++ inTurn order slots := List.flatMap_cons
      rw [hinTurn, List.count_append, List.count_replicate, ih horder]
      by_cases hij : i = j
      · subst hij
        simp [hj]
      · simp [hij, Ne.symm hij]

/-- In whatever order the slots are taken, the same steps are made. -/
theorem perm_inTurn {order : List Nat} (horder : order.Perm (List.range r.pool.size))
    (hslots : ∀ i ∈ slots, i < r.pool.size) : slots.Perm (inTurn order slots) := by
  refine List.perm_iff_count.2 fun i => ?_
  rw [count_inTurn (horder.nodup_iff.2 List.nodup_range)]
  split
  · rfl
  · next hi =>
      refine List.count_eq_zero_of_not_mem fun hmem => hi ?_
      exact horder.mem_iff.2 (List.mem_range.2 (hslots i hmem))

/-! ### The order of steps -/

/-- Two runs that are abreast on every slot, with the same faults and overlaps. -/
structure Same (r s : Run) : Prop where
  size : s.pool.size = r.pool.size
  abreast : ∀ i < r.pool.size, Abreast i r s
  faults : s.device.faults = r.device.faults
  overlaps : s.device.overlaps = r.device.overlaps

theorem Underway.same_self (hu : Underway compute n r) : Same r r :=
  ⟨rfl, fun _ hi => hu.abreast_self hi, rfl, rfl⟩

namespace Same

theorem trans {t : Run} (h : Same r s) (h' : Same s t) : Same r t :=
  ⟨h'.size.trans h.size, fun i hi => (h.abreast i hi).trans (h'.abreast i (h.size ▸ hi)),
    h'.faults.trans h.faults, h'.overlaps.trans h.overlaps⟩

/-- Two steps of a worker are not seen from another slot. -/
theorem abreast_aside (hr : Underway compute n r) (hs : Underway compute n s) (h : Same r s)
    {k : Nat} (hk : k < r.pool.size) (hne : k ≠ i) (hi : i < r.pool.size)
    {used used' : Option Operation} {extra extra' : Nat} (hconfined : Confined i used extra r r₁)
    (hconfined' : Confined i used' extra' s s₁) : Abreast k r₁ s₁ := by
  have h₁ : Abreast k r₁ s := (h.abreast k hk).aside hr hne hi hconfined
  exact (h₁.symm.aside hs hne (h.size ▸ hi) hconfined').symm

theorem work (hr : Underway compute n r) (hs : Underway compute n s) (h : Same r s)
    (ht : r.turn compute (workOf i) = some r₁) :
    ∃ s₁, s.turn compute (workOf i) = some s₁ ∧ Same r₁ s₁ := by
  obtain ⟨hi, -⟩ := hr.confined_work ht
  obtain ⟨s₁, hs₁, habreast, used, extra, hconfined, hconfined'⟩ := (h.abreast i hi).work hr hs ht
  refine ⟨s₁, hs₁, ?_, fun k hk => ?_, ?_, ?_⟩
  · rw [hconfined.size, hconfined'.size, h.size]
  · rw [hconfined.size] at hk
    by_cases hne : k = i
    · exact hne ▸ habreast
    · exact h.abreast_aside hr hs hk hne hi hconfined hconfined'
  · rw [hconfined.pays.faults, hconfined'.pays.faults, h.faults]
  · rw [hconfined.pays.overlaps, hconfined'.pays.overlaps, h.overlaps]

theorem turns (hr : Underway compute n r) (hs : Underway compute n s) (h : Same r s)
    (ht : Run.turns compute (works slots) r = some r') :
    ∃ s', Run.turns compute (works slots) s = some s' ∧ Same r' s' := by
  induction slots generalizing r s with
  | nil =>
      obtain rfl : r = r' := Option.some_inj.1 ht
      exact ⟨s, rfl, h⟩
  | cons i slots ih =>
      obtain ⟨r₁, ht₁, ht⟩ := turns_works_cons.1 ht
      obtain ⟨s₁, hs₁, h₁⟩ := h.work hr hs ht₁
      obtain ⟨s', hs', h'⟩ := ih (hr.work ht₁) (hs.work hs₁) h₁ ht
      exact ⟨s', turns_works_cons.2 ⟨s₁, hs₁, hs'⟩, h'⟩

/-- **Neighbouring steps of different workers can be swapped.** -/
theorem swap (hr : Underway compute n r) (hs : Underway compute n s) (h : Same r s) (hne : i ≠ j)
    (ht₁ : r.turn compute (workOf i) = some r₁) (ht₂ : r₁.turn compute (workOf j) = some r₂) :
    ∃ s₁ s₂, s.turn compute (workOf j) = some s₁ ∧ s₁.turn compute (workOf i) = some s₂ ∧
      Same r₂ s₂ := by
  have hr₁ := hr.work ht₁
  obtain ⟨hi, used, extra, hconfined⟩ := hr.confined_work ht₁
  obtain ⟨hj, -⟩ := hr₁.confined_work ht₂
  rw [hconfined.size] at hj
  -- the step of the other worker does not see that this one comes first
  obtain ⟨s₁, hs₁, habreast, usedj, extraj, hconfined₂, hconfined₁'⟩ :=
    ((h.abreast j hj).aside hr (Ne.symm hne) hi hconfined).work hr₁ hs ht₂
  have hs₁' := hs.work hs₁
  have hj' : j < s.pool.size := h.size ▸ hj
  have hi' : i < s₁.pool.size := by rw [hconfined₁'.size, h.size]; exact hi
  obtain ⟨s₂, hs₂, habreast', usedi, extrai, hconfined₁, hconfined₂'⟩ :=
    ((h.abreast i hi).symm.aside hs hne hj' hconfined₁').symm.work hr hs₁' ht₁
  refine ⟨s₁, s₂, hs₁, hs₂, ?_, fun k hk => ?_, ?_, ?_⟩
  · rw [hconfined₂'.size, hconfined₁'.size, hconfined₂.size, hconfined₁.size, h.size]
  · rw [hconfined₂.size, hconfined₁.size] at hk
    have hj₁ : j < r₁.pool.size := hconfined₁.size ▸ hj
    by_cases hki : k = i
    · subst hki
      exact habreast'.aside hr₁ hne hj₁ hconfined₂
    by_cases hkj : k = j
    · subst hkj
      exact (habreast.symm.aside hs₁' hki hi' hconfined₂').symm
    · have h₁ : Abreast k r₁ s := (h.abreast k hk).aside hr hki hi hconfined₁
      have h₂ : Abreast k r₂ s := h₁.aside hr₁ hkj hj₁ hconfined₂
      have h₃ : Abreast k s₁ r₂ := h₂.symm.aside hs hkj hj' hconfined₁'
      exact (h₃.aside hs₁' hki hi' hconfined₂').symm
  · rw [hconfined₂'.pays.faults, hconfined₁'.pays.faults, hconfined₂.pays.faults,
      hconfined₁.pays.faults, h.faults]
    exact spent_comm hr.named (hr.ofNat_ne hi hj hne)
  · rw [hconfined₂'.pays.overlaps, hconfined₁'.pays.overlaps, hconfined₂.pays.overlaps,
      hconfined₁.pays.overlaps, h.overlaps, Nat.add_right_comm]

/-- **The order of the steps of different workers does not matter.** -/
theorem perm (hperm : slots.Perm slots') (hr : Underway compute n r) (hs : Underway compute n s)
    (h : Same r s) (ht : Run.turns compute (works slots) r = some r') :
    ∃ s', Run.turns compute (works slots') s = some s' ∧ Same r' s' := by
  induction hperm generalizing r s r' with
  | nil => exact h.turns hr hs ht
  | cons i _ ih =>
      obtain ⟨r₁, ht₁, ht⟩ := turns_works_cons.1 ht
      obtain ⟨s₁, hs₁, h₁⟩ := h.work hr hs ht₁
      obtain ⟨s', hs', h'⟩ := ih (hr.work ht₁) (hs.work hs₁) h₁ ht
      exact ⟨s', turns_works_cons.2 ⟨s₁, hs₁, hs'⟩, h'⟩
  | swap i j slots =>
      by_cases hne : j = i
      · subst hne
        exact h.turns hr hs ht
      · obtain ⟨r₁, ht₁, ht⟩ := turns_works_cons.1 ht
        obtain ⟨r₂, ht₂, ht⟩ := turns_works_cons.1 ht
        obtain ⟨s₁, s₂, hs₁, hs₂, h₂⟩ := h.swap hr hs hne ht₁ ht₂
        obtain ⟨s', hs', h'⟩ := h₂.turns ((hr.work ht₁).work ht₂) ((hs.work hs₁).work hs₂) ht
        exact ⟨s', turns_works_cons.2 ⟨s₁, hs₁, turns_works_cons.2 ⟨s₂, hs₂, hs'⟩⟩, h'⟩
  | trans _ _ ih₁ ih₂ =>
      obtain ⟨s₁, hs₁, h₁⟩ := ih₁ hr hs h ht
      obtain ⟨s₂, hs₂, h₂⟩ := ih₂ hs hs hs.same_self hs₁
      exact ⟨s₂, hs₂, h₁.trans h₂⟩

end Same

end Offload.Station
