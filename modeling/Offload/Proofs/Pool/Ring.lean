/-
**The slots in cyclic order.**

A submission looks for a free slot from the one after the cursor on, all the way round, and stays
with the first one that it looked at if none is free.  The slot that it chooses is the cursor of the
next submission, and is no longer free.  So a sequence of submissions takes the free slots in cyclic
order, and when none is left it goes on from slot to slot.

Main definitions:

* `Pool.ring` — all slots, in the order in which a search comes past them;
* `Pool.pick` — the slot that one submission chooses;
* `Pool.route` — the slots that a sequence of submissions chooses;
* `Pool.turnsFrom` — slots that follow each other;
* `Pool.freeRing` — the free slots, in the order in which a search comes past them.

Main results:

* `Pool.ring_of_split` — a search that starts behind a slot begins with what comes after it;
* `Pool.route_eq` — **first the free slots, then all slots in turn**;
* `Pool.count_turnsFrom` — of two slots neither gets ahead of the other by more than one.
-/

import Mathlib.Data.List.Rotate

set_option autoImplicit false
set_option relaxedAutoImplicit false

namespace Offload.Pool

/-! ### The ring -/

/-- All `n` slots, in the order in which a search comes past them that starts behind slot `c`. -/
def ring (n c : Nat) : List Nat := (List.range n).map fun i => (c + 1 + i) % n

@[simp] theorem length_ring (n c : Nat) : (ring n c).length = n := by simp [ring]

@[simp] theorem getElem_ring (n c i : Nat) (h : i < (ring n c).length) :
    (ring n c)[i] = (c + 1 + i) % n := by simp [ring]

theorem ring_eq_rotate (n c : Nat) : ring n c = (List.range n).rotate (c + 1) := by
  refine List.ext_getElem (by simp) fun i hi _ => ?_
  simp only [getElem_ring, List.getElem_rotate, List.getElem_range, List.length_range]
  rw [Nat.add_comm]

theorem nodup_ring (n c : Nat) : (ring n c).Nodup := by
  rw [ring_eq_rotate, List.nodup_rotate]
  exact List.nodup_range

theorem mem_ring {n c i : Nat} : i ∈ ring n c ↔ i < n := by
  rw [ring_eq_rotate, List.mem_rotate, List.mem_range]

theorem ring_mod (n c k : Nat) : ring n ((c + k) % n) = (ring n c).rotate k := by
  refine List.ext_getElem (by simp) fun i hi _ => ?_
  simp only [List.getElem_rotate, getElem_ring, length_ring]
  rw [Nat.add_mod_mod, Nat.add_assoc ((c + k) % n), Nat.mod_add_mod]
  congr 1
  omega

/-- **A search that starts behind a slot begins with what comes after it**, and comes back to it in
the end. -/
theorem ring_of_split {n c x : Nat} {front back : List Nat} (h : ring n c = front ++ x :: back) :
    ring n x = back ++ (front ++ [x]) := by
  have hlen : front.length < (ring n c).length := by simp [h]
  have hx : (c + (front ++ [x]).length) % n = x := by
    have hget : (ring n c)[front.length] = x := by simp [h]
    rw [← hget, getElem_ring, List.length_append, List.length_singleton]
    congr 1
    omega
  calc ring n x = (ring n c).rotate (front ++ [x]).length := by rw [← ring_mod, hx]
    _ = back ++ (front ++ [x]) := by
      rw [h, List.append_cons, List.rotate_append_length_eq]

/-! ### Choosing slots one after another -/

/-- The slot that a submission chooses when the cursor is at `c`. -/
def pick (n : Nat) (free : Nat → Bool) (c : Nat) : Nat :=
  ((ring n c).find? free).getD ((c + 1) % n)

/-- The slot that is chosen is the first free one that the search comes past. -/
theorem pick_of_free {n c offset : Nat} {free : Nat → Bool} (hoffset : offset < n)
    (hfree : free (((c + 1) % n + offset) % n) = true)
    (hbusy : ∀ k < offset, free (((c + 1) % n + k) % n) = false) :
    pick n free c = ((c + 1) % n + offset) % n := by
  have hfind : (ring n c).find? free = some ((c + 1 + offset) % n) := by
    refine List.find?_eq_some_iff_getElem.2 ⟨by simpa using hfree, offset, by simpa, by simp, ?_⟩
    intro k hk
    simpa using hbusy k hk
  rw [pick, hfind, Option.getD_some, Nat.mod_add_mod]

/-- If it comes past none, the next slot is chosen. -/
theorem pick_of_busy {n c : Nat} {free : Nat → Bool}
    (hbusy : ∀ k < n, free (((c + 1) % n + k) % n) = false) : pick n free c = (c + 1) % n := by
  have hnone : (ring n c).find? free = none := by
    refine List.find?_eq_none.2 fun i hi => ?_
    obtain ⟨k, hk, rfl⟩ := List.getElem_of_mem hi
    rw [getElem_ring, ← Nat.mod_add_mod, hbusy k (by simpa using hk)]
    exact Bool.false_ne_true
  rw [pick, hnone, Option.getD_none]

theorem pick_lt {n : Nat} (hn : 0 < n) (free : Nat → Bool) (c : Nat) : pick n free c < n := by
  rw [pick]
  cases hfind : (ring n c).find? free with
  | none => exact Nat.mod_lt _ hn
  | some i => exact mem_ring.1 (List.mem_of_find?_eq_some hfind)

/-- The cursor after these slots have been chosen. -/
def cursorAfter (c : Nat) (slots : List Nat) : Nat := slots.getLast?.getD c

@[simp] theorem cursorAfter_nil (c : Nat) : cursorAfter c [] = c := rfl

@[simp] theorem cursorAfter_concat (c : Nat) (slots : List Nat) (slot : Nat) :
    cursorAfter c (slots ++ [slot]) = slot := by simp [cursorAfter]

/-- The slots that are still free after these have been chosen. -/
def freeAfter (free : Nat → Bool) (slots : List Nat) (slot : Nat) : Bool :=
  free slot && !slots.contains slot

/-- The slots that a sequence of submissions chooses while no job is resolved. -/
def route (n : Nat) (free : Nat → Bool) (c : Nat) : Nat → List Nat
  | 0 => []
  | k + 1 =>
      let slots := route n free c k
      slots ++ [pick n (freeAfter free slots) (cursorAfter c slots)]

@[simp] theorem length_route (n : Nat) (free : Nat → Bool) (c k : Nat) :
    (route n free c k).length = k := by
  induction k with
  | zero => rfl
  | succ k ih => simp [route, ih]

/-! ### Going from slot to slot -/

/-- The slots that follow each other, from the one after slot `c` on. -/
def turnsFrom (n c k : Nat) : List Nat := (List.range k).map fun j => (c + 1 + j) % n

@[simp] theorem turnsFrom_zero (n c : Nat) : turnsFrom n c 0 = [] := rfl

theorem turnsFrom_succ (n c k : Nat) :
    turnsFrom n c (k + 1) = turnsFrom n c k ++ [(c + 1 + k) % n] := by
  rw [turnsFrom, List.range_succ, List.map_append, List.map_singleton]
  rfl

theorem cursorAfter_turnsFrom (n c : Nat) (slots : List Nat) (k : Nat) :
    (cursorAfter c (slots ++ turnsFrom n (cursorAfter c slots) k) + 1) % n =
      (cursorAfter c slots + 1 + k) % n := by
  cases k with
  | zero => simp
  | succ k =>
      rw [turnsFrom_succ, ← List.append_assoc, cursorAfter_concat, Nat.mod_add_mod]
      rfl

/-! ### The free slots first -/

/-- The free slots, in the order in which a search comes past them that starts behind slot `c`. -/
def freeRing (n : Nat) (free : Nat → Bool) (c : Nat) : List Nat := (ring n c).filter free

section

variable {n c k : Nat} {free : Nat → Bool}

theorem nodup_freeRing : (freeRing n free c).Nodup := (nodup_ring n c).filter _

theorem mem_freeRing {i : Nat} : i ∈ freeRing n free c ↔ i < n ∧ free i = true := by
  rw [freeRing, List.mem_filter, mem_ring]

theorem pick_of_lt (hk : k < (freeRing n free c).length) :
    pick n (freeAfter free ((freeRing n free c).take k))
      (cursorAfter c ((freeRing n free c).take k)) = (freeRing n free c)[k] := by
  suffices h : ((ring n (cursorAfter c ((freeRing n free c).take k))).find?
      (freeAfter free ((freeRing n free c).take k))) = some (freeRing n free c)[k] by
    rw [pick, h, Option.getD_some]
  cases k with
  | zero =>
      have hfree : freeAfter free [] = free := by
        funext i
        simp [freeAfter]
      rw [List.take_zero, cursorAfter_nil, hfree, ← List.head?_filter, List.head?_eq_getElem?]
      exact List.getElem?_eq_getElem hk
  | succ k =>
      -- the last slot that was taken splits the ring, and what comes after it has not been taken
      have hsplit : freeRing n free c = (freeRing n free c).take k ++
          (freeRing n free c)[k] :: (freeRing n free c).drop (k + 1) := by simp
      obtain ⟨front, rest, hring, htaken, hrest⟩ := List.filter_eq_append_iff.1 hsplit
      obtain ⟨busy, back, rfl, -, -, hback⟩ := List.filter_eq_cons_iff.1 hrest
      have hring' : ring n c = (front ++ busy) ++ (freeRing n free c)[k] :: back := by
        rw [hring, List.append_assoc]
      have hlast : (freeRing n free c).take (k + 1) =
          (freeRing n free c).take k ++ [(freeRing n free c)[k]] := by
        rw [List.take_add_one, List.getElem?_eq_getElem (Nat.lt_of_succ_lt hk), Option.toList_some]
      have hnew : ∀ i ∈ back, i ∉ (freeRing n free c).take (k + 1) := fun i hi hmem => by
        have hn := nodup_ring n c
        rw [hring', List.append_cons] at hn
        rw [hlast, ← htaken] at hmem
        refine List.disjoint_of_nodup_append hn (a := i) ?_ hi
        rcases List.mem_append.1 hmem with hi | hi
        · simp [List.mem_of_mem_filter hi]
        · exact List.mem_append_right _ hi
      have hfilter : back.filter (freeAfter free ((freeRing n free c).take (k + 1))) =
          (freeRing n free c).drop (k + 1) := by
        rw [← hback]
        refine List.filter_congr fun i hi => ?_
        simp [freeAfter, hnew i hi]
      rw [hlast, cursorAfter_concat, ← hlast, ring_of_split hring', List.find?_append,
        ← List.head?_filter, hfilter, List.head?_drop, List.getElem?_eq_getElem hk]
      rfl

theorem pick_of_le {slots : List Nat} (hall : ∀ i < n, free i = true → i ∈ slots) (c : Nat) :
    pick n (freeAfter free slots) c = (c + 1) % n := by
  refine pick_of_busy fun k hk => ?_
  simpa [freeAfter] using hall _ (Nat.mod_lt _ (Nat.zero_lt_of_lt hk))

/-- **The first submissions take the free slots in their cyclic order; the later ones go from slot to
slot.** -/
theorem route_eq (n : Nat) (free : Nat → Bool) (c k : Nat) :
    route n free c k = (freeRing n free c).take k ++
      turnsFrom n (cursorAfter c (freeRing n free c)) (k - (freeRing n free c).length) := by
  induction k with
  | zero => simp [route]
  | succ k ih =>
      rcases Nat.lt_or_ge k (freeRing n free c).length with hk | hk
      · -- a free slot is left
        rw [Nat.sub_eq_zero_of_le (Nat.le_of_lt hk), turnsFrom_zero, List.append_nil] at ih
        rw [route, ih, pick_of_lt hk, Nat.sub_eq_zero_of_le hk, turnsFrom_zero, List.append_nil,
          List.take_add_one, List.getElem?_eq_getElem hk, Option.toList_some]
      · have hsucc : k + 1 - (freeRing n free c).length =
            k - (freeRing n free c).length + 1 := by omega
        rw [List.take_of_length_le hk] at ih
        have hall : ∀ i < n, free i = true → i ∈ route n free c k := fun i hi hf => by
          rw [ih]
          exact List.mem_append_left _ (mem_freeRing.2 ⟨hi, hf⟩)
        rw [route, pick_of_le hall, ih, cursorAfter_turnsFrom, hsucc, turnsFrom_succ,
          ← List.append_assoc, List.take_of_length_le (Nat.le_succ_of_le hk)]

/-- What has been chosen does not depend on what is chosen later. -/
theorem take_route {i : Nat} (hi : i ≤ k) : (route n free c k).take i = route n free c i := by
  induction k with
  | zero =>
      obtain rfl : i = 0 := Nat.le_zero.1 hi
      rfl
  | succ k ih =>
      rcases Nat.lt_or_eq_of_le hi with hi | rfl
      · rw [route, List.take_append_of_le_length (by simpa using Nat.lt_succ_iff.1 hi),
          ih (Nat.lt_succ_iff.1 hi)]
      · exact List.take_of_length_le (by simp)

/-- Each slot is chosen for what has been chosen before. -/
theorem getElem?_route {i : Nat} (hi : i < k) :
    (route n free c k)[i]? =
      some (pick n (freeAfter free (route n free c i)) (cursorAfter c (route n free c i))) := by
  have htake : (route n free c k).take (i + 1) = route n free c (i + 1) := take_route hi
  rw [← List.getElem?_take_of_succ, htake, route, List.getElem?_append_right (by simp)]
  simp

/-- The first submissions take the free slots, in their cyclic order. -/
theorem take_route_free : (route n free c k).take (freeRing n free c).length =
    (freeRing n free c).take k := by
  rw [route_eq]
  rcases Nat.lt_or_ge k (freeRing n free c).length with hk | hk
  · rw [Nat.sub_eq_zero_of_le (Nat.le_of_lt hk), turnsFrom_zero, List.append_nil, List.take_take,
      Nat.min_eq_right (Nat.le_of_lt hk)]
  · rw [List.take_of_length_le hk, List.take_left]

/-- Every later submission goes to the slot after that of the one before. -/
theorem getElem?_route_of_le {i : Nat} (hi : i < k) (hfree : (freeRing n free c).length ≤ i) :
    (route n free c k)[i]? = some ((cursorAfter c ((route n free c k).take i) + 1) % n) := by
  rw [getElem?_route hi, take_route (Nat.le_of_lt hi), pick_of_le fun j hj hf => ?_]
  rw [route_eq, List.take_of_length_le hfree]
  exact List.mem_append_left _ (mem_freeRing.2 ⟨hj, hf⟩)

/-! ### All slots in turn -/

theorem turnsFrom_add (n c k : Nat) : turnsFrom n c (n + k) = ring n c ++ turnsFrom n c k := by
  rw [turnsFrom, List.range_add, List.map_append, ring, turnsFrom, List.map_map]
  congr 1
  refine List.map_congr_left fun j _ => ?_
  have hsum : c + 1 + (n + j) = n + (c + 1 + j) := by omega
  rw [Function.comp_apply, hsum, Nat.add_mod_left]

theorem turnsFrom_of_le (hk : k ≤ n) : turnsFrom n c k = (ring n c).take k := by
  rw [turnsFrom, ring, ← List.map_take, List.take_range, Nat.min_eq_left hk]

/-- Once round, it goes on as from where it began. -/
theorem turnsFrom_cursorAfter_ring (n c k : Nat) :
    turnsFrom n (cursorAfter c (ring n c)) k = turnsFrom n c k := by
  refine List.map_congr_left fun j _ => ?_
  cases n with
  | zero => rfl
  | succ n =>
      have hsum : c + 1 + n + (1 + j) = c + 1 + j + (n + 1) := by omega
      rw [ring, List.range_succ, List.map_append, List.map_singleton, cursorAfter_concat,
        Nat.add_assoc, Nat.mod_add_mod, hsum, Nat.add_mod_right]

theorem route_of_all_free (hfree : ∀ i < n, free i = true) :
    route n free c k = turnsFrom n c k := by
  have hall : freeRing n free c = ring n c :=
    List.filter_eq_self.2 fun i hi => hfree i (mem_ring.1 hi)
  rw [route_eq, hall, length_ring, turnsFrom_cursorAfter_ring]
  rcases Nat.lt_or_ge n k with hk | hk
  · obtain ⟨m, rfl⟩ := Nat.exists_eq_add_of_le (Nat.le_of_lt hk)
    rw [turnsFrom_add, List.take_of_length_le (by simp), Nat.add_sub_cancel_left]
  · rw [turnsFrom_of_le hk, Nat.sub_eq_zero_of_le hk, turnsFrom_zero, List.append_nil]

/-- **Of two slots that are chosen in turn neither gets ahead by more than one.** -/
theorem count_turnsFrom {i : Nat} (hi : i < n) :
    k / n ≤ (turnsFrom n c k).count i ∧ (turnsFrom n c k).count i ≤ k / n + 1 := by
  have hpos : 0 < n := Nat.zero_lt_of_lt hi
  induction k using Nat.strongRecOn with
  | ind k ih =>
      rcases Nat.lt_or_ge k n with hk | hk
      · have hnodup : (turnsFrom n c k).Nodup := by
          rw [turnsFrom_of_le (Nat.le_of_lt hk)]
          exact (nodup_ring n c).sublist (List.take_sublist _ _)
        rw [Nat.div_eq_of_lt hk]
        exact ⟨Nat.zero_le _, List.nodup_iff_count_le_one.1 hnodup i⟩
      · obtain ⟨m, rfl⟩ := Nat.exists_eq_add_of_le hk
        have hone : (ring n c).count i = 1 :=
          List.count_eq_one_of_mem (nodup_ring n c) (mem_ring.2 hi)
        obtain ⟨hle, hge⟩ := ih m (by omega)
        rw [turnsFrom_add, List.count_append, hone, Nat.add_div_left _ hpos]
        omega

end

end Offload.Pool
