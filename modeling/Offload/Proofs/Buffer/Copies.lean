/-
**What copies leave in a region.**

A region is reached through a view only, by copies that begin at its first byte and are refused when
they reach beyond its end.  A short copy over a long one leaves the tail of the long one where it is,
so what a region holds is told byte by byte from the copies so far: a byte comes from the latest copy
that fits the region and reaches it, and without one it is what it was at first.  Where the region
lives does not matter: a view works on it by way of whatever driver keeps it as memory.

Main definitions:

* `Script.latest?` — the copy that a byte comes from;
* `Native.Driver.Keeps` — a driver keeps a region as memory;
* `View.perform`, `View.performAll` — operations on a region by way of a view;
* `Simulator.memory` — what the simulated device holds in a region.

Main results:

* `Script.BufferOp.getElem?_perform` — what one operation leaves of a byte;
* `Script.getElem?_runBuffer` — **a byte comes from the latest copy that reaches it**;
* `View.run_performAll` — **a view works on memory as a script works on a region**;
* `View.bounded_region` — all of it, after any operations;
* `Simulator.keeps` — the simulated device keeps its regions as memory.
-/

import Offload.Script.BufferScript
import Offload.Device.Session
import Offload.Simulator.Driver

set_option autoImplicit false
set_option relaxedAutoImplicit false

namespace Offload

open Native

/-! ### Copies into a region -/

theorem Buffer.getElem?_overwrite (data region : Bytes) (i : Nat) :
    (overwrite data region)[i]? = if i < data.length then data[i]? else region[i]? := by
  rw [overwrite]
  split
  · next hi => rw [List.getElem?_append_left hi]
  · next hi =>
      have hle : data.length ≤ i := Nat.le_of_not_lt hi
      rw [List.getElem?_append_right hle, List.getElem?_drop, Nat.add_sub_cancel' hle]

namespace Script

/-- The bytes that an operation copies into a region of `capacity` bytes, if they fit the region and
reach the byte at `i`. -/
def BufferOp.reaching? (capacity i : Nat) : BufferOp → Option Bytes
  | .copyIn data => if i < data.length ∧ data.length ≤ capacity then some data else none
  | .copyOut _ | .capacity | .text => none

/-- The bytes of the latest copy into a region that fits it and reaches the byte at `i`. -/
def latest? (capacity i : Nat) (ops : List BufferOp) : Option Bytes :=
  ops.reverse.findSome? (BufferOp.reaching? capacity i)

theorem latest?_cons (capacity i : Nat) (op : BufferOp) (ops : List BufferOp) :
    latest? capacity i (op :: ops) = (latest? capacity i ops).or (op.reaching? capacity i) := by
  simp [latest?, List.findSome?_append]

theorem BufferOp.length_perform (op : BufferOp) (region : Bytes) :
    (op.perform region).2.length = region.length := by
  cases op with
  | copyIn data =>
      rcases Nat.lt_or_ge region.length data.length with hlong | hfits
      · simp only [perform, Buffer.copyIn_of_lt hlong]
      · simp only [perform, Buffer.copyIn_of_le hfits, Buffer.length_overwrite hfits]
  | _ => rfl

/-- **What one operation leaves of a byte.** -/
theorem BufferOp.getElem?_perform (op : BufferOp) (region : Bytes) (i : Nat) :
    (op.perform region).2[i]? = ((op.reaching? region.length i).getD region)[i]? := by
  cases op with
  | copyIn data =>
      rcases Nat.lt_or_ge region.length data.length with hlong | hfits
      · have hnone : (copyIn data).reaching? region.length i = none :=
          if_neg fun h => Nat.not_lt.2 h.2 hlong
        rw [hnone]
        simp only [perform, Buffer.copyIn_of_lt hlong, Option.getD_none]
      · simp only [perform, Buffer.copyIn_of_le hfits, Buffer.getElem?_overwrite, reaching?, hfits,
          and_true]
        split <;> rfl
  | _ => rfl

theorem length_runBuffer (ops : List BufferOp) (region : Bytes) :
    (runBuffer ops region).2.length = region.length := by
  induction ops generalizing region with
  | nil => rfl
  | cons op ops ih => exact (ih _).trans (op.length_perform region)

/-- **A byte comes from the latest copy that reaches it**, and without one it is what it was at
first. -/
theorem getElem?_runBuffer (ops : List BufferOp) (region : Bytes) (i : Nat) :
    (runBuffer ops region).2[i]? = ((latest? region.length i ops).getD region)[i]? := by
  -- by induction on the operations: what the first one leaves is what the others begin with
  induction ops generalizing region with
  | nil => rfl
  | cons op ops ih =>
      have hrest := ih (op.perform region).2
      rw [op.length_perform] at hrest
      rw [latest?_cons]
      refine hrest.trans ?_
      cases latest? region.length i ops with
      | some data => rfl
      | none => exact op.getElem?_perform region i

end Script

/-! ### Views over memory -/

/-- A driver keeps a region as memory, of which `content` is what it holds: bytes that fit are stored
at its beginning, and what is read is what is there. -/
structure Native.Driver.Keeps {σ : Type} (D : Driver σ) (region : Region) (content : σ → Bytes) :
    Prop where
  store : ∀ data s, data.length ≤ (content s).length →
    content (D.store region data s) = Buffer.overwrite data (content s)
  fetch : ∀ length s, length ≤ (content s).length →
    D.fetch region length s = (content s).take length

namespace View

open Script

/-- An operation on a region by way of a view. -/
def perform (v : View) : BufferOp → Program Answer
  | .copyIn data => do return .ofOutcome (fun _ => .unit) (← (v.copyIn data).run)
  | .copyOut length => do return .ofOutcome .bytes (← (v.copyOut length).run)
  | .capacity => return .number v.capacity
  | .text => return .text (Buffer.text v.capacity)

/-- One operation after the other. -/
def performAll (v : View) : List BufferOp → Program (List Answer)
  | [] => return []
  | op :: ops => do
      let answer ← v.perform op
      let answers ← v.performAll ops
      return answer :: answers

section

variable {σ : Type} {D : Driver σ} {v : View} {content : σ → Bytes} {w : World σ}

/-- A copy into a region is refused, and changes nothing, or its bytes are stored. -/
theorem run_copyIn (D : Driver σ) (v : View) (data : Bytes) (w : World σ) :
    D.run (v.copyIn data).run w =
      if data.length ≤ v.capacity then
        (.ok (), { w with driver := D.store v.region data w.driver })
      else (.error (.bufferBounds data.length v.capacity), w) := by
  rw [copyIn]
  split
  · next hfits =>
      rw [Buffer.checkBounds_of_le hfits]
      rfl
  · next hlong =>
      rw [Buffer.checkBounds_of_lt (Nat.lt_of_not_le hlong)]
      rfl

theorem run_copyOut (D : Driver σ) (v : View) (n : Nat) (w : World σ) :
    D.run (v.copyOut n).run w =
      (if n ≤ v.capacity then .ok (D.fetch v.region n w.driver)
        else .error (.bufferBounds n v.capacity), w) := by
  rw [copyOut]
  split
  · next hfits =>
      rw [Buffer.checkBounds_of_le hfits]
      rfl
  · next hlong =>
      rw [Buffer.checkBounds_of_lt (Nat.lt_of_not_le hlong)]
      rfl

/-- An operation by way of a view does to memory what it does to a region. -/
theorem run_perform (hD : D.Keeps v.region content) (hw : (content w.driver).length = v.capacity)
    (op : BufferOp) :
    ((D.run (v.perform op) w).1, content (D.run (v.perform op) w).2.driver) =
      op.perform (content w.driver) := by
  cases op with
  | copyIn data =>
      simp only [perform, BufferOp.perform, Driver.run_bind, run_copyIn]
      by_cases hfits : data.length ≤ v.capacity
      · have hfits' : data.length ≤ (content w.driver).length := hw ▸ hfits
        rw [if_pos hfits, Buffer.copyIn_of_le hfits', ← hD.store data w.driver hfits']
        rfl
      · have hlong : (content w.driver).length < data.length := hw ▸ Nat.lt_of_not_le hfits
        rw [if_neg hfits, Buffer.copyIn_of_lt hlong, hw]
        rfl
  | copyOut n =>
      simp only [perform, BufferOp.perform, Driver.run_bind, run_copyOut]
      by_cases hfits : n ≤ v.capacity
      · have hfits' : n ≤ (content w.driver).length := hw ▸ hfits
        rw [if_pos hfits, Buffer.copyOut_of_le hfits', hD.fetch n w.driver hfits']
        rfl
      · have hlong : (content w.driver).length < n := hw ▸ Nat.lt_of_not_le hfits
        rw [if_neg hfits, Buffer.copyOut_of_lt hlong, hw]
        rfl
  | capacity | text =>
      simp only [BufferOp.perform, hw]
      rfl

/-- **A view works on memory as a script works on a region.** -/
theorem run_performAll (hD : D.Keeps v.region content)
    (hw : (content w.driver).length = v.capacity) (ops : List BufferOp) :
    ((D.run (v.performAll ops) w).1, content (D.run (v.performAll ops) w).2.driver) =
      runBuffer ops (content w.driver) := by
  induction ops generalizing w with
  | nil => rfl
  | cons op ops ih =>
      have hop := run_perform hD hw op
      -- the operation has left the length alone, so that the view still covers the region
      have hafter : content (D.run (v.perform op) w).2.driver =
          (op.perform (content w.driver)).2 := congrArg Prod.snd hop
      have hlength : (content (D.run (v.perform op) w).2.driver).length = v.capacity := by
        rw [hafter, op.length_perform, hw]
      have hops := ih hlength
      simp only [performAll, runBuffer, Driver.run_bind, ← hop, ← hops]
      rfl

/-- **What a view does after any operations**, wherever its region lives.  The region is as long as
ever, and each of its bytes comes from the latest copy that fits and reaches it.  The next copy is
refused exactly if it reaches beyond the region, and then changes nothing; one out of the region
reads what is at its beginning and changes nothing either. -/
theorem bounded_region (hD : D.Keeps v.region content)
    (hw : (content w.driver).length = v.capacity) (ops : List BufferOp) :
    let r := D.run (v.performAll ops) w
    let region := content r.2.driver
    (r.1, region) = runBuffer ops (content w.driver) ∧
      region.length = v.capacity ∧
      (∀ i, region[i]? = ((latest? v.capacity i ops).getD (content w.driver))[i]?) ∧
      (∀ data, D.run (v.copyIn data).run r.2 =
        if data.length ≤ v.capacity then
          (.ok (), { r.2 with driver := D.store v.region data r.2.driver })
        else (.error (.bufferBounds data.length v.capacity), r.2)) ∧
      ∀ n, D.run (v.copyOut n).run r.2 =
        (if n ≤ v.capacity then .ok (region.take n)
          else .error (.bufferBounds n v.capacity), r.2) := by
  intro r region
  have hrun : (r.1, region) = runBuffer ops (content w.driver) := run_performAll hD hw ops
  have hregion : region = (runBuffer ops (content w.driver)).2 := congrArg Prod.snd hrun
  have hlength : region.length = v.capacity := by rw [hregion, length_runBuffer, hw]
  refine ⟨hrun, hlength, fun i => ?_, fun data => run_copyIn D v data r.2, fun n => ?_⟩
  · rw [hregion, getElem?_runBuffer, hw]
  · rw [run_copyOut]
    split
    · next hfits => rw [hD.fetch n r.2.driver (hlength ▸ hfits)]
    · rfl

end

end View

/-! ### The memory of the simulated device -/

namespace Simulator

/-- What the simulated device holds in a region; a region of a slot that does not exist is empty. -/
def memory (region : Region) (s : Simulator) : Bytes :=
  match s.slot? region.slot with
  | none => []
  | some t =>
      match region.side with
      | .input => t.input
      | .output => t.output

/-- **The simulated device keeps its regions as memory.** -/
theorem keeps (compute : UInt32 → Bytes → Bytes) (region : Region) :
    (driver compute).Keeps region (memory region) where
  store data s hfits := by
    obtain ⟨side, slot⟩ := region
    show memory ⟨side, slot⟩ (store ⟨side, slot⟩ data s) = _
    cases ht : s.slots[slot.toNat]? with
    | none =>
        have hdata : data = [] := by simpa [memory, slot?, ht] using hfits
        simp [memory, store, modifySlot, slot?, ht, hdata, Buffer.overwrite]
    | some t => cases side <;> simp [memory, store, modifySlot, slot?, ht]
  fetch length s _ := by
    show fetch region length s = _
    unfold fetch memory
    cases s.slot? region.slot with
    | none => exact List.take_nil.symm
    | some t => cases region.side <;> rfl

end Simulator

/-! ### A short copy over a long one -/

/-- The input region of a device with one slot of four bytes. -/
def View.four : View := ⟨⟨.input, 0⟩, 4⟩

/-- The device. -/
def View.fourBytes : World Simulator where
  driver := Simulator.fresh { Simulator.Setup.standard with bufferCount := 1, bufferSize := 4 }
  router := Log.Router.default

/-- A long copy, a short one, and one that is refused. -/
def View.threeCopies : List Script.BufferOp :=
  [.copyIn [1, 2, 3, 4], .copyIn [9, 8], .copyIn [0, 0, 0, 0, 0]]

/-- The short copy leaves the tail of the long one, and the refused one leaves everything. -/
theorem View.bounded_region_shortOverLong :
    (Simulator.memory View.four.region View.fourBytes.driver).length = View.four.capacity ∧
      let D := Simulator.driver fun _ message => message
      let after := (D.run (View.four.performAll View.threeCopies) View.fourBytes).2
      (Simulator.memory View.four.region after.driver)[1]? = some 8 ∧
        (Simulator.memory View.four.region after.driver)[2]? = some 3 ∧
        D.run (View.four.copyOut 5).run after = (.error (.bufferBounds 5 4), after) := by
  have hlength : (Simulator.memory View.four.region View.fourBytes.driver).length =
      View.four.capacity := by decide
  obtain ⟨-, -, hbytes, -, hout⟩ :=
    View.bounded_region (Simulator.keeps (fun _ message => message) View.four.region) hlength
      View.threeCopies
  refine ⟨hlength, ?_, ?_, hout 5⟩
  · exact (hbytes 1).trans (by decide)
  · exact (hbytes 2).trans (by decide)

end Offload
