/-
**Regions shared with the device.**

A region is a fixed number of bytes.  Copies into and out of it begin at its first byte and are
refused when they reach beyond its end.

Main definitions:

* `Buffer.checkBounds` — the bound that every copy obeys;
* `Buffer.overwrite` — the region after a copy into it;
* `Buffer.copyIn`, `Buffer.copyOut` — the bounded copies.
-/

import Offload.Error

set_option autoImplicit false
set_option relaxedAutoImplicit false

namespace Offload.Buffer

/-- A copy of `requested` bytes fits a region of `capacity` bytes. -/
def checkBounds (requested capacity : Nat) : Outcome Unit :=
  if requested ≤ capacity then .ok () else .error (.bufferBounds requested capacity)

/-- The region after `data` has been stored at its beginning; what lies behind stays. -/
def overwrite (data region : Bytes) : Bytes := data ++ region.drop data.length

/-- Store `data` at the beginning of a region. -/
def copyIn (data region : Bytes) : Outcome Bytes := do
  checkBounds data.length region.length
  return overwrite data region

/-- Read the first `n` bytes of a region. -/
def copyOut (n : Nat) (region : Bytes) : Outcome Bytes := do
  checkBounds n region.length
  return region.take n

/-- The printed form of a view over a region. -/
def text (capacity : Nat) : String := s!"BufferView \x7b len: {capacity} \x7d"

@[simp] theorem checkBounds_of_le {requested capacity : Nat} (h : requested ≤ capacity) :
    checkBounds requested capacity = .ok () := if_pos h

theorem checkBounds_of_lt {requested capacity : Nat} (h : capacity < requested) :
    checkBounds requested capacity = .error (.bufferBounds requested capacity) :=
  if_neg (Nat.not_le.2 h)

theorem length_overwrite {data region : Bytes} (h : data.length ≤ region.length) :
    (overwrite data region).length = region.length := by
  simp only [overwrite, List.length_append, List.length_drop]
  omega

theorem copyIn_of_le {data region : Bytes} (h : data.length ≤ region.length) :
    copyIn data region = .ok (overwrite data region) := by
  simp [copyIn, h, bind, Except.bind, pure, Except.pure]

theorem copyIn_of_lt {data region : Bytes} (h : region.length < data.length) :
    copyIn data region = .error (.bufferBounds data.length region.length) := by
  simp [copyIn, checkBounds_of_lt h, bind, Except.bind]

theorem copyOut_of_le {n : Nat} {region : Bytes} (h : n ≤ region.length) :
    copyOut n region = .ok (region.take n) := by
  simp [copyOut, h, bind, Except.bind, pure, Except.pure]

theorem copyOut_of_lt {n : Nat} {region : Bytes} (h : region.length < n) :
    copyOut n region = .error (.bufferBounds n region.length) := by
  simp [copyOut, checkBounds_of_lt h, bind, Except.bind]

end Offload.Buffer
