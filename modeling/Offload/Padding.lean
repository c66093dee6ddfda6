/-
**Padding of messages.**

A message on the wire is at least 64 bytes long and its length is a multiple of 16; what is
missing is filled with zero bytes.

Main definitions:

* `Padding.paddedLength` — the length on the wire;
* `Padding.pad` — the message on the wire;
* `Padding.isAligned` — the lengths that need no padding.

Main results:

* `Padding.length_pad` — the padded message has the padded length;
* `Padding.pad_eq_self` — an aligned message is left alone.
-/

import Offload.Error

set_option autoImplicit false
set_option relaxedAutoImplicit false

namespace Offload.Padding

/-- The shortest message on the wire. -/
def minimum : Nat := 64

/-- Message lengths are multiples of this. -/
def alignment : Nat := 16

/-- The length on the wire of a message of `n` bytes. -/
def paddedLength (n : Nat) : Nat :=
  if n < minimum then minimum
  else if n % alignment = 0 then n
  else n + (alignment - n % alignment)

/-- A length that needs no padding. -/
def isAligned (n : Nat) : Bool := paddedLength n = n

/-- A message with the zero bytes it needs. -/
def pad (message : Bytes) : Bytes :=
  message ++ List.replicate (paddedLength message.length - message.length) 0

theorem le_paddedLength (n : Nat) : n ≤ paddedLength n := by
  unfold paddedLength minimum
  split
  · omega
  · split <;> omega

/-- No message is empty on the wire. -/
theorem paddedLength_pos (n : Nat) : 0 < paddedLength n := by
  unfold paddedLength minimum
  split
  · omega
  · split <;> omega

@[simp] theorem length_pad (message : Bytes) :
    (pad message).length = paddedLength message.length := by
  have := le_paddedLength message.length
  simp only [pad, List.length_append, List.length_replicate]
  omega

theorem pad_eq_self {message : Bytes} (h : isAligned message.length = true) :
    pad message = message := by
  have h' : paddedLength message.length = message.length := by simpa [isAligned] using h
  simp [pad, h']

end Offload.Padding
