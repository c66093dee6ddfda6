/-
**The form of a message on the wire.**

Padding rounds the length of a message up to the next length that the device accepts, and fills up
with zero bytes behind the message.  So the message can be read back off its beginning, and a message
that already has an accepted length is not touched.

Main definitions:

* `Padding.IsAccepted` — the lengths that the device accepts.

Main results:

* `Padding.paddedLength_le_iff` — which lengths fit when padded;
* `Padding.paddedLength_le_iff_of_isAccepted` — **padding goes to the nearest accepted length above**;
  that it is monotone and idempotent follows from this alone;
* `Padding.isLeast_paddedLength` — the padded length as a least element;
* `Padding.wire_form` — all of it.
-/

import Offload.Padding
import Mathlib.Order.Bounds.Basic

set_option autoImplicit false
set_option relaxedAutoImplicit false

namespace Offload.Padding

variable {m n : Nat} {message : Bytes}

/-! ### Lengths -/

/-- The lengths that the device accepts. -/
def IsAccepted (n : Nat) : Prop := minimum ≤ n ∧ alignment ∣ n

theorem isAccepted_paddedLength (n : Nat) : IsAccepted (paddedLength n) := by
  unfold IsAccepted paddedLength minimum alignment
  split
  · decide
  · next hn =>
      split
      · next h => exact ⟨by omega, Nat.dvd_of_mod_eq_zero h⟩
      · exact ⟨by omega, by omega⟩

/-- A length fits when padded if and only if there is room for the shortest message and the length
is within the last multiple of the alignment that there is room for. -/
theorem paddedLength_le_iff : paddedLength n ≤ m ↔ 64 ≤ m ∧ n ≤ m / 16 * 16 := by
  rw [paddedLength, minimum, alignment]
  split
  · omega
  · split <;> omega

/-- **The padded length is the nearest accepted length that is not too short.** -/
theorem paddedLength_le_iff_of_isAccepted (hm : IsAccepted m) : paddedLength n ≤ m ↔ n ≤ m := by
  obtain ⟨hmin, hdvd⟩ := hm
  have hmultiple : m / 16 * 16 = m := Nat.div_mul_cancel hdvd
  rw [paddedLength_le_iff, hmultiple]
  exact and_iff_right hmin

/-- The lengths that padding leaves alone are the accepted ones. -/
theorem paddedLength_eq_self_iff : paddedLength n = n ↔ IsAccepted n := by
  constructor
  · intro h
    exact h ▸ isAccepted_paddedLength n
  · intro h
    exact Nat.le_antisymm ((paddedLength_le_iff_of_isAccepted h).2 (Nat.le_refl n))
      (le_paddedLength n)

theorem isLeast_paddedLength (n : Nat) :
    IsLeast {m | 16 ∣ m ∧ max n 64 ≤ m} (paddedLength n) := by
  obtain ⟨hmin, hdvd⟩ := isAccepted_paddedLength n
  refine ⟨⟨hdvd, Nat.max_le.2 ⟨le_paddedLength n, hmin⟩⟩, fun m hm => ?_⟩
  obtain ⟨hdvd, hmax⟩ := hm
  obtain ⟨hn, hmin⟩ := Nat.max_le.1 hmax
  exact (paddedLength_le_iff_of_isAccepted ⟨hmin, hdvd⟩).2 hn

theorem paddedLength_mono : Monotone paddedLength := by
  intro n m hnm
  refine (paddedLength_le_iff_of_isAccepted (isAccepted_paddedLength m)).2 ?_
  exact hnm.trans (le_paddedLength m)

theorem paddedLength_paddedLength (n : Nat) : paddedLength (paddedLength n) = paddedLength n :=
  paddedLength_eq_self_iff.2 (isAccepted_paddedLength n)

theorem isAligned_iff : isAligned n = true ↔ IsAccepted n := by
  rw [isAligned, decide_eq_true_iff, paddedLength_eq_self_iff]

/-! ### Messages -/

theorem prefix_pad (message : Bytes) : message <+: pad message := List.prefix_append _ _

theorem drop_pad (message : Bytes) :
    (pad message).drop message.length =
      List.replicate (paddedLength message.length - message.length) 0 :=
  List.drop_left

/-- The message can be read back. -/
theorem take_pad (message : Bytes) : (pad message).take message.length = message := List.take_left

/-- The messages that padding leaves alone are those of an accepted length. -/
theorem pad_eq_self_iff : pad message = message ↔ IsAccepted message.length := by
  constructor
  · intro h
    rw [← paddedLength_eq_self_iff, ← length_pad, h]
  · intro h
    exact pad_eq_self (isAligned_iff.2 h)

theorem pad_pad (message : Bytes) : pad (pad message) = pad message := by
  rw [pad_eq_self_iff, length_pad]
  exact isAccepted_paddedLength message.length

/-- **A message on the wire** is the message and then zero bytes, up to the least multiple of 16 that
is neither shorter than the message nor than 64.  It is the message itself, with nothing to copy,
exactly if the message has such a length, which the message on the wire has in turn. -/
theorem wire_form (message : Bytes) :
    (pad message).length = paddedLength message.length ∧
      IsLeast {m | 16 ∣ m ∧ max message.length 64 ≤ m} (paddedLength message.length) ∧
      message <+: pad message ∧ (∀ b ∈ (pad message).drop message.length, b = 0) ∧
      (pad message).take message.length = message ∧
      (isAligned message.length = true ↔ 64 ≤ message.length ∧ 16 ∣ message.length) ∧
      (pad message = message ↔ 64 ≤ message.length ∧ 16 ∣ message.length) ∧
      pad (pad message) = pad message ∧
      Monotone paddedLength ∧ ∀ n, paddedLength (paddedLength n) = paddedLength n := by
  refine ⟨length_pad message, isLeast_paddedLength message.length, prefix_pad message, ?_,
    take_pad message, isAligned_iff, pad_eq_self_iff, pad_pad message, paddedLength_mono,
    paddedLength_paddedLength⟩
  intro b hb
  rw [drop_pad] at hb
  exact List.eq_of_mem_replicate hb

end Offload.Padding
