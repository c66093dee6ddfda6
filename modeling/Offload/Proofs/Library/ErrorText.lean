/-
**The text of a failure.**

A driver library leaves the text of its last failure in a buffer of fixed size, and the binding puts
a terminator into the last byte before it reads.  So whatever the library has left there, the last
byte does not count; and a text too long for the buffer comes through cut off, with a replacement
character in the place of a character that did not fit.

Main results:

* `Library.readErrorText_success` — the text in a buffer, by the bytes in front of the last one;
* `Library.cut_take_of_isPrefix` — what a library that copies a text leaves in front of it;
* `Library.lastErrorText_through_buffer` — **what becomes of the text of a failure**.
-/

import Offload.Library.Binding
import Offload.Proofs.Text.Reading

set_option autoImplicit false
set_option relaxedAutoImplicit false

namespace Offload.Library

open Native

variable {σ : Type}

/-! ### The buffer -/

@[simp] theorem length_fillBuffer (written : Bytes) :
    (fillBuffer written).length = errorTextLength := by
  rw [fillBuffer, List.length_take, List.length_append, List.length_replicate]
  exact Nat.min_eq_left (Nat.le_add_left _ _)

/-- The last byte becomes a terminator, and whatever stands in front of it is read. -/
theorem readErrorText_success (written : Bytes) :
    readErrorText .success written =
      Text.lossy (Text.cut ((fillBuffer written).take (errorTextLength - 1))) := by
  rw [readErrorText, if_pos rfl, Text.ofCString, List.set_eq_take_append_cons_drop,
    if_pos (by rw [length_fillBuffer]; decide), Text.cut_append_nul]

/-- What stands in front of the last byte of a buffer is the text and a NUL, or as much of the text
as fits. -/
theorem cut_take_of_isPrefix {n : Nat} {bytes buffer : Bytes}
    (h : (bytes ++ [0]).take (n + 1) <+: buffer) :
    Text.cut (buffer.take n) = Text.cut (bytes.take n) := by
  obtain ⟨rest, rfl⟩ := h
  by_cases hle : n ≤ bytes.length
  · have hfit : n ≤ ((bytes ++ [0]).take (n + 1)).length := by
      simp only [List.length_take, List.length_append, List.length_singleton]
      omega
    rw [List.take_append_of_le_length hfit, List.take_take, Nat.min_eq_left (Nat.le_succ n),
      List.take_append_of_le_length hle]
  · -- the terminator of the text stands in the buffer, too
    have hshort : (bytes ++ [0]).take (n + 1) = bytes ++ [0] := by
      refine List.take_of_length_le ?_
      simp only [List.length_append, List.length_singleton]
      omega
    obtain ⟨k, hk⟩ : ∃ k, n - bytes.length = k + 1 := ⟨n - bytes.length - 1, by omega⟩
    rw [hshort, List.append_assoc, List.singleton_append, List.take_append, hk, List.take_succ_cons,
      Text.cut_append_nul]

theorem isPrefix_fillBuffer {written : Bytes} (h : written.length ≤ errorTextLength) :
    written <+: fillBuffer written := by
  rw [fillBuffer, List.take_append, List.take_of_length_le h]
  exact List.prefix_append _ _

/-! ### The text behind it -/

theorem readErrorText_of_ne_success {status : Status} (h : status ≠ .success) (written : Bytes) :
    readErrorText status written = "" :=
  if_neg h

/-- **What becomes of the text of a failure.**  A request that fails has no text.  Otherwise the
text is the reading of the bytes in front of the first NUL, of those in front of the last byte of
the buffer.  If they are what a library leaves that copies a text and terminates it where there is
room, that text comes through: as it is, if it holds no NUL and leaves room for a terminator, and
otherwise up to its first NUL or to the last character that fits as a whole.  A replacement
character follows exactly if there is no NUL in what fits, and the rest splits a character. -/
theorem lastErrorText_through_buffer (L : Library σ) (s : σ) :
    let status := (L.lastErrorText errorTextLength s).1.1
    let buffer := fillBuffer (L.lastErrorText errorTextLength s).1.2
    let text := ((driver L).lastErrorText s).1
    (status ≠ .success → text = "") ∧
    (status = .success →
      (∀ cs, Text.Reads (Text.cut (buffer.take (errorTextLength - 1))) cs ↔ text.toList = cs) ∧
      ∀ t : String, writeText errorTextLength t <+: buffer →
        ((Text.encode t).length ≤ errorTextLength - 1 → Text.nul ∉ t.toList → text = t) ∧
        ∃ kept, Text.IsKept (errorTextLength - 1) t.toList kept ∧
          (0 ∉ (Text.encode t).take (errorTextLength - 1) ∧
              Text.Splits (errorTextLength - 1) t.toList →
            text.toList = kept ++ [Text.replacement]) ∧
          (¬ (0 ∉ (Text.encode t).take (errorTextLength - 1) ∧
              Text.Splits (errorTextLength - 1) t.toList) →
            text.toList = kept)) := by
  intro status buffer text
  refine ⟨fun h => readErrorText_of_ne_success h _, fun h => ?_⟩
  have htext : text = Text.lossy (Text.cut (buffer.take (errorTextLength - 1))) := by
    have hread : text = readErrorText status (L.lastErrorText errorTextLength s).1.2 := rfl
    rw [hread, h, readErrorText_success]
  have hchars : text.toList = Text.decodeLossy (Text.cut (buffer.take (errorTextLength - 1))) := by
    rw [htext, Text.lossy, String.toList_ofList]
  refine ⟨fun cs => by rw [Text.reads_iff, hchars], fun t ht => ?_⟩
  have hcut : Text.cut (buffer.take (errorTextLength - 1)) =
      Text.cut ((Text.encode t).take (errorTextLength - 1)) := cut_take_of_isPrefix ht
  rw [hcut] at hchars
  refine ⟨fun hfits hnul => ?_, ?_⟩
  · rw [List.take_of_length_le hfits, Text.encode_eq_utf8,
      Text.cut_eq_self (mt Text.zero_mem_utf8.1 hnul), Text.decodeLossy_utf8] at hchars
    exact String.toList_inj.1 hchars
  · rw [hchars]
    exact Text.decodeLossy_cut_take _ _

end Offload.Library
