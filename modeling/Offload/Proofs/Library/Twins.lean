/-
**A driver and the library that forwards to it.**

Through a library whose entry points forward to a driver, the driver looks almost as it does
directly: its state goes the same way, and so does every status.  Where it stores no handle, pointer
or readiness flag, the binding hands over a blank one all the same; and the text of a failure is
what a buffer of fixed size leaves of it.

Main definitions:

* `Native.Call.complete`, `Native.Reply.completed` — what a call stores, with the blank made up for;
* `Native.Call.IsBlank` — a prepared value that does not tell the two apart;
* `Native.Twins` — **two drivers that differ in nothing else**;
* `Library.throughBuffer` — what the buffer leaves of a text.

Main results:

* `Native.Call.getD_complete` — whoever prepares the right value sees no difference;
* `Library.readErrorText_writeText` — the text behind the buffer;
* `Library.throughBuffer_of_fits` — short texts come through as they are;
* `Library.twins_forwarding` — **a driver and the library that forwards to it are twins**.
-/

import Offload.Proofs.Library.ErrorText

set_option autoImplicit false
set_option relaxedAutoImplicit false

namespace Offload

/-! ### Drivers that differ in blanks and texts -/

namespace Native

/-- What a call stores, where a handle, a pointer and a readiness flag are made up for if there is
none. -/
def Call.complete : (c : Call) → Option c.Stored → Option c.Stored
  | .create _ _, stored => some (stored.getD none)
  | .inputPointer _ _, stored | .outputPointer _ _, stored => some (stored.getD none)
  | .inputFull _ _, stored => some (stored.getD false)
  | .present _, stored | .close _, stored | .writeShell _ _ _, stored
  | .writeSoft _ _ _, stored | .send _ _ _, stored | .discard _ _, stored => stored
  | .readShell _ _, stored | .shellCount _, stored | .bufferCount _, stored
  | .bufferSize _, stored | .wait _ _, stored => stored
  | .readSoft _ _, stored => stored

/-- An answer with what is made up for. -/
def Reply.completed {c : Call} (r : Reply c) : Reply c := { r with stored := c.complete r.stored }

@[simp] theorem Reply.status_completed {c : Call} (r : Reply c) : r.completed.status = r.status :=
  rfl

/-- The value that a caller prepares for a call is the blank one, where blanks are made up for. -/
def Call.IsBlank : (c : Call) → c.Stored → Prop
  | .create _ _, prepared => prepared = none
  | .inputPointer _ _, prepared | .outputPointer _ _, prepared => prepared = none
  | .inputFull _ _, prepared => prepared = false
  | _, _ => True

/-- **Whoever has prepared the blank value sees no difference.** -/
theorem Call.getD_complete {c : Call} {prepared : c.Stored} (h : c.IsBlank prepared)
    (stored : Option c.Stored) : (c.complete stored).getD prepared = stored.getD prepared := by
  cases c with
  | create | inputPointer | outputPointer | inputFull =>
      obtain rfl := h
      cases stored <;> rfl
  | _ => rfl

/-- Two drivers over the same states that differ only in the blanks that one of them makes up for,
and in the texts of failures, which go through `f`. -/
structure Twins {σ : Type} (f : String → String) (D E : Driver σ) : Prop where
  call : ∀ c s, E.call c s = ((D.call c s).1.completed, (D.call c s).2)
  resume : ∀ c s, E.resume c s = ((D.resume c s).1.completed, (D.resume c s).2)
  lastError : E.lastError = D.lastError
  lastErrorText : ∀ s, E.lastErrorText s = (f (D.lastErrorText s).1, (D.lastErrorText s).2)
  store : E.store = D.store
  fetch : E.fetch = D.fetch
  blocks : E.blocks = D.blocks
  staysBlocked : E.staysBlocked = D.staysBlocked
  traps : E.traps = D.traps

end Native

/-! ### Texts through a buffer -/

namespace Library

open Native

/-- What a buffer of fixed size leaves of a text: its bytes up to the first NUL, but no more than
fit in front of a terminator. -/
def throughBuffer (text : String) : String :=
  Text.lossy (Text.cut ((Text.encode text).take (errorTextLength - 1)))

/-- **The text behind the buffer.** -/
theorem readErrorText_writeText (text : String) :
    readErrorText .success (writeText errorTextLength text) = throughBuffer text := by
  have hlength : (writeText errorTextLength text).length ≤ errorTextLength :=
    List.length_take_le _ _
  rw [readErrorText_success, throughBuffer]
  exact congrArg Text.lossy (cut_take_of_isPrefix (isPrefix_fillBuffer hlength))

/-- **A short text without a NUL comes through as it is.** -/
theorem throughBuffer_of_fits {text : String} (hnul : Text.nul ∉ text.toList)
    (hfits : (Text.encode text).length < errorTextLength) : throughBuffer text = text := by
  rw [throughBuffer, List.take_of_length_le (Nat.le_sub_one_of_lt hfits), Text.encode_eq_utf8,
    Text.cut_eq_self (mt Text.zero_mem_utf8.1 hnul), Text.lossy, Text.decodeLossy_utf8,
    String.ofList_toList]

end Library

/-! ### Forwarding libraries -/

namespace Library

open Native

/-- A readiness flag comes back as it went, whatever integer stands for it. -/
theorem fullOf_reportFull {full : Int32} (hfull : full ≠ 0) (stored : Option Bool) :
    fullOf (stored.map (reportFull full)) = stored.getD false := by
  cases stored with
  | none => rfl
  | some isFull => cases isFull <;> simp [fullOf, reportFull, hfull]

/-- **What a call stores comes back through the library**, with the blanks made up for. -/
theorem replyOf_forwardReply {full : Int32} (hfull : full ≠ 0) {σ : Type}
    (answer : (c : Call) → σ → Reply c × σ) (c : Call) (s : σ) :
    (replyOf c (forwardReply full (Entry.ofCall c) (answer (Entry.ofCall c).toCall s).1),
        (answer (Entry.ofCall c).toCall s).2) = ((answer c s).1.completed, (answer c s).2) := by
  cases c with
  | inputFull h slot =>
      have hstored := fullOf_reportFull hfull (answer (.inputFull h slot) s).1.stored
      exact Prod.ext (congrArg (fun isFull => (⟨_, some isFull, _⟩ : Reply (.inputFull h slot)))
        hstored) rfl
  | _ => rfl

/-- **A driver and the library that forwards to it are twins.** -/
theorem twins_forwarding {σ : Type} (D : Driver σ) {full : Int32} (hfull : full ≠ 0) :
    Twins throughBuffer D (driver (forwarding D full .success)) where
  call c s := replyOf_forwardReply hfull D.call c s
  resume c s := replyOf_forwardReply hfull D.resume c s
  lastError := rfl
  lastErrorText s := Prod.ext (readErrorText_writeText _) rfl
  store := rfl
  fetch := rfl
  blocks := by
    funext c s
    show D.blocks (Entry.ofCall c).toCall s = D.blocks c s
    rw [toCall_ofCall]
  staysBlocked := by
    funext c s
    show D.staysBlocked (Entry.ofCall c).toCall s = D.staysBlocked c s
    rw [toCall_ofCall]
  traps := by
    funext c s
    show D.traps (Entry.ofCall c).toCall s = D.traps c s
    rw [toCall_ofCall]

end Library

end Offload
