/-
**Text as bytes, and bytes as text.**

Text crosses the native interface as bytes that end at the first NUL.  Bytes that are not UTF-8
are still read: each longest beginning of a well-formed character that cannot be completed, and
each byte that can begin none, becomes one replacement character.

Main definitions:

* `Text.encode` — the UTF-8 bytes of a text;
* `Text.decodeLossy` — the characters of any bytes, with replacement characters;
* `Text.decodeStrict` — the text of bytes that are UTF-8 throughout;
* `Text.ofCString` — the text of a C string, where a missing one is empty.
-/

import Offload.Error

set_option autoImplicit false
set_option relaxedAutoImplicit false

namespace Offload.Text

/-- The UTF-8 bytes of a text. -/
def encode (s : String) : Bytes := s.toList.flatMap String.utf8EncodeChar

/-! ### The forms of a character -/

/-- The number of bytes in the form that a byte begins, and `0` for a byte that begins none. -/
def formLength (lead : UInt8) : Nat :=
  if lead < 0x80 then 1
  else if lead < 0xC2 then 0
  else if lead < 0xE0 then 2
  else if lead < 0xF0 then 3
  else if lead < 0xF5 then 4
  else 0

/-- A byte that continues a character. -/
def isContinuation (b : UInt8) : Bool := 0x80 ≤ b && b < 0xC0

/-- The second bytes that may follow a leading byte.  Four leading bytes narrow the range, which
keeps out overlong forms, surrogates and values above the last code point. -/
def isSecond (lead b : UInt8) : Bool :=
  if lead = 0xE0 then 0xA0 ≤ b && b < 0xC0
  else if lead = 0xED then 0x80 ≤ b && b < 0xA0
  else if lead = 0xF0 then 0x90 ≤ b && b < 0xC0
  else if lead = 0xF4 then 0x80 ≤ b && b < 0x90
  else isContinuation b

/-- The six payload bits of a continuation byte. -/
def payload (b : UInt8) : Nat := b.toNat % 64

/-- The character of a two-byte form. -/
def char₂ (a b : UInt8) : Char := Char.ofNat (a.toNat % 32 * 64 + payload b)

/-- The character of a three-byte form. -/
def char₃ (a b c : UInt8) : Char :=
  Char.ofNat ((a.toNat % 16 * 64 + payload b) * 64 + payload c)

/-- The character of a four-byte form. -/
def char₄ (a b c d : UInt8) : Char :=
  Char.ofNat (((a.toNat % 8 * 64 + payload b) * 64 + payload c) * 64 + payload d)

/-- Stands for bytes that form no character. -/
def replacement : Char := Char.ofNat 0xFFFD

/-! ### Reading -/

/-- What stands at the beginning of a byte string: a character or an unreadable piece, with the
number of bytes after the first that belong to it. -/
inductive Piece where
  | char (c : Char) (extra : Nat)
  | broken (extra : Nat)
  deriving DecidableEq

/-- The piece that begins with `lead` and goes on in `rest`.  A broken piece takes the bytes that
could still have become a character, and at least its first byte. -/
def piece (lead : UInt8) (rest : Bytes) : Piece :=
  match formLength lead, rest with
  | 1, _ => .char (Char.ofNat lead.toNat) 0
  | 2, b :: _ => if isSecond lead b then .char (char₂ lead b) 1 else .broken 0
  | 3, b :: c :: _ =>
      if isSecond lead b then
        if isContinuation c then .char (char₃ lead b c) 2 else .broken 1
      else .broken 0
  | 3, [b] => if isSecond lead b then .broken 1 else .broken 0
  | 4, b :: c :: d :: _ =>
      if isSecond lead b then
        if isContinuation c then
          if isContinuation d then .char (char₄ lead b c d) 3 else .broken 2
        else .broken 1
      else .broken 0
  | 4, [b, c] =>
      if isSecond lead b then if isContinuation c then .broken 2 else .broken 1 else .broken 0
  | 4, [b] => if isSecond lead b then .broken 1 else .broken 0
  | _, _ => .broken 0

/-- The characters of any bytes, with one replacement character for each broken piece. -/
def decodeLossy : Bytes → List Char
  | [] => []
  | lead :: rest =>
      match piece lead rest with
      | .char c extra => c :: decodeLossy (rest.drop extra)
      | .broken extra => replacement :: decodeLossy (rest.drop extra)
  termination_by bs => bs.length
  decreasing_by all_goals (simp only [List.length_drop, List.length_cons]; omega)

/-- The characters of bytes that are UTF-8 throughout. -/
def decodeStrict : Bytes → Option (List Char)
  | [] => some []
  | lead :: rest =>
      match piece lead rest with
      | .char c extra => (decodeStrict (rest.drop extra)).map (c :: ·)
      | .broken _ => none
  termination_by bs => bs.length
  decreasing_by all_goals (simp only [List.length_drop, List.length_cons]; omega)

@[simp] theorem decodeLossy_nil : decodeLossy [] = [] := by simp [decodeLossy]

theorem decodeLossy_cons (lead : UInt8) (rest : Bytes) :
    decodeLossy (lead :: rest) =
      match piece lead rest with
      | .char c extra => c :: decodeLossy (rest.drop extra)
      | .broken extra => replacement :: decodeLossy (rest.drop extra) := by
  rw [decodeLossy]

/-- The text of any bytes, with replacement characters. -/
def lossy (bs : Bytes) : String := String.ofList (decodeLossy bs)

/-- The text of bytes, if they are UTF-8 throughout. -/
def strict? (bs : Bytes) : Option String := (decodeStrict bs).map String.ofList

/-! ### C strings -/

/-- The bytes of a C string: those before the first NUL. -/
def cut (bs : Bytes) : Bytes := bs.takeWhile (· ≠ 0)

/-- The text of a C string, where the null pointer reads as the empty text. -/
def ofCString : Option Bytes → String
  | none => ""
  | some bs => lossy (cut bs)

/-- A text can be handed over as a C string only if it holds no NUL. -/
def hasNul (s : String) : Bool := s.toList.any (· = Char.ofNat 0)

end Offload.Text
