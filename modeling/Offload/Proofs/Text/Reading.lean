/-
**What the reader of bytes does.**

The reader looks at bytes one form at a time and knows the forms by their ranges.  Here it is held
to what a form is: the bytes of a character, and nothing else.  So it reads back what was written;
and where no character stands, it takes the longest beginning of one that stands there, or one byte
if none does.

Text that is cut off after a number of bytes then loses its last character or none.  A character
that the limit splits leaves a beginning of itself behind, which reads as one replacement
character, unless a NUL has ended the text before.

Main definitions:

* `Text.utf8` — the bytes of characters;
* `Text.IsForm` — the bytes of a character, by arithmetic;
* `Text.Begins`, `Text.IsUnreadable` — beginnings of characters; a piece that cannot be read;
* `Text.Reads` — **the reading of any bytes**, with no reader in sight;
* `Text.IsKept`, `Text.Splits` — what a limit leaves of a text, and whether it splits a character.

Main results:

* `Text.encode_of_piece`, `Text.piece_of_encode` — a piece is read as a character exactly when it is
  the form of that character;
* `Text.isUnreadable_of_piece` — and is broken only where none can be read;
* `Text.reads_iff` — **the reader yields the reading, and there is no other**;
* `Text.decodeLossy_utf8` — what was written is read back;
* `Text.decodeLossy_cut_take` — **text behind a limit**.
-/

import Offload.Text.Utf8
import Mathlib.Data.List.Basic
import Mathlib.Data.List.TakeWhile

set_option autoImplicit false
set_option relaxedAutoImplicit false

namespace Offload.Text

variable {lead b d : UInt8} {tail rest front back bs : Bytes} {c : Char} {cs : List Char} {k : Nat}

/-- The bytes of characters. -/
def utf8 (cs : List Char) : Bytes := cs.flatMap String.utf8EncodeChar

@[simp] theorem utf8_nil : utf8 [] = [] := rfl

@[simp] theorem utf8_cons (c : Char) (cs : List Char) :
    utf8 (c :: cs) = String.utf8EncodeChar c ++ utf8 cs := List.flatMap_cons

theorem encode_eq_utf8 (s : String) : encode s = utf8 s.toList := rfl

/-! ### Ranges of bytes -/

theorem formLength_eq (lead : UInt8) :
    formLength lead =
      if lead.toNat < 0x80 then 1 else if lead.toNat < 0xC2 then 0
      else if lead.toNat < 0xE0 then 2 else if lead.toNat < 0xF0 then 3
      else if lead.toNat < 0xF5 then 4 else 0 := by
  simp only [formLength, UInt8.lt_iff_toNat_lt]
  rfl

theorem formLength_le (lead : UInt8) : formLength lead ≤ 4 := by
  rw [formLength_eq]
  repeat' split
  all_goals decide

theorem formLength_eq_one : formLength lead = 1 ↔ lead.toNat < 0x80 := by
  rw [formLength_eq]
  repeat' split
  all_goals omega

theorem formLength_eq_two : formLength lead = 2 ↔ 0xC2 ≤ lead.toNat ∧ lead.toNat < 0xE0 := by
  rw [formLength_eq]
  repeat' split
  all_goals omega

theorem formLength_eq_three : formLength lead = 3 ↔ 0xE0 ≤ lead.toNat ∧ lead.toNat < 0xF0 := by
  rw [formLength_eq]
  repeat' split
  all_goals omega

theorem formLength_eq_four : formLength lead = 4 ↔ 0xF0 ≤ lead.toNat ∧ lead.toNat < 0xF5 := by
  rw [formLength_eq]
  repeat' split
  all_goals omega

theorem isContinuation_iff : isContinuation b = true ↔ 0x80 ≤ b.toNat ∧ b.toNat < 0xC0 := by
  simp [isContinuation, UInt8.lt_iff_toNat_lt, UInt8.le_iff_toNat_le]

theorem isSecond_iff :
    isSecond lead b = true ↔
      0x80 ≤ b.toNat ∧ b.toNat < 0xC0 ∧
        (lead.toNat = 0xE0 → 0xA0 ≤ b.toNat) ∧ (lead.toNat = 0xED → b.toNat < 0xA0) ∧
        (lead.toNat = 0xF0 → 0x90 ≤ b.toNat) ∧ (lead.toNat = 0xF4 → b.toNat < 0x90) := by
  simp only [isSecond, isContinuation, ← UInt8.toNat_inj, UInt8.reduceToNat]
  repeat' split
  all_goals
    simp only [Bool.and_eq_true, decide_eq_true_eq, UInt8.lt_iff_toNat_lt, UInt8.le_iff_toNat_le,
      UInt8.reduceToNat]
    omega

/-! ### The form of a character -/

/-- The bytes are the form of the character: its bits, six to each byte after the first. -/
inductive IsForm (c : Char) : Bytes → Prop
  | one {a₀ : UInt8} : c.toNat < 0x80 → a₀.toNat = c.toNat → IsForm c [a₀]
  | two {a₀ a₁ : UInt8} : 0x80 ≤ c.toNat → c.toNat < 0x800 →
      a₀.toNat = c.toNat / 64 + 192 → a₁.toNat = c.toNat % 64 + 128 → IsForm c [a₀, a₁]
  | three {a₀ a₁ a₂ : UInt8} : 0x800 ≤ c.toNat → c.toNat < 0x10000 →
      a₀.toNat = c.toNat / 4096 + 224 → a₁.toNat = c.toNat / 64 % 64 + 128 →
      a₂.toNat = c.toNat % 64 + 128 → IsForm c [a₀, a₁, a₂]
  | four {a₀ a₁ a₂ a₃ : UInt8} : 0x10000 ≤ c.toNat →
      a₀.toNat = c.toNat / 262144 + 240 → a₁.toNat = c.toNat / 4096 % 64 + 128 →
      a₂.toNat = c.toNat / 64 % 64 + 128 → a₃.toNat = c.toNat % 64 + 128 →
      IsForm c [a₀, a₁, a₂, a₃]

/-- No character is a surrogate or lies above the last code point. -/
theorem toNat_valid (c : Char) : c.toNat < 0xD800 ∨ 0xDFFF < c.toNat ∧ c.toNat < 0x110000 := c.valid

theorem toNat_charOfNat {n : Nat} (h : n < 0xD800 ∨ 0xDFFF < n ∧ n < 0x110000) :
    (Char.ofNat n).toNat = n := by
  rw [Char.ofNat, dif_pos h]
  rfl

theorem utf8EncodeChar_eq (c : Char) :
    String.utf8EncodeChar c =
      if c.toNat ≤ 0x7F then [UInt8.ofNat c.toNat]
      else if c.toNat ≤ 0x7FF then
        [UInt8.ofNat (c.toNat / 64 % 32 + 192), UInt8.ofNat (c.toNat % 64 + 128)]
      else if c.toNat ≤ 0xFFFF then
        [UInt8.ofNat (c.toNat / 4096 % 16 + 224), UInt8.ofNat (c.toNat / 64 % 64 + 128),
          UInt8.ofNat (c.toNat % 64 + 128)]
      else
        [UInt8.ofNat (c.toNat / 262144 % 8 + 240), UInt8.ofNat (c.toNat / 4096 % 64 + 128),
          UInt8.ofNat (c.toNat / 64 % 64 + 128), UInt8.ofNat (c.toNat % 64 + 128)] :=
  rfl

theorem isForm_encode (c : Char) : IsForm c (String.utf8EncodeChar c) := by
  have hvalid := toNat_valid c
  have byte {n m : Nat} (h : n = m) (hlt : n < 256) : (UInt8.ofNat n).toNat = m :=
    (UInt8.toNat_ofNat_of_lt' hlt).trans h
  rw [utf8EncodeChar_eq]
  split
  · exact .one (by omega) (byte rfl (by omega))
  split
  · exact .two (by omega) (by omega) (byte (by omega) (by omega)) (byte rfl (by omega))
  split
  · exact .three (by omega) (by omega) (byte (by omega) (by omega)) (byte rfl (by omega))
      (byte rfl (by omega))
  · exact .four (by omega) (byte (by omega) (by omega)) (byte rfl (by omega))
      (byte rfl (by omega)) (byte rfl (by omega))

/-- A character has one form. -/
theorem IsForm.unique {bs bs' : Bytes} (h : IsForm c bs) (h' : IsForm c bs') : bs = bs' := by
  have hvalues : bs.map UInt8.toNat = bs'.map UInt8.toNat := by
    cases h <;> cases h' <;> first | omega | simp only [List.map_cons, List.map_nil, *]
  exact List.map_injective_iff.2 (fun _ _ => UInt8.toNat_inj.1) hvalues

theorem IsForm.ne_nil (h : IsForm c bs) : bs ≠ [] := by
  cases h <;> exact List.cons_ne_nil _ _

/-- A form is read, whatever stands behind it. -/
theorem IsForm.piece_eq (h : IsForm c (lead :: tail)) (more : Bytes) :
    piece lead (tail ++ more) = .char c tail.length := by
  have hvalid := toNat_valid c
  cases h with
  | one h ha =>
      have hform : formLength lead = 1 := formLength_eq_one.2 (by omega)
      simp only [piece, hform, ha, Char.ofNat_toNat, List.length_nil]
  | @two _ a₁ h h' ha ha₁ =>
      have hform : formLength lead = 2 := formLength_eq_two.2 (by omega)
      have hsecond : isSecond lead a₁ = true := isSecond_iff.2 (by omega)
      have hchar : char₂ lead a₁ = c := by
        rw [char₂, payload, show lead.toNat % 32 * 64 + a₁.toNat % 64 = c.toNat by omega,
          Char.ofNat_toNat]
      simp only [piece, hform, List.cons_append, hsecond, hchar, if_true, List.length_cons,
        List.length_nil, List.nil_append]
  | @three _ a₁ a₂ h h' ha ha₁ ha₂ =>
      have hform : formLength lead = 3 := formLength_eq_three.2 (by omega)
      have hsecond : isSecond lead a₁ = true := isSecond_iff.2 (by omega)
      have hthird : isContinuation a₂ = true := isContinuation_iff.2 (by omega)
      have hchar : char₃ lead a₁ a₂ = c := by
        rw [char₃, payload, payload,
          show (lead.toNat % 16 * 64 + a₁.toNat % 64) * 64 + a₂.toNat % 64 = c.toNat by omega,
          Char.ofNat_toNat]
      simp only [piece, hform, List.cons_append, hsecond, hthird, hchar, if_true, List.length_cons,
        List.length_nil, List.nil_append]
  | @four _ a₁ a₂ a₃ h ha ha₁ ha₂ ha₃ =>
      have hform : formLength lead = 4 := formLength_eq_four.2 (by omega)
      have hsecond : isSecond lead a₁ = true := isSecond_iff.2 (by omega)
      have hthird : isContinuation a₂ = true := isContinuation_iff.2 (by omega)
      have hfourth : isContinuation a₃ = true := isContinuation_iff.2 (by omega)
      have hchar : char₄ lead a₁ a₂ a₃ = c := by
        rw [char₄, payload, payload, payload,
          show ((lead.toNat % 8 * 64 + a₁.toNat % 64) * 64 + a₂.toNat % 64) * 64 +
            a₃.toNat % 64 = c.toNat by omega,
          Char.ofNat_toNat]
      simp only [piece, hform, List.cons_append, hsecond, hthird, hfourth, hchar, if_true,
        List.length_cons, List.length_nil, List.nil_append]

/-- What is read as a character is a form of it. -/
theorem isForm_of_piece (h : piece lead rest = .char c k) : IsForm c (lead :: rest.take k) := by
  revert h
  fun_cases piece lead rest <;> intro h <;> try exact Piece.noConfusion h
  all_goals
    injection h with hc hk
    subst hc hk
  case case1 hform =>
    have hlead := formLength_eq_one.1 hform
    have hnat := toNat_charOfNat (.inl (Nat.lt_trans hlead (by decide)))
    exact .one (by omega) hnat.symm
  case case2 a₁ rest hform hsecond =>
    have hlead := formLength_eq_two.1 hform
    have ha₁ := isSecond_iff.1 hsecond
    have hnat : (char₂ lead a₁).toNat = _ := toNat_charOfNat (by simp only [payload]; omega)
    simp only [payload] at hnat
    exact .two (by omega) (by omega) (by omega) (by omega)
  case case4 a₁ a₂ rest hform hsecond hthird =>
    have hlead := formLength_eq_three.1 hform
    have ha₁ := isSecond_iff.1 hsecond
    have ha₂ := isContinuation_iff.1 hthird
    have hnat : (char₃ lead a₁ a₂).toNat = _ := toNat_charOfNat (by simp only [payload]; omega)
    simp only [payload] at hnat
    exact .three (by omega) (by omega) (by omega) (by omega) (by omega)
  case case9 a₁ a₂ a₃ rest hform hsecond hthird hfourth =>
    have hlead := formLength_eq_four.1 hform
    have ha₁ := isSecond_iff.1 hsecond
    have ha₂ := isContinuation_iff.1 hthird
    have ha₃ := isContinuation_iff.1 hfourth
    have hnat : (char₄ lead a₁ a₂ a₃).toNat = _ := toNat_charOfNat (by simp only [payload]; omega)
    simp only [payload] at hnat
    exact .four (by omega) (by omega) (by omega) (by omega) (by omega)

theorem encode_ne_nil (c : Char) : String.utf8EncodeChar c ≠ [] := (isForm_encode c).ne_nil

theorem piece_of_encode (h : String.utf8EncodeChar c = lead :: tail) (more : Bytes) :
    piece lead (tail ++ more) = .char c tail.length :=
  (h ▸ isForm_encode c : IsForm c (lead :: tail)).piece_eq more

theorem encode_of_piece (h : piece lead rest = .char c k) :
    String.utf8EncodeChar c = lead :: rest.take k :=
  (isForm_encode c).unique (isForm_of_piece h)

/-- No form begins another. -/
theorem eq_of_encode_isPrefix {c c' : Char}
    (h : String.utf8EncodeChar c <+: String.utf8EncodeChar c') : c = c' := by
  obtain ⟨more, hmore⟩ := h
  obtain ⟨lead, tail, htail⟩ := List.exists_cons_of_ne_nil (encode_ne_nil c)
  rw [htail, List.cons_append] at hmore
  have hchar := piece_of_encode hmore.symm []
  rw [List.append_nil, piece_of_encode htail more] at hchar
  injection hchar

/-! ### Broken pieces -/

/-- The bytes begin a character, or are one. -/
def Begins (bs : Bytes) : Prop := ∃ c, bs <+: String.utf8EncodeChar c

/-- A lead and a byte that may follow it, -/
theorem begins_second (hform : formLength lead = 3 ∨ formLength lead = 4)
    (hb : isSecond lead b = true) : Begins [lead, b] := by
  have hcontinues : isContinuation 0x80 = true := rfl
  rcases hform with hform | hform
  · have h : piece lead [b, 0x80] = .char (char₃ lead b 0x80) 2 := by
      simp only [piece, hform, hb, hcontinues, if_true]
    exact ⟨_, [0x80], (encode_of_piece h).symm⟩
  · have h : piece lead [b, 0x80, 0x80] = .char (char₄ lead b 0x80 0x80) 3 := by
      simp only [piece, hform, hb, hcontinues, if_true]
    exact ⟨_, [0x80, 0x80], (encode_of_piece h).symm⟩

/-- and one more in a form of four, can be completed. -/
theorem begins_third (hform : formLength lead = 4) (hb : isSecond lead b = true)
    (hd : isContinuation d = true) : Begins [lead, b, d] := by
  have hcontinues : isContinuation 0x80 = true := rfl
  have h : piece lead [b, d, 0x80] = .char (char₄ lead b d 0x80) 3 := by
    simp only [piece, hform, hb, hd, hcontinues, if_true]
  exact ⟨_, [0x80], (encode_of_piece h).symm⟩

/-- A broken piece of more than one byte begins a character. -/
theorem begins_of_broken (h : piece lead rest = .broken k) (hk : k ≠ 0) :
    Begins (lead :: rest.take k) := by
  revert h hk
  fun_cases piece lead rest <;> intro h hk <;> try exact Piece.noConfusion h
  all_goals
    injection h with h
    subst h
  case case5 hform hb _ | case7 hform hb => exact begins_second (.inl hform) hb
  case case11 hform hb _ | case14 hform hb _ | case16 hform hb => exact begins_second (.inr hform) hb
  case case10 hform hb hd _ | case13 hform hb hd => exact begins_third hform hb hd
  all_goals exact absurd rfl hk

theorem le_length_of_broken (h : piece lead rest = .broken k) : k ≤ rest.length := by
  revert h
  fun_cases piece lead rest <;> intro h <;> try exact Piece.noConfusion h
  all_goals
    injection h with h
    subst h
    simp

/-- What breaks a piece is the byte behind it, whatever follows that one. -/
theorem broken_append (h : piece lead rest = .broken k) (hk : k < rest.length) (more : Bytes) :
    piece lead (rest.take (k + 1) ++ more) = .broken k := by
  revert h hk
  fun_cases piece lead rest <;> intro h hk <;> try exact Piece.noConfusion h
  all_goals
    injection h with h
    subst h
  case case18 hone htwo hthree hthree' hfour hfour' hfour'' =>
    -- there are more bytes than the lead, and still no case fits: it leads no form
    obtain ⟨b, rest, rfl⟩ := List.exists_cons_of_length_pos hk
    have h₁ : formLength lead ≠ 1 := hone
    have h₂ : formLength lead ≠ 2 := fun h => htwo b rest h rfl
    have h₃ : formLength lead ≠ 3 := fun h =>
      match rest with
      | [] => hthree' b h rfl
      | d :: rest => hthree b d rest h rfl
    have h₄ : formLength lead ≠ 4 := fun h =>
      match rest with
      | [] => hfour'' b h rfl
      | [d] => hfour' b d h rfl
      | d :: e :: rest => hfour b d e rest h rfl
    have hzero : formLength lead = 0 := by
      have := formLength_le lead
      omega
    simp only [piece, hzero]
  all_goals
    rcases more with _ | ⟨d, _ | ⟨e, more⟩⟩ <;> simp_all [piece]

/-- The first bytes cannot be read: no character stands there, and they are the longest beginning
of one, or a single byte if none begins there. -/
structure IsUnreadable (front rest : Bytes) : Prop where
  ne_nil : front ≠ []
  stuck : ∀ c, ¬ String.utf8EncodeChar c <+: front ++ rest
  begins : Begins front ∨ front.length = 1
  longest : ∀ longer, longer <+: front ++ rest → Begins longer → longer.length ≤ front.length

/-- **A broken piece is one that cannot be read.** -/
theorem isUnreadable_of_piece (h : piece lead rest = .broken k) :
    IsUnreadable (lead :: rest.take k) (rest.drop k) := by
  have hwhole : lead :: rest.take k ++ rest.drop k = lead :: rest := by
    rw [List.cons_append, List.take_append_drop]
  have hle := le_length_of_broken h
  refine ⟨List.cons_ne_nil _ _, ?_, ?_, ?_⟩
  · -- a form would be read
    rw [hwhole]
    rintro c ⟨more, hmore⟩
    obtain ⟨lead', tail, htail⟩ := List.exists_cons_of_ne_nil (encode_ne_nil c)
    rw [htail, List.cons_append] at hmore
    injection hmore with hlead hrest
    subst hlead hrest
    rw [piece_of_encode htail more] at h
    exact Piece.noConfusion h
  · by_cases hk : k = 0
    · exact .inr (by simp [hk])
    · exact .inl (begins_of_broken h hk)
  · -- a longer beginning would hold the byte that breaks the piece, and so would its character
    rw [hwhole, List.length_cons, List.length_take_of_le hle]
    rintro longer hlonger ⟨c, hc⟩
    by_contra hlt
    obtain ⟨lead', tail, htail⟩ := List.exists_cons_of_ne_nil (encode_ne_nil c)
    obtain ⟨longer, rfl⟩ : ∃ more, longer = lead :: more := by
      obtain ⟨_, hmore⟩ := hlonger
      cases longer with
      | nil => simp at hlt
      | cons b longer => exact ⟨longer, by injection hmore with hb; rw [hb]⟩
    rw [htail, List.cons_prefix_cons] at hc
    obtain ⟨rfl, more, rfl⟩ := hc
    obtain ⟨more', rfl⟩ := (List.cons_prefix_cons.1 hlonger).2
    simp only [List.length_cons, not_le, Nat.succ_lt_succ_iff] at hlt
    have hk : k < (longer ++ more').length := by
      rw [List.length_append]
      omega
    have hbroken := broken_append h hk (longer.drop (k + 1) ++ more)
    rw [List.take_append_of_le_length hlt, ← List.append_assoc, List.take_append_drop] at hbroken
    have hchar := piece_of_encode htail []
    rw [List.append_nil, hbroken] at hchar
    exact Piece.noConfusion hchar

theorem IsUnreadable.length_eq {front' back' : Bytes} (h : IsUnreadable front back)
    (h' : IsUnreadable front' back') (heq : front ++ back = front' ++ back') :
    front.length = front'.length := by
  have hle {front back front' back' : Bytes} (h : IsUnreadable front back)
      (h' : IsUnreadable front' back') (heq : front ++ back = front' ++ back') :
      front.length ≤ front'.length := by
    rcases h.begins with hbegins | hone
    · exact h'.longest front (heq ▸ List.prefix_append _ _) hbegins
    · rw [hone]
      exact List.length_pos_of_ne_nil h'.ne_nil
  exact Nat.le_antisymm (hle h h' heq) (hle h' h heq.symm)

/-! ### Reading -/

/-- The characters that bytes read as: each form as its character, and each piece that cannot be
read as one replacement character. -/
inductive Reads : Bytes → List Char → Prop
  | nil : Reads [] []
  | char (c : Char) {bs : Bytes} {cs : List Char} : Reads bs cs →
      Reads (String.utf8EncodeChar c ++ bs) (c :: cs)
  | broken {front bs : Bytes} {cs : List Char} : IsUnreadable front bs → Reads bs cs →
      Reads (front ++ bs) (replacement :: cs)

theorem reads_decodeLossy (bs : Bytes) : Reads bs (decodeLossy bs) := by
  fun_induction decodeLossy bs with
  | case1 => exact .nil
  | case2 lead rest c k h ih =>
      have hreads := Reads.char c ih
      rwa [encode_of_piece h, List.cons_append, List.take_append_drop] at hreads
  | case3 lead rest k h ih =>
      have hreads := Reads.broken (isUnreadable_of_piece h) ih
      rwa [List.cons_append, List.take_append_drop] at hreads

theorem decodeLossy_encode_append (c : Char) (bs : Bytes) :
    decodeLossy (String.utf8EncodeChar c ++ bs) = c :: decodeLossy bs := by
  obtain ⟨lead, tail, htail⟩ := List.exists_cons_of_ne_nil (encode_ne_nil c)
  rw [htail, List.cons_append, decodeLossy_cons, piece_of_encode htail bs]
  simp only [List.drop_left]

theorem decodeLossy_unreadable_append (h : IsUnreadable front back) :
    decodeLossy (front ++ back) = replacement :: decodeLossy back := by
  obtain ⟨lead, tail, rfl⟩ := List.exists_cons_of_ne_nil h.ne_nil
  rw [List.cons_append, decodeLossy_cons]
  cases hpiece : piece lead (tail ++ back) with
  | char c k =>
      refine absurd ?_ (h.stuck c)
      rw [encode_of_piece hpiece, List.cons_append]
      exact List.cons_prefix_cons.2 ⟨rfl, List.take_prefix _ _⟩
  | broken k =>
      have hle := le_length_of_broken hpiece
      have hlength := h.length_eq (isUnreadable_of_piece hpiece)
        (by rw [List.cons_append, List.cons_append, List.take_append_drop])
      rw [List.length_cons, List.length_cons, List.length_take_of_le hle,
        Nat.succ_inj] at hlength
      simp only [← hlength, List.drop_left]

/-- **The reader yields the reading of the bytes, and there is no other.** -/
theorem reads_iff : Reads bs cs ↔ decodeLossy bs = cs := by
  constructor
  · intro h
    induction h with
    | nil => exact decodeLossy_nil
    | char c _ ih => rw [decodeLossy_encode_append, ih]
    | broken h _ ih => rw [decodeLossy_unreadable_append h, ih]
  · rintro rfl
    exact reads_decodeLossy bs

/-- What was written is read back, and then what stands behind it. -/
theorem decodeLossy_utf8_append (cs : List Char) (bs : Bytes) :
    decodeLossy (utf8 cs ++ bs) = cs ++ decodeLossy bs := by
  induction cs with
  | nil => rfl
  | cons c cs ih => rw [utf8_cons, List.append_assoc, decodeLossy_encode_append, ih, List.cons_append]

theorem decodeLossy_utf8 (cs : List Char) : decodeLossy (utf8 cs) = cs := by
  have h := decodeLossy_utf8_append cs []
  rwa [List.append_nil, decodeLossy_nil, List.append_nil] at h

/-- A character that breaks off reads as one replacement character. -/
theorem decodeLossy_of_breaks_off (hne : bs ≠ []) (h : bs <+: String.utf8EncodeChar c)
    (hlt : bs.length < (String.utf8EncodeChar c).length) : decodeLossy bs = [replacement] := by
  have hunreadable : IsUnreadable bs [] := by
    refine ⟨hne, fun c' hc' => ?_, .inl ⟨c, h⟩, fun longer hlonger _ => ?_⟩
    · rw [List.append_nil] at hc'
      have heq := eq_of_encode_isPrefix (hc'.trans h)
      subst heq
      exact Nat.not_le.2 hlt hc'.length_le
    · rw [List.append_nil] at hlonger
      exact hlonger.length_le
  have hreads := decodeLossy_unreadable_append hunreadable
  rwa [List.append_nil, decodeLossy_nil] at hreads

/-! ### Text behind a limit -/

/-- The character that ends a C string. -/
def nul : Char := Char.ofNat 0

theorem zero_mem_encode : (0 : UInt8) ∈ String.utf8EncodeChar c ↔ c = nul := by
  have hnat : c = nul ↔ c.toNat = 0 :=
    ⟨fun h => h ▸ rfl, fun h => by rw [← Char.ofNat_toNat c, h, nul]⟩
  have hform := isForm_encode c
  generalize String.utf8EncodeChar c = bs at hform
  rw [hnat]
  cases hform <;>
    simp only [List.mem_cons, List.not_mem_nil, or_false, ← UInt8.toNat_inj, UInt8.reduceToNat] <;>
    omega

theorem zero_mem_utf8 : (0 : UInt8) ∈ utf8 cs ↔ nul ∈ cs := by
  rw [utf8, List.mem_flatMap]
  constructor
  · rintro ⟨c, hc, hzero⟩
    exact zero_mem_encode.1 hzero ▸ hc
  · exact fun h => ⟨nul, h, zero_mem_encode.2 rfl⟩

/-- A C string ends at its first NUL. -/
theorem cut_append_nul (front rest : Bytes) : cut (front ++ 0 :: rest) = cut front := by
  induction front with
  | nil => rfl
  | cons b front ih =>
      by_cases hb : b = 0
      · simp [cut, hb]
      · have h : cut (b :: (front ++ 0 :: rest)) = b :: cut (front ++ 0 :: rest) := by
          simp [cut, hb]
        rw [List.cons_append, h, ih]
        simp [cut, hb]

theorem cut_append (h : 0 ∉ front) : cut (front ++ rest) = front ++ cut rest :=
  List.takeWhile_append_of_pos fun b hb => by
    simpa using fun hzero : b = 0 => h (hzero ▸ hb)

theorem cut_eq_self (h : 0 ∉ bs) : cut bs = bs := by
  have happend : cut (bs ++ []) = bs ++ cut [] := cut_append h
  rwa [List.append_nil, show cut [] = [] from rfl, List.append_nil] at happend

/-- The first of the characters: as many as lie within the limit and in front of the first NUL. -/
structure IsKept (limit : Nat) (cs front : List Char) : Prop where
  begins : front <+: cs
  fits : (utf8 front).length ≤ limit
  nul_notMem : nul ∉ front
  longest : ∀ other, other <+: cs → (utf8 other).length ≤ limit → nul ∉ other → other <+: front

/-- The limit falls inside a character. -/
def Splits (limit : Nat) (cs : List Char) : Prop :=
  ∃ before c after, cs = before ++ c :: after ∧ (utf8 before).length < limit ∧
    limit < (utf8 before).length + (String.utf8EncodeChar c).length

theorem IsKept.nil_of_lt {limit : Nat} (h : c = nul ∨ limit < (String.utf8EncodeChar c).length) :
    IsKept limit (c :: cs) [] := by
  refine ⟨List.nil_prefix, Nat.zero_le _, List.not_mem_nil, fun other hother hfits hnul => ?_⟩
  cases other with
  | nil => exact List.nil_prefix
  | cons c' other =>
      obtain ⟨rfl, -⟩ := List.cons_prefix_cons.1 hother
      rw [utf8_cons, List.length_append] at hfits
      rcases h with rfl | h
      · exact absurd List.mem_cons_self hnul
      · omega

theorem IsKept.cons {limit : Nat} {kept : List Char} (hnul : c ≠ nul)
    (hle : (String.utf8EncodeChar c).length ≤ limit)
    (h : IsKept (limit - (String.utf8EncodeChar c).length) cs kept) :
    IsKept limit (c :: cs) (c :: kept) := by
  refine ⟨List.cons_prefix_cons.2 ⟨rfl, h.begins⟩, ?_, ?_, fun other hother hfits hnul' => ?_⟩
  · have := h.fits
    rw [utf8_cons, List.length_append]
    omega
  · rw [List.mem_cons]
    exact not_or.2 ⟨hnul.symm, h.nul_notMem⟩
  · cases other with
    | nil => exact List.nil_prefix
    | cons c' other =>
        obtain ⟨rfl, hrest⟩ := List.cons_prefix_cons.1 hother
        rw [utf8_cons, List.length_append] at hfits
        exact List.cons_prefix_cons.2
          ⟨rfl, h.longest other hrest (by omega) fun hmem => hnul' (List.mem_cons_of_mem _ hmem)⟩

theorem splits_cons {limit : Nat} (hle : (String.utf8EncodeChar c).length ≤ limit) :
    Splits limit (c :: cs) ↔ Splits (limit - (String.utf8EncodeChar c).length) cs := by
  constructor
  · rintro ⟨before, c', after, heq, hlt, hlt'⟩
    cases before with
    | nil =>
        obtain ⟨rfl, rfl⟩ := List.cons_eq_cons.1 heq
        simp only [utf8_nil, List.length_nil] at hlt'
        omega
    | cons d before =>
        obtain ⟨rfl, rfl⟩ := List.cons_eq_cons.1 heq
        rw [utf8_cons, List.length_append] at hlt hlt'
        exact ⟨before, c', after, rfl, by omega, by omega⟩
  · rintro ⟨before, c', after, rfl, hlt, hlt'⟩
    refine ⟨c :: before, c', after, rfl, ?_, ?_⟩ <;> rw [utf8_cons, List.length_append] <;> omega

theorem not_splits_zero : ¬ Splits 0 cs := by
  rintro ⟨_, _, _, _, hlt, _⟩
  exact Nat.not_lt_zero _ hlt

/-- **Text behind a limit.**  What is read in front of the first NUL is the text up to the last
character that ends within the limit; a character that the limit splits adds one replacement
character, unless a NUL has come before. -/
theorem decodeLossy_cut_take (limit : Nat) (cs : List Char) :
    ∃ kept, IsKept limit cs kept ∧
      (0 ∉ (utf8 cs).take limit ∧ Splits limit cs →
        decodeLossy (cut ((utf8 cs).take limit)) = kept ++ [replacement]) ∧
      (¬ (0 ∉ (utf8 cs).take limit ∧ Splits limit cs) →
        decodeLossy (cut ((utf8 cs).take limit)) = kept) := by
  induction cs generalizing limit with
  | nil =>
      refine ⟨[], ⟨List.prefix_rfl, Nat.zero_le _, List.not_mem_nil, fun _ h _ _ => h⟩, ?_, ?_⟩
      · rintro ⟨-, before, c, after, heq, -⟩
        exact absurd heq.symm (List.append_ne_nil_of_right_ne_nil _ (List.cons_ne_nil _ _))
      · intro _
        rw [utf8_nil, List.take_nil, cut, List.takeWhile_nil, decodeLossy_nil]
  | cons c cs ih =>
      rw [utf8_cons]
      by_cases hnul : c = nul
      · -- the text ends here, whether or not the limit has been reached
        subst hnul
        have hwhole : cut ((String.utf8EncodeChar nul ++ utf8 cs).take limit) = [] := by
          cases limit with
          | zero => rfl
          | succ limit => exact cut_append_nul [] _
        refine ⟨[], .nil_of_lt (.inl rfl), fun h => ?_, fun _ => by rw [hwhole, decodeLossy_nil]⟩
        cases limit with
        | zero => exact absurd h.2 not_splits_zero
        | succ limit => exact absurd List.mem_cons_self h.1
      have hzero : (0 : UInt8) ∉ String.utf8EncodeChar c := mt zero_mem_encode.1 hnul
      by_cases hle : (String.utf8EncodeChar c).length ≤ limit
      · -- the character is kept, and so is what is kept of the rest
        obtain ⟨kept, hkept, hsplit, hwhole⟩ := ih (limit - (String.utf8EncodeChar c).length)
        rw [List.take_append, List.take_of_length_le hle, cut_append hzero,
          decodeLossy_encode_append, List.mem_append, not_or, splits_cons hle]
        refine ⟨c :: kept, hkept.cons hnul hle, fun h => ?_, fun h => ?_⟩
        · rw [hsplit ⟨h.1.2, h.2⟩, List.cons_append]
        · rw [hwhole fun h' => h ⟨⟨hzero, h'.1⟩, h'.2⟩]
      · -- the limit splits it, unless it falls in front of it
        have hlt := Nat.lt_of_not_le hle
        rw [List.take_append_of_le_length (Nat.le_of_lt hlt)]
        have hfree : (0 : UInt8) ∉ (String.utf8EncodeChar c).take limit := fun h =>
          hzero (List.mem_of_mem_take h)
        rw [cut_eq_self hfree]
        refine ⟨[], .nil_of_lt (.inr hlt), fun ⟨_, hsplits⟩ => ?_, fun h => ?_⟩
        · have hne : (String.utf8EncodeChar c).take limit ≠ [] := by
            have hlimit : limit ≠ 0 := fun h => not_splits_zero (h ▸ hsplits)
            exact mt List.take_eq_nil_iff.1 (not_or.2 ⟨hlimit, encode_ne_nil c⟩)
          refine decodeLossy_of_breaks_off hne (List.take_prefix _ _) ?_
          rw [List.length_take_of_le (Nat.le_of_lt hlt)]
          exact hlt
        · have hlimit : limit = 0 := by
            by_contra hne
            exact h ⟨hfree, [], c, cs, rfl, Nat.pos_of_ne_zero hne, by simpa using hlt⟩
          rw [hlimit, List.take_zero, decodeLossy_nil]

/-- Two of the three bytes of the second character lie within the limit. -/
example : decodeLossy (cut ((utf8 ['a', '€']).take 3)) = ['a', replacement] := by decide +kernel

end Offload.Text
