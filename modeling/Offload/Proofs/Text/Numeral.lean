/-
**Trimming, and numbers as text.**

Trimming takes blanks away at the end of a text, or at both ends.  What it leaves is the one part of
the text that has nothing but blanks around it and none at its own ends.

Reading a number either takes a text as it is or trims it first.  Neither a digit nor a plus sign is
blank, so a number ends where the blanks around it begin, and the second way reads exactly the
numbers that stand between blanks.

Main definitions:

* `Text.IsTrimmed`, `Text.Surrounds` — no blank at either end; blanks around a core;
* `Text.Denotes` — the grammar: perhaps a plus sign, and then at least one digit;
* `Text.Spells` — a number between blanks.

Main results:

* `Text.trimEnd_spec` — what is left without the blanks at the end;
* `Text.trim_eq_iff` — **what is left without the blanks at both ends**;
* `Text.trim_eq_empty_iff` — nothing is left of a blank text alone;
* `Text.unsigned?_eq_some_iff_denotes` — **the numbers that are read from a text as it is**;
* `Text.spells_iff` — a text spells the number that is read from it when it has been trimmed.
-/

import Offload.Text.Basic
import Mathlib.Data.List.DropRight
import Mathlib.Data.Nat.Digits.Defs

set_option autoImplicit false
set_option relaxedAutoImplicit false

namespace Offload.Text

variable {cs core front back : List Char} {s : String} {n m bound : Nat}

/-! ### Blanks at one end -/

theorem dropBlanks_append_of_isBlank (h : ∀ c ∈ front, isBlank c = true) :
    dropBlanks (front ++ cs) = dropBlanks cs :=
  List.dropWhile_append_of_pos h

theorem dropBlanks_eq_self (h : ∀ c, cs.head? = some c → isBlank c = false) :
    dropBlanks cs = cs := by
  cases cs with
  | nil => rfl
  | cons c cs => exact List.dropWhile_cons_of_neg (by simp [h c rfl])

theorem dropTrailingBlanks_append_of_isBlank (h : ∀ c ∈ back, isBlank c = true) :
    dropTrailingBlanks (cs ++ back) = dropTrailingBlanks cs := by
  rw [dropTrailingBlanks, List.reverse_append, dropBlanks_append_of_isBlank (by simpa using h),
    dropTrailingBlanks]

theorem dropTrailingBlanks_eq_self (h : ∀ c, cs.getLast? = some c → isBlank c = false) :
    dropTrailingBlanks cs = cs := by
  rw [dropTrailingBlanks, dropBlanks_eq_self (by simpa using h), List.reverse_reverse]

/-- What is left without the blanks at the end has no blank there, and only blanks are gone. -/
theorem dropTrailingBlanks_spec (cs : List Char) :
    ∃ back, cs = dropTrailingBlanks cs ++ back ∧ (∀ c ∈ back, isBlank c = true) ∧
      ∀ c, (dropTrailingBlanks cs).getLast? = some c → isBlank c = false := by
  refine ⟨cs.rtakeWhile isBlank, List.rdropWhile_append_rtakeWhile.symm,
    fun c hc => List.mem_rtakeWhile_imp hc, fun c hc => ?_⟩
  rw [dropTrailingBlanks, List.getLast?_reverse] at hc
  have hhead := List.head?_dropWhile_not isBlank cs.reverse
  rw [← dropBlanks, hc] at hhead
  exact hhead

theorem trimEnd_spec (s : String) :
    ∃ blanks, s.toList = (trimEnd s).toList ++ blanks ∧ (∀ c ∈ blanks, isBlank c = true) ∧
      ∀ c, (trimEnd s).toList.getLast? = some c → isBlank c = false := by
  rw [trimEnd, String.toList_ofList]
  exact dropTrailingBlanks_spec s.toList

/-! ### Blanks at both ends -/

/-- The characters begin and end with one that is not blank, if there are any. -/
def IsTrimmed (cs : List Char) : Prop :=
  (∀ c, cs.head? = some c → isBlank c = false) ∧ ∀ c, cs.getLast? = some c → isBlank c = false

/-- The characters are the core with nothing but blanks around it. -/
def Surrounds (cs core : List Char) : Prop :=
  ∃ front back, cs = front ++ core ++ back ∧ (∀ c ∈ front, isBlank c = true) ∧
    ∀ c ∈ back, isBlank c = true

theorem Surrounds.refl (cs : List Char) : Surrounds cs cs :=
  ⟨[], [], by simp, by simp, by simp⟩

@[simp] theorem toList_trim (s : String) :
    (trim s).toList = dropTrailingBlanks (dropBlanks s.toList) := by
  rw [trim, String.toList_ofList]

theorem surrounds_trim (s : String) : Surrounds s.toList (trim s).toList := by
  obtain ⟨back, hback, hblank, -⟩ := dropTrailingBlanks_spec (dropBlanks s.toList)
  refine ⟨s.toList.takeWhile isBlank, back, ?_, fun c hc => List.mem_takeWhile_imp hc, hblank⟩
  rw [toList_trim, List.append_assoc, ← hback, dropBlanks, List.takeWhile_append_dropWhile]

theorem isTrimmed_trim (s : String) : IsTrimmed (trim s).toList := by
  obtain ⟨back, hback, -, hlast⟩ := dropTrailingBlanks_spec (dropBlanks s.toList)
  rw [toList_trim]
  refine ⟨fun c hc => ?_, hlast⟩
  -- what is left begins like the text without the blanks at its beginning
  have hhead : (dropBlanks s.toList).head? = some c := by
    rw [hback, List.head?_append, hc, Option.some_or]
  have hnot := List.head?_dropWhile_not isBlank s.toList
  rw [← dropBlanks, hhead] at hnot
  exact hnot

/-- **Trimming leaves the one core that has blanks around it and none at its ends.** -/
theorem trim_eq_iff : (trim s).toList = core ↔ Surrounds s.toList core ∧ IsTrimmed core := by
  constructor
  · rintro rfl
    exact ⟨surrounds_trim s, isTrimmed_trim s⟩
  · rintro ⟨⟨front, back, hs, hfront, hback⟩, hhead, hlast⟩
    rw [toList_trim, hs, List.append_assoc, dropBlanks_append_of_isBlank hfront]
    cases core with
    | nil =>
        rw [List.nil_append, (dropBlanks_eq_nil_iff back).2 hback]
        rfl
    | cons c core =>
        rw [dropBlanks_eq_self (by simpa using hhead), dropTrailingBlanks_append_of_isBlank hback,
          dropTrailingBlanks_eq_self hlast]

/-- Nothing is left of a text exactly if it is blank. -/
theorem trim_eq_empty_iff : trim s = "" ↔ ∀ c ∈ s.toList, isBlank c = true := by
  rw [← String.toList_inj, String.toList_empty, trim_eq_iff]
  constructor
  · rintro ⟨⟨front, back, hs, hfront, hback⟩, -⟩ c hc
    rw [hs, List.append_nil, List.mem_append] at hc
    exact hc.elim (hfront c) (hback c)
  · intro h
    exact ⟨⟨s.toList, [], by simp, h, by simp⟩, by simp, by simp⟩

/-! ### Numbers -/

/-- The characters are a decimal number: perhaps a plus sign, and then digits, at least one. -/
def Denotes (cs : List Char) (n : Nat) : Prop :=
  ∃ digits, (cs = digits ∨ cs = '+' :: digits) ∧ digits ≠ [] ∧
    (∀ c ∈ digits, '0' ≤ c ∧ c ≤ '9') ∧ Nat.ofDigits 10 (digits.map digitValue).reverse = n

/-- The text is a decimal number between blanks. -/
def Spells (s : String) (n : Nat) : Prop := ∃ core, Surrounds s.toList core ∧ Denotes core n

theorem isDigit_iff (c : Char) : isDigit c = true ↔ '0' ≤ c ∧ c ≤ '9' := by
  simp [isDigit]

/-- Reading from the most significant digit on gives the value in base ten. -/
theorem digitsValue_eq_ofDigits (cs : List Char) :
    digitsValue cs = Nat.ofDigits 10 (cs.map digitValue).reverse := by
  induction cs using List.reverseRecOn with
  | nil => rfl
  | append_singleton cs c ih =>
      have hstep : digitsValue (cs ++ [c]) = 10 * digitsValue cs + digitValue c := by
        simp [digitsValue, List.foldl_append]
      rw [hstep, ih, List.map_append, List.map_singleton, List.reverse_append,
        List.reverse_singleton, List.singleton_append, Nat.ofDigits_cons, Nat.add_comm]

/-- A plus sign is dropped, and only there. -/
theorem dropPlus_eq_iff {digits : List Char} (hdigits : ∀ c ∈ digits, isDigit c = true) :
    dropPlus cs = digits ↔ cs = digits ∨ cs = '+' :: digits := by
  constructor
  · intro h
    unfold dropPlus at h
    split at h
    · exact Or.inr (congrArg _ h)
    · exact Or.inl h
  · rintro (rfl | rfl)
    · unfold dropPlus
      split
      · next cs =>
          have := hdigits '+' List.mem_cons_self
          exact absurd this (by decide)
      · rfl
    · rfl

/-- **The numbers that are read from a text as it is.** -/
theorem unsigned?_eq_some_iff_denotes :
    unsigned? bound s = some n ↔ Denotes s.toList n ∧ n < bound := by
  rw [unsigned?_eq_some_iff, digitsValue_eq_ofDigits]
  constructor
  · rintro ⟨hne, hdigits, hvalue, hbound⟩
    refine ⟨⟨dropPlus s.toList, (dropPlus_eq_iff hdigits).1 rfl, hne, ?_, hvalue⟩, hbound⟩
    exact fun c hc => (isDigit_iff c).1 (hdigits c hc)
  · rintro ⟨⟨digits, hs, hne, hdigits, hvalue⟩, hbound⟩
    have hdigits' : ∀ c ∈ digits, isDigit c = true := fun c hc => (isDigit_iff c).2 (hdigits c hc)
    rw [(dropPlus_eq_iff hdigits').2 hs]
    exact ⟨hne, hdigits', hvalue, hbound⟩

/-- Characters denote at most one number. -/
theorem Denotes.unique (hn : Denotes cs n) (hm : Denotes cs m) : n = m := by
  have read {k : Nat} (h : Denotes cs k) (hk : k < n + m + 1) :
      unsigned? (n + m + 1) (String.ofList cs) = some k :=
    unsigned?_eq_some_iff_denotes.2 ⟨by rwa [String.toList_ofList], hk⟩
  exact Option.some_inj.1 ((read hn (by omega)).symm.trans (read hm (by omega)))

/-- Neither a digit nor a plus sign is blank. -/
theorem Denotes.not_isBlank (h : Denotes cs n) : ∀ c ∈ cs, isBlank c = false := by
  obtain ⟨digits, hcs, -, hdigits, -⟩ := h
  have hdigit (c : Char) (hc : c ∈ digits) : isBlank c = false := by
    obtain ⟨hlow, hhigh⟩ := hdigits c hc
    have hlow : 48 ≤ c.toNat := hlow
    have hhigh : c.toNat ≤ 57 := hhigh
    simp [isBlank, blankRanges]
    omega
  rcases hcs with rfl | rfl
  · exact hdigit
  · intro c hc
    rcases List.mem_cons.1 hc with rfl | hc
    · decide
    · exact hdigit c hc

theorem Denotes.isTrimmed (h : Denotes cs n) : IsTrimmed cs :=
  ⟨fun c hc => h.not_isBlank c (List.mem_of_mem_head? hc),
    fun c hc => h.not_isBlank c (List.mem_of_getLast? hc)⟩

theorem Denotes.spells (h : Denotes s.toList n) : Spells s n := ⟨s.toList, .refl _, h⟩

/-- A text spells a number exactly if this is what trimming leaves. -/
theorem spells_iff : Spells s n ↔ Denotes (trim s).toList n := by
  constructor
  · rintro ⟨core, hcore, h⟩
    rwa [trim_eq_iff.2 ⟨hcore, h.isTrimmed⟩]
  · exact fun h => ⟨_, surrounds_trim s, h⟩

theorem Spells.unique (hn : Spells s n) (hm : Spells s m) : n = m :=
  (spells_iff.1 hn).unique (spells_iff.1 hm)

end Offload.Text
