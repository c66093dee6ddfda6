/-
**Blanks, numbers and durations in texts.**

A text can be trimmed of the blanks around it.  An unsigned decimal number is an optional single
plus sign and at least one ASCII digit, with nothing around them; its value must lie below a bound,
and leading zeros are allowed.  A duration is a number of nanoseconds.  It is printed in the largest
of the units second, millisecond, microsecond and nanosecond that it reaches, with the rest as a
decimal fraction without trailing zeros.

Main definitions:

* `Text.isBlank` — the characters with the Unicode property `White_Space`;
* `Text.trimEnd`, `Text.trim` — a text without the blanks at its end, or at both ends;
* `Text.digitsValue` — the value of a list of digits;
* `Text.unsigned?` — reading a number below a bound;
* `Duration` — a number of nanoseconds, with its whole seconds and the nanoseconds beyond them;
* `Duration.text` — the printed form.
-/

set_option autoImplicit false
set_option relaxedAutoImplicit false

namespace Offload

namespace Text

/-! ### Blanks -/

/-- The characters with the Unicode property `White_Space`, as inclusive ranges of code points. -/
def blankRanges : List (Nat × Nat) :=
  [(0x9, 0xD), (0x20, 0x20), (0x85, 0x85), (0xA0, 0xA0), (0x1680, 0x1680), (0x2000, 0x200A),
    (0x2028, 0x2029), (0x202F, 0x202F), (0x205F, 0x205F), (0x3000, 0x3000)]

/-- A blank character. -/
def isBlank (c : Char) : Bool := blankRanges.any fun r => r.1 ≤ c.toNat && c.toNat ≤ r.2

/-- Without the blanks at the beginning. -/
def dropBlanks (cs : List Char) : List Char := cs.dropWhile isBlank

/-- Without the blanks at the end. -/
def dropTrailingBlanks (cs : List Char) : List Char := (dropBlanks cs.reverse).reverse

/-- A text without the blanks at its end. -/
def trimEnd (s : String) : String := String.ofList (dropTrailingBlanks s.toList)

/-- A text without the blanks at both ends. -/
def trim (s : String) : String := String.ofList (dropTrailingBlanks (dropBlanks s.toList))

/-- The blanks at the beginning are gone when nothing but blanks stood there. -/
theorem dropBlanks_eq_nil_iff (cs : List Char) :
    dropBlanks cs = [] ↔ ∀ c ∈ cs, isBlank c = true := by
  induction cs with
  | nil => simp [dropBlanks]
  | cons c cs ih => by_cases h : isBlank c = true <;> simp_all [dropBlanks]

/-! ### Unsigned numbers -/

/-- An ASCII digit. -/
def isDigit (c : Char) : Bool := '0' ≤ c && c ≤ '9'

/-- The value of an ASCII digit. -/
def digitValue (c : Char) : Nat := c.toNat - '0'.toNat

/-- The value of a list of digits, most significant first. -/
def digitsValue (cs : List Char) : Nat := cs.foldl (fun n c => 10 * n + digitValue c) 0

/-- What follows an optional plus sign. -/
def dropPlus : List Char → List Char
  | '+' :: cs => cs
  | cs => cs

/-- The number that a text denotes, if it denotes one below `bound`. -/
def unsigned? (bound : Nat) (s : String) : Option Nat :=
  let digits := dropPlus s.toList
  if digits ≠ [] ∧ digits.all isDigit = true ∧ digitsValue digits < bound then
    some (digitsValue digits)
  else none

theorem unsigned?_eq_some_iff {bound n : Nat} {s : String} :
    unsigned? bound s = some n ↔
      dropPlus s.toList ≠ [] ∧ (∀ c ∈ dropPlus s.toList, isDigit c = true) ∧
        digitsValue (dropPlus s.toList) = n ∧ n < bound := by
  simp only [unsigned?]
  constructor
  · intro h
    split at h
    · next hc =>
        obtain ⟨h₁, h₂, h₃⟩ := hc
        cases h
        exact ⟨h₁, by simpa using h₂, rfl, h₃⟩
    · cases h
  · rintro ⟨h₁, h₂, rfl, h₃⟩
    rw [if_pos ⟨h₁, by simpa using h₂, h₃⟩]

end Text

/-! ### Durations -/

/-- A span of time. -/
structure Duration where
  nanos : Nat
  deriving DecidableEq, Inhabited

namespace Duration

/-- A span of whole microseconds. -/
def ofMicros (n : Nat) : Duration := ⟨n * 1000⟩

/-- The whole seconds of a span. -/
def seconds (d : Duration) : Nat := d.nanos / 1000000000

/-- The nanoseconds beyond the whole seconds. -/
def subsecNanos (d : Duration) : Nat := d.nanos % 1000000000

/-- The decimal fraction `rest / 10 ^ places` without trailing zeros, after a point, or nothing
when it is zero. -/
def fraction (rest places : Nat) : String :=
  let digits := (Nat.toDigits 10 (Nat.pow 10 places + rest)).drop 1
  match (digits.reverse.dropWhile (· = '0')).reverse with
  | [] => ""
  | kept => "." ++ String.ofList kept

/-- A number of nanoseconds written in a unit of `10 ^ places` nanoseconds. -/
def inUnit (nanos places : Nat) (symbol : String) : String :=
  let unit := Nat.pow 10 places
  toString (nanos / unit) ++ fraction (nanos % unit) places ++ symbol

/-- The printed form of a span. -/
def text (d : Duration) : String :=
  if 1000000000 ≤ d.nanos then inUnit d.nanos 9 "s"
  else if 1000000 ≤ d.nanos then inUnit d.nanos 6 "ms"
  else if 1000 ≤ d.nanos then inUnit d.nanos 3 "µs"
  else inUnit d.nanos 0 "ns"

end Duration

end Offload
