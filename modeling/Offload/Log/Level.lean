/-
**Log levels and severity flags.**

A level is a threshold: the lower its rank, the more severe.  A message carries a 32-bit mask of
severity flags, in which unknown bits may be set; its level is the most severe one that the mask
names.

Main definitions:

* `Log.Level`, `Log.Level.rank` — the seven levels and their order;
* `Log.Level.parse?` — reading a level from a name or a digit;
* `Log.Flags`, `Log.Flags.level` — masks and the level of a mask;
* `Log.Level.tag` — how a line of a level begins on the error stream.

Main results:

* `Log.Flags.level_flags` — the mask of a level names that level.
-/

import Offload.Error

set_option autoImplicit false
set_option relaxedAutoImplicit false

namespace Offload.Log

/-! ### Levels -/

/-- The levels, from the one that lets nothing through to the one that lets everything through. -/
inductive Level where
  | off
  | fatal
  | error
  | warn
  | info
  | verbose
  | debug
  deriving DecidableEq, Inhabited

namespace Level

/-- The place of a level in the order of the levels. -/
def rank : Level → Nat
  | off => 0
  | fatal => 1
  | error => 2
  | warn => 3
  | info => 4
  | verbose => 5
  | debug => 6

/-- The level with a given number; large numbers stand for the last level. -/
def ofRank : Nat → Level
  | 0 => off
  | 1 => fatal
  | 2 => error
  | 3 => warn
  | 4 => info
  | 5 => verbose
  | _ => debug

/-- The name of a level in lower case. -/
def word : Level → String
  | off => "off"
  | fatal => "fatal"
  | error => "error"
  | warn => "warn"
  | info => "info"
  | verbose => "verbose"
  | debug => "debug"

/-- All levels in their order. -/
def all : List Level := [off, fatal, error, warn, info, verbose, debug]

/-- The level that a text names by its word, in any mixture of cases, or by its number.  No letter
outside ASCII becomes a letter of these words in lower case, so it is enough to lower ASCII. -/
def parse? (s : String) : Option Level :=
  let lowered := String.ofList (s.toList.map Char.toLower)
  all.find? fun l => lowered = l.word ∨ lowered = toString l.rank

/-- How a line of this level begins on the error stream. -/
def tag : Level → String
  | off => ""
  | fatal => "[FATAL]"
  | error => "[ERROR]"
  | warn => "[WARN] "
  | info => "[INFO] "
  | verbose => "[VERB] "
  | debug => "[DEBUG]"

@[simp] theorem ofRank_rank (l : Level) : ofRank l.rank = l := by cases l <;> rfl

theorem rank_inj {a b : Level} (h : a.rank = b.rank) : a = b := by
  rw [← ofRank_rank a, h, ofRank_rank]

end Level

/-! ### Severity flags -/

/-- A mask of severity flags. -/
structure Flags where
  mask : UInt32
  deriving DecidableEq, Inhabited

namespace Flags

/-- The flag for the details that only a search for an error needs. -/
def debug : Flags := ⟨1⟩

/-- The flag for a running account. -/
def verbose : Flags := ⟨2⟩

/-- The flag for ordinary information. -/
def info : Flags := ⟨4⟩

/-- The flag for something that should not have happened. -/
def warn : Flags := ⟨8⟩

/-- The flag for an operation that failed. -/
def error : Flags := ⟨16⟩

/-- The flag for the end of all operations. -/
def fatal : Flags := ⟨32⟩

/-- Both masks together. -/
def union (a b : Flags) : Flags := ⟨a.mask ||| b.mask⟩

/-- Every flag of `b` is set in `a`. -/
def contains (a b : Flags) : Bool := a.mask &&& b.mask = b.mask

/-- The most severe level that a mask names.  A mask without a known flag is informational. -/
def level (f : Flags) : Level :=
  if f.contains fatal then .fatal
  else if f.contains error then .error
  else if f.contains warn then .warn
  else if f.contains info then .info
  else if f.contains verbose then .verbose
  else if f.contains debug then .debug
  else .info

end Flags

/-- The mask that names a level; nothing is ever logged at `off`, whose mask is empty. -/
def Level.flags : Level → Flags
  | .off => ⟨0⟩
  | .fatal => .fatal
  | .error => .error
  | .warn => .warn
  | .info => .info
  | .verbose => .verbose
  | .debug => .debug

/-- The mask of a level names that level. -/
theorem Flags.level_flags {l : Level} (h : l ≠ .off) : l.flags.level = l := by
  cases l <;> first | exact absurd rfl h | decide

end Offload.Log
