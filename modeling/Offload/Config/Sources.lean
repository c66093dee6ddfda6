/-
**The two sources of a configuration.**

A configuration can be read from variables of the environment or from a list of keys with values.
The environment never fails: a number that cannot be read counts as absent, and texts are taken as
they are.  A list of keys is strict: a number may stand between blanks but has to be one, a version
file that is blank counts as absent, and each unknown key draws a warning.

Main definitions:

* `Config.ofEnvironment` — from variables, given as a look-up;
* `Config.Key`, `Config.readEntry` — the known keys, and one key with its value;
* `Config.ofEntries` — from keys with values, with the warnings.
-/

import Offload.Config.Basic
import Offload.Text.Basic

set_option autoImplicit false
set_option relaxedAutoImplicit false

namespace Offload.Config

/-! ### Numbers -/

/-- An endpoint: a number below `2 ^ 32`. -/
def endpoint? (s : String) : Option UInt32 := (Text.unsigned? UInt32.size s).map UInt32.ofNat

/-- A pause: a number of microseconds below `2 ^ 64`. -/
def interval? (s : String) : Option Duration := (Text.unsigned? UInt64.size s).map Duration.ofMicros

/-! ### The environment -/

/-- The configuration that the environment describes. -/
def ofEnvironment (lookup : String → Option String) : Config :=
  { libraryPath := (lookup "ACCEL_LIBRARY_PATH").getD standard.libraryPath
    definitions := lookup "ACCEL_VERSION_DEFINITIONS"
    manifest := lookup "ACCEL_VERSION_MANIFEST"
    endpoint := ((lookup "ACCEL_ENDPOINT").bind endpoint?).getD standard.endpoint
    pollInterval := ((lookup "ACCEL_POLL_INTERVAL_US").bind interval?).getD standard.pollInterval
    sink := none }

/-! ### Keys with values -/

/-- The known keys. -/
inductive Key where
  | libraryPath
  | definitions
  | manifest
  | endpoint
  | pollMicros
  deriving DecidableEq

/-- The word of a known key. -/
def Key.word : Key → String
  | libraryPath => "library_path"
  | definitions => "version_definitions_file"
  | manifest => "version_manifest_file"
  | endpoint => "endpoint"
  | pollMicros => "poll_interval_us"

/-- All known keys. -/
def Key.all : List Key := [libraryPath, definitions, manifest, endpoint, pollMicros]

/-- The known key of a word. -/
def Key.ofWord? (word : String) : Option Key := Key.all.find? fun k => k.word = word

/-- A path that is blank counts as absent. -/
def nonBlank (value : String) : Option String := if Text.trim value = "" then none else some value

/-- A value that is not a number, in the words of the error. -/
def badValue (key : Key) (value : String) : Error :=
  .config s!"{key.word} = '{value}' is not a valid value"

/-- Take over the value of a known key. -/
def readEntry (key : Key) (value : String) (c : Config) : Outcome Config :=
  match key with
  | .libraryPath => .ok { c with libraryPath := value }
  | .definitions => .ok { c with definitions := nonBlank value }
  | .manifest => .ok { c with manifest := nonBlank value }
  | .endpoint =>
      match endpoint? (Text.trim value) with
      | some endpoint => .ok { c with endpoint }
      | none => .error (badValue key value)
  | .pollMicros =>
      match interval? (Text.trim value) with
      | some pollInterval => .ok { c with pollInterval }
      | none => .error (badValue key value)

/-- The warning about an unknown key. -/
def unknownKey (key : String) : String := s!"accel: ignoring unknown config key '{key}'"

/-- Take over keys with their values, one after another up to the first error.  The warnings are
those of the unknown keys met on the way. -/
def readEntries : List (String × String) → Config → List String × Outcome Config
  | [], c => ([], .ok c)
  | (word, value) :: entries, c =>
      match Key.ofWord? word with
      | none =>
          let (warnings, result) := readEntries entries c
          (unknownKey word :: warnings, result)
      | some key =>
          match readEntry key value c with
          | .ok c => readEntries entries c
          | .error e => ([], .error e)

/-- The configuration that keys with values describe, and the warnings. -/
def ofEntries (entries : List (String × String)) : List String × Outcome Config :=
  readEntries entries standard

end Offload.Config
