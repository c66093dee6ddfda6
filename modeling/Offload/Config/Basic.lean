/-
**The configuration of a dispatcher.**

A configuration names the driver library, two optional files of the driver, the endpoint, the pause
between two questions for readiness, and perhaps a sink for log lines.

Main definitions:

* `Config`, `Config.standard` — configurations, and the one that every source starts from;
* `Config.Setting`, `Config.set` — setting one field;
* `Config.text` — the printed form.
-/

import Offload.Error
import Offload.Log.Router
import Offload.Text.Basic
import Offload.Text.Quoted

set_option autoImplicit false
set_option relaxedAutoImplicit false

namespace Offload

/-- The configuration of a dispatcher. -/
structure Config where
  libraryPath : String
  definitions : Option String
  manifest : Option String
  endpoint : UInt32
  pollInterval : Duration
  sink : Option Log.Sink
  deriving DecidableEq, Inhabited

namespace Config

/-- The driver library of a configuration that names none. -/
def defaultLibrary : String := "libFPGACoreLib.so"

/-- The endpoint of a configuration that names none. -/
def defaultEndpoint : UInt32 := 0

/-- The pause of a configuration that names none, in microseconds. -/
def defaultPollMicros : Nat := 1000

/-- The configuration that names nothing. -/
def standard : Config :=
  { libraryPath := defaultLibrary
    definitions := none
    manifest := none
    endpoint := defaultEndpoint
    pollInterval := .ofMicros defaultPollMicros
    sink := none }

/-- One field with its value. -/
inductive Setting where
  | libraryPath (path : String)
  | definitions (path : String)
  | manifest (path : String)
  | endpoint (endpoint : UInt32)
  | pollInterval (interval : Duration)
  | sink (sink : Log.Sink)
  deriving DecidableEq

/-- Set one field. -/
def set (setting : Setting) (c : Config) : Config :=
  match setting with
  | .libraryPath path => { c with libraryPath := path }
  | .definitions path => { c with definitions := some path }
  | .manifest path => { c with manifest := some path }
  | .endpoint endpoint => { c with endpoint }
  | .pollInterval pollInterval => { c with pollInterval }
  | .sink sink => { c with sink := some sink }

/-- The configurations met while setting fields one after another, with the first one. -/
def history (c : Config) : List Setting → List Config
  | [] => [c]
  | setting :: settings => c :: (c.set setting).history settings

/-! ### The printed form -/

/-- An optional path in a printed configuration. -/
def optionalText : Option String → String
  | none => "None"
  | some path => "Some(" ++ Text.quote path ++ ")"

/-- The printed form; of the sink only its presence is shown. -/
def text (c : Config) : String :=
  "DispatcherConfig \x7b library_path: " ++ Text.quote c.libraryPath ++
    ", version_definitions_file: " ++ optionalText c.definitions ++
    ", version_manifest_file: " ++ optionalText c.manifest ++
    s!", endpoint: {c.endpoint.toNat}, poll_interval: " ++ c.pollInterval.text ++
    s!", log_sink: {c.sink.isSome} \x7d"

end Config

end Offload
