import Offload.Status
import Offload.Error
import Offload.Text.Utf8
import Offload.Text.Basic
import Offload.Padding
import Offload.Buffer
import Offload.Log.Level
import Offload.Log.Router
import Offload.Native.Call
import Offload.Native.Program
import Offload.Native.Driver
import Offload.Device.Session
import Offload.Device.Lifecycle
import Offload.Device.Exchange
import Offload.Simulator.State
import Offload.Simulator.Driver
import Offload.Library.Entry
import Offload.Library.Binding
import Offload.Text.Quoted
import Offload.Config.Basic
import Offload.Config.Sources
import Offload.Completion
import Offload.Pool.Basic
import Offload.Pool.Step
import Offload.Pool.Quiet
import Offload.Dispatcher.Basic
import Offload.Dispatcher.Station
import Offload.Script.Answer
import Offload.Script.Jobs
import Offload.Script.LogScript
import Offload.Script.PoolScript
import Offload.Script.Rig
import Offload.Script.SystemOp
import Offload.Script.SystemScript
import Offload.Script.BufferScript
import Offload.Proofs.Runs
import Offload.Proofs.Pool.History
import Offload.Proofs.Pool.Transition
import Offload.Proofs.Pool.Lane
import Offload.Proofs.Pool.Custody
import Offload.Proofs.Pool.Ticket
import Offload.Proofs.Pool.Run
import Offload.Proofs.Pool.Shutdown
import Offload.Proofs.Pool.Order
import Offload.Proofs.Pool.Routing
import Offload.Proofs.Native.Meets
import Offload.Proofs.Device.Kinds
import Offload.Proofs.Simulator.Slots
import Offload.Proofs.Device.Exchange
import Offload.Proofs.Device.Transfer
import Offload.Proofs.Dispatcher.BringUp
import Offload.Proofs.Dispatcher.Transition
import Offload.Proofs.Dispatcher.Run
import Offload.Proofs.Pool.Running
import Offload.Proofs.Dispatcher.DeviceInvariant
import Offload.Proofs.Dispatcher.Served
import Offload.Proofs.Dispatcher.AnswerInvariant
import Offload.Proofs.Simulator.Busy
import Offload.Proofs.Device.Bounded
import Offload.Proofs.Dispatcher.Progress
import Offload.Proofs.Dispatcher.RoundTrip
import Offload.Proofs.Native.Traced
import Offload.Proofs.Device.Slotwise
import Offload.Proofs.Device.Leftover
import Offload.Proofs.Device.Lifetime
import Offload.Proofs.Dispatcher.Jobs
import Offload.Proofs.Dispatcher.SlotTurn
import Offload.Proofs.Dispatcher.RunInvariant
import Offload.Proofs.Dispatcher.TearDown
import Offload.Proofs.Dispatcher.Provenance
import Offload.Proofs.Dispatcher.Service
import Offload.Proofs.Simulator.Apart
import Offload.Proofs.Native.Alike
import Offload.Proofs.Device.Lockstep
import Offload.Proofs.Pool.Working
import Offload.Proofs.Dispatcher.Abreast
import Offload.Proofs.Dispatcher.Reordering
import Offload.Proofs.Dispatcher.Interleaving
import Offload.Proofs.Pool.Depth
import Offload.Proofs.Pool.Tally
import Offload.Proofs.Dispatcher.Counters
import Offload.Proofs.Native.Transcript
import Offload.Proofs.Dispatcher.Construction
import Offload.Proofs.Pool.StepsLeft
import Offload.Proofs.Dispatcher.StepsLeft
import Offload.Proofs.Dispatcher.Overtaken
import Offload.Proofs.Dispatcher.Quiet
import Offload.Proofs.Library.ErrorText
import Offload.Proofs.Library.Twins
import Offload.Proofs.Native.Mirrors
import Offload.Proofs.Device.Mirrored
import Offload.Proofs.Pool.Mirrored
import Offload.Proofs.Dispatcher.Mirrored
import Offload.Proofs.Library.DriverRun
import Offload.Proofs.Library.Refinement
import Offload.Proofs.Device.Toggle
import Offload.Proofs.Device.Protocol
import Offload.Proofs.Dispatcher.Succession
import Offload.Proofs.Dispatcher.HandleRun
import Offload.Proofs.Completion.Watch
import Offload.Proofs.Pool.Ring
import Offload.Proofs.Pool.Burst
import Offload.Proofs.Pool.Evenly
import Offload.Proofs.Pool.Submission
import Offload.Proofs.Dispatcher.Reached
import Offload.Proofs.Padding.WireForm
import Offload.Proofs.Dispatcher.Admission
import Offload.Proofs.Simulator.Obliges
import Offload.Proofs.Device.Bounds
import Offload.Proofs.Dispatcher.JobTranscripts
import Offload.Proofs.Dispatcher.Bounds
import Offload.Proofs.Simulator.Reachable
import Offload.Proofs.Simulator.Failure
import Offload.Proofs.Text.Numeral
import Offload.Proofs.Log.Routing
import Offload.Proofs.Dispatcher.Sink
import Offload.Proofs.Dispatcher.SharedLog
import Offload.Proofs.Dispatcher.Registers
import Offload.Proofs.Dispatcher.Accesses
import Offload.Proofs.Dispatcher.Registry
import Offload.Proofs.Text.Reading
import Offload.Proofs.Config.Entries
import Offload.Proofs.Config.Agreement
import Offload.Proofs.Buffer.Copies
import Offload.Proofs.Native.Reaches
import Offload.Proofs.Device.Readiness
