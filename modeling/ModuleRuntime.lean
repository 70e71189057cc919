import ModuleRuntime.Archive.Bzip2.Column
import ModuleRuntime.Archive.Bzip2.Flipping
import ModuleRuntime.Archive.Bzip2.Runs
import ModuleRuntime.Archive.Bzip2.Stream
import ModuleRuntime.Archive.Bzip2.Transform
import ModuleRuntime.Archive.Crc32
import ModuleRuntime.Archive.Inflate
import ModuleRuntime.Archive.Octets
import ModuleRuntime.Archive.PrefixCode
import ModuleRuntime.Archive.Unpacker
import ModuleRuntime.Archive.Zip
import ModuleRuntime.Archive.Zstandard.Frame
import ModuleRuntime.Archive.Zstandard.Literals
import ModuleRuntime.Archive.Zstandard.Sequences
import ModuleRuntime.Archive.Zstandard.StateCode
import ModuleRuntime.Config
import ModuleRuntime.Dictionary
import ModuleRuntime.Digest.Blake3
import ModuleRuntime.Digest.XxHash64
import ModuleRuntime.Document
import ModuleRuntime.Error
import ModuleRuntime.Event.Bus
import ModuleRuntime.Event.Controller
import ModuleRuntime.Event.Id
import ModuleRuntime.Event.Origin
import ModuleRuntime.Event.Slot
import ModuleRuntime.Event.Table
import ModuleRuntime.Event.Token
import ModuleRuntime.Journaled
import ModuleRuntime.Json.Basic
import ModuleRuntime.Json.Decode
import ModuleRuntime.Json.Numeral
import ModuleRuntime.Json.Reader
import ModuleRuntime.Json.Token
import ModuleRuntime.Json.Writer
import ModuleRuntime.Log.Config
import ModuleRuntime.Log.Entry
import ModuleRuntime.Log.Level
import ModuleRuntime.Log.Logger
import ModuleRuntime.Log.Gate
import ModuleRuntime.Log.Record
import ModuleRuntime.Module.Attribute
import ModuleRuntime.Module.Batch
import ModuleRuntime.Module.Context
import ModuleRuntime.Module.Descriptor
import ModuleRuntime.Module.EntryPoint
import ModuleRuntime.Module.Gauge
import ModuleRuntime.Module.Handle
import ModuleRuntime.Module.Host
import ModuleRuntime.Module.Image
import ModuleRuntime.Module.Inspector
import ModuleRuntime.Module.Linker
import ModuleRuntime.Module.LoadOrder
import ModuleRuntime.Module.Loader
import ModuleRuntime.Module.Metadata
import ModuleRuntime.Module.Progress
import ModuleRuntime.Module.Registry
import ModuleRuntime.Module.Reload
import ModuleRuntime.Module.Version
import ModuleRuntime.Number.Binary64
import ModuleRuntime.Number.Shortest
import ModuleRuntime.Report
import ModuleRuntime.Text.Blank
import ModuleRuntime.Text.CodePage437
import ModuleRuntime.Text.Hexadecimal
import ModuleRuntime.Text.Printable
import ModuleRuntime.Text.Quoted
import ModuleRuntime.Text.Split
import ModuleRuntime.Text.Utf8
import ModuleRuntime.Yaml.Character
import ModuleRuntime.Yaml.Decode
import ModuleRuntime.Yaml.Node
import ModuleRuntime.Yaml.Scalar
import ModuleRuntime.Yaml.Token
import ModuleRuntime.Proofs.Event.Request
import ModuleRuntime.Proofs.Event.PlainBus
import ModuleRuntime.Proofs.Registry.Change
import ModuleRuntime.Proofs.Registry.Names
import ModuleRuntime.Proofs.Loading.Layout
import ModuleRuntime.Proofs.Loading.Growth
import ModuleRuntime.Proofs.Reload.Step
import ModuleRuntime.Proofs.Reload.Start
import ModuleRuntime.Proofs.Reload.Outcome
import ModuleRuntime.Proofs.Loading.Operation
import ModuleRuntime.Proofs.Loading.Accord
import ModuleRuntime.Proofs.Loading.InStep
import ModuleRuntime.Proofs.Loading.Order
import ModuleRuntime.Proofs.Loading.Sandbox
import ModuleRuntime.Proofs.Event.Mirror
import ModuleRuntime.Proofs.Event.Simulation
import ModuleRuntime.Proofs.Registry.Identity
import ModuleRuntime.Proofs.Registry.History
import ModuleRuntime.Proofs.Reload.Report
import ModuleRuntime.Proofs.Journaled
import ModuleRuntime.Proofs.Loading.Course
import ModuleRuntime.Proofs.Reload.Clock
import ModuleRuntime.Proofs.Reload.Ending
import ModuleRuntime.Proofs.Loading.Success
import ModuleRuntime.Proofs.Loading.Held
import ModuleRuntime.Proofs.Reload.Lossless
import ModuleRuntime.Proofs.Loading.Addition
import ModuleRuntime.Proofs.Loading.Failure
import ModuleRuntime.Proofs.Loading.Batch
import ModuleRuntime.Proofs.Loading.Account
import ModuleRuntime.Proofs.Loading.Precedence
import ModuleRuntime.Proofs.Loading.Apart
import ModuleRuntime.Proofs.Loading.Fate
import ModuleRuntime.Proofs.Loading.Rearrangement
import ModuleRuntime.Proofs.Event.Consistency
import ModuleRuntime.Proofs.Event.OneShot
import ModuleRuntime.Proofs.Event.Inbound
import ModuleRuntime.Proofs.Event.Delivery
import ModuleRuntime.Proofs.Event.Edit
import ModuleRuntime.Proofs.Host.Lifecycle
import ModuleRuntime.Proofs.Host.Call
import ModuleRuntime.Proofs.Context.Request
import ModuleRuntime.Proofs.Context.Content
import ModuleRuntime.Proofs.Context.Teardown
import ModuleRuntime.Proofs.Context.Handles
import ModuleRuntime.Proofs.Context.Presence
import ModuleRuntime.Proofs.Inspection.Packing
import ModuleRuntime.Proofs.Inspection.Refusal
import ModuleRuntime.Proofs.Loading.Request
import ModuleRuntime.Proofs.Reload.Notice
import ModuleRuntime.Proofs.Loading.LeastOrder
import ModuleRuntime.Proofs.Loading.Missing
import ModuleRuntime.Proofs.Event.Bulk
import ModuleRuntime.Proofs.Event.Subscribers
import ModuleRuntime.Proofs.Event.Turn
import ModuleRuntime.Proofs.Loading.Single
import ModuleRuntime.Proofs.Event.Undoing
import ModuleRuntime.Proofs.Context.Quiescence
import ModuleRuntime.Proofs.Reload.Refill
import ModuleRuntime.Proofs.Reload.Spared
import ModuleRuntime.Proofs.Reload.Protocol
import ModuleRuntime.Proofs.Failable
import ModuleRuntime.Proofs.Text.Pieces
import ModuleRuntime.Proofs.Version.Grammar
import ModuleRuntime.Proofs.Version.RoundTrip
import ModuleRuntime.Proofs.Inspection.Drain
import ModuleRuntime.Proofs.Inspection.Resolution
import ModuleRuntime.Proofs.Event.HashInput
import ModuleRuntime.Proofs.Config.RoundTrip
import ModuleRuntime.Proofs.Text.Separators
import ModuleRuntime.Proofs.Log.RoundTrip
import ModuleRuntime.Proofs.Log.Threshold
import ModuleRuntime.Proofs.Log.Filter
