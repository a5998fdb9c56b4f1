import VirtualPad.Actuator.Basic
import VirtualPad.Actuator.Parser
import VirtualPad.AxisProperties
import VirtualPad.CommandLine.Arguments
import VirtualPad.CommandLine.Help
import VirtualPad.CommandLine.Report
import VirtualPad.CommandLine.Run
import VirtualPad.CommandLine.Variables
import VirtualPad.Configuration.Basic
import VirtualPad.Configuration.Check
import VirtualPad.Configuration.Codec
import VirtualPad.Configuration.Loaded
import VirtualPad.Configuration.Schema
import VirtualPad.Control.Axis
import VirtualPad.Control.Button
import VirtualPad.Control.Capabilities
import VirtualPad.Control.Element
import VirtualPad.Control.Mouse
import VirtualPad.Control.Pov
import VirtualPad.Control.State
import VirtualPad.Controller.Basic
import VirtualPad.Controller.Registration
import VirtualPad.Document.Basic
import VirtualPad.Document.Decode
import VirtualPad.Document.Fault
import VirtualPad.Document.Json
import VirtualPad.Document.Node
import VirtualPad.Document.Place
import VirtualPad.Document.Yaml.Character
import VirtualPad.Document.Yaml.Cursor
import VirtualPad.Document.Yaml.Decode
import VirtualPad.Document.Yaml.Fault
import VirtualPad.Document.Yaml.Lexer
import VirtualPad.Document.Yaml.Printer
import VirtualPad.Document.Yaml.Reader
import VirtualPad.Document.Yaml.Scalar
import VirtualPad.Document.Yaml.Token
import VirtualPad.Document.Yaml.Word
import VirtualPad.ElementMapper.Basic
import VirtualPad.ElementMapper.Contribution
import VirtualPad.ElementMapper.Parser
import VirtualPad.ElementMapper.Printer
import VirtualPad.Event.Basic
import VirtualPad.Event.Buffer
import VirtualPad.Event.Queue
import VirtualPad.Files
import VirtualPad.Force.Change
import VirtualPad.Force.Device
import VirtualPad.Force.Direction
import VirtualPad.Force.Effect
import VirtualPad.Force.Error
import VirtualPad.Force.Hub
import VirtualPad.Force.Waveform
import VirtualPad.Gamepad
import VirtualPad.Language.Error
import VirtualPad.Language.Numeral
import VirtualPad.Language.Phrase
import VirtualPad.Language.ScanCode
import VirtualPad.Language.Vocabulary
import VirtualPad.Locations
import VirtualPad.Main
import VirtualPad.Mapper.Basic
import VirtualPad.Mapper.Force
import VirtualPad.Mapper.Slot
import VirtualPad.Number.Double
import VirtualPad.Number.Literal
import VirtualPad.Number.Rounding
import VirtualPad.Number.Scalar
import VirtualPad.Number.Shortest
import VirtualPad.Number.Whole
import VirtualPad.OrderedMap
import VirtualPad.Proofs.AxisProperties.Deadzone
import VirtualPad.Proofs.AxisProperties.Order
import VirtualPad.Proofs.Configuration.Overrides
import VirtualPad.Proofs.Configuration.Saved
import VirtualPad.Proofs.Configuration.Templates
import VirtualPad.Proofs.Configuration.Validated
import VirtualPad.Proofs.Controller.Advertised
import VirtualPad.Proofs.Controller.Defaults
import VirtualPad.Proofs.Controller.Reads
import VirtualPad.Proofs.Controller.Report
import VirtualPad.Proofs.Controller.Run
import VirtualPad.Proofs.Controller.Settings
import VirtualPad.Proofs.Controller.Snapshot
import VirtualPad.Proofs.Document.Numerals
import VirtualPad.Proofs.Document.Written
import VirtualPad.Proofs.ElementMapper.Composite
import VirtualPad.Proofs.ElementMapper.First
import VirtualPad.Proofs.ElementMapper.Leaves
import VirtualPad.Proofs.ElementMapper.Limits
import VirtualPad.Proofs.ElementMapper.RoundTrip
import VirtualPad.Proofs.ElementMapper.Targets
import VirtualPad.Proofs.ElementMapper.Written
import VirtualPad.Proofs.Event.Call
import VirtualPad.Proofs.Event.Changes
import VirtualPad.Proofs.Event.Ledger
import VirtualPad.Proofs.Force.Clock
import VirtualPad.Proofs.Force.Coordinates
import VirtualPad.Proofs.Force.Drive
import VirtualPad.Proofs.Force.Endless
import VirtualPad.Proofs.Force.Envelope
import VirtualPad.Proofs.Force.Evaluation
import VirtualPad.Proofs.Force.Level
import VirtualPad.Proofs.Force.Made
import VirtualPad.Proofs.Force.Phase
import VirtualPad.Proofs.Force.Playback
import VirtualPad.Proofs.Force.Projection
import VirtualPad.Proofs.Force.Range
import VirtualPad.Proofs.Force.Readiness
import VirtualPad.Proofs.Force.Registered
import VirtualPad.Proofs.Language.Accepted
import VirtualPad.Proofs.Language.Balance
import VirtualPad.Proofs.Language.Blanks
import VirtualPad.Proofs.Language.Commas
import VirtualPad.Proofs.Language.Dangling
import VirtualPad.Proofs.Language.Lossless
import VirtualPad.Proofs.Language.Nested
import VirtualPad.Proofs.Language.Phrase
import VirtualPad.Proofs.Language.Plain
import VirtualPad.Proofs.Language.Respaced
import VirtualPad.Proofs.Language.Spacing
import VirtualPad.Proofs.Language.Standalone
import VirtualPad.Proofs.Mapper.Desktop
import VirtualPad.Proofs.Mapper.Forces
import VirtualPad.Proofs.Mapper.Interchange
import VirtualPad.Proofs.Mapper.Overlay
import VirtualPad.Proofs.Mapper.Receive
import VirtualPad.Proofs.Mapper.Sum
import VirtualPad.Proofs.Number.Between
import VirtualPad.Proofs.Number.Exact
import VirtualPad.Proofs.Number.Ordered
import VirtualPad.Proofs.Number.Quotient
import VirtualPad.Proofs.Number.Rounded
import VirtualPad.Proofs.Number.Words
import VirtualPad.Proofs.Registry.Registered
import VirtualPad.Proofs.Registry.Run
import VirtualPad.Proofs.Session.Registration
import VirtualPad.Proofs.Session.Run
import VirtualPad.Proofs.Shaping.Order
import VirtualPad.Proofs.Shaping.Symmetry
import VirtualPad.Proofs.Since
import VirtualPad.Reading
import VirtualPad.Registry.Basic
import VirtualPad.Registry.Layouts
import VirtualPad.Session
import VirtualPad.Shaping
import VirtualPad.Text.Class
import VirtualPad.Text.Quoted
