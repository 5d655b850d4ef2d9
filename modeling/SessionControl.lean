import SessionControl.Bus.Argument
import SessionControl.Bus.Connection
import SessionControl.Bus.Failure
import SessionControl.Bus.Message
import SessionControl.Bus.ObjectPath
import SessionControl.Bus.Signature
import SessionControl.Bus.Wire
import SessionControl.Client.Action
import SessionControl.Client.AudioSink
import SessionControl.Client.Backlight
import SessionControl.Client.Fault
import SessionControl.Client.Handle
import SessionControl.Client.Inhibitor
import SessionControl.Client.Notice
import SessionControl.Client.Operation
import SessionControl.Client.PropertyValue
import SessionControl.Client.Service
import SessionControl.Client.Session
import SessionControl.Command.Environment
import SessionControl.Command.Inhibition
import SessionControl.Command.Levels
import SessionControl.Command.Monitor
import SessionControl.Command.Run
import SessionControl.Command.Status
import SessionControl.Command.Trouble
import SessionControl.CommandLine.Grammar
import SessionControl.CommandLine.Matching
import SessionControl.CommandLine.Request
import SessionControl.Machine.Disk
import SessionControl.Machine.Process
import SessionControl.Machine.Searching
import SessionControl.Machine.Signal
import SessionControl.Machine.SystemFault
import SessionControl.Main
import SessionControl.NameMap
import SessionControl.Numeric.Binary64
import SessionControl.Numeric.Decimal
import SessionControl.Numeric.Extended
import SessionControl.Numeric.FixedPlaces
import SessionControl.Numeric.Nearest
import SessionControl.Numeric.Shortest
import SessionControl.Programs.Answering
import SessionControl.Programs.Characters
import SessionControl.Programs.Condition
import SessionControl.Programs.Escapes
import SessionControl.Programs.Format
import SessionControl.Programs.Lines
import SessionControl.Programs.Places
import SessionControl.Programs.Starting
import SessionControl.Programs.Tool
import SessionControl.Programs.Workplace
import SessionControl.Programs.Wrapping
import SessionControl.Settings.Basic
import SessionControl.Settings.Loading
import SessionControl.Shell.Arithmetic
import SessionControl.Shell.Builtins
import SessionControl.Shell.Execution
import SessionControl.Shell.Expansion
import SessionControl.Shell.Grammar
import SessionControl.Shell.Pattern
import SessionControl.Shell.Program
import SessionControl.Shell.Script
import SessionControl.Shell.State
import SessionControl.Shell.Words
import SessionControl.Text.Ascii
import SessionControl.Text.Bytes
import SessionControl.Text.Quoted
import SessionControl.Text.Similarity
import SessionControl.Text.Visible
import SessionControl.Toml.Document
import SessionControl.Toml.Token
import SessionControl.Toml.Value
import SessionControl.Proofs.Inquiry
import SessionControl.Proofs.Operations
import SessionControl.Proofs.Inhibition
import SessionControl.Proofs.Records
import SessionControl.Proofs.Registration
import SessionControl.Proofs.Delivery
import SessionControl.Proofs.Legibility
import SessionControl.Proofs.Commands
import SessionControl.Proofs.Mutations
import SessionControl.Proofs.Fidelity
import SessionControl.Proofs.Ledger
import SessionControl.Proofs.Maps
import SessionControl.Proofs.Statelessness
import SessionControl.Proofs.Watching
import SessionControl.Proofs.Coercion
import SessionControl.Proofs.Troubles
import SessionControl.Proofs.Acceptance
import SessionControl.Proofs.Consistency
import SessionControl.Proofs.Spelling
import SessionControl.Proofs.Requests
import SessionControl.Proofs.Conversing
import SessionControl.Proofs.Devices
import SessionControl.Proofs.Asking
import SessionControl.Proofs.Adjusting
import SessionControl.Proofs.Naming
import SessionControl.Proofs.Accessors
import SessionControl.Proofs.Narration
import SessionControl.Proofs.Reporting
import SessionControl.Proofs.Unnamed
import SessionControl.Proofs.Absence
import SessionControl.Proofs.Listing
import SessionControl.Proofs.Properties
import SessionControl.Proofs.Marking
import SessionControl.Proofs.Rundown
import SessionControl.Proofs.Transcript
import SessionControl.Proofs.Showing
import SessionControl.Proofs.Restraint
import SessionControl.Proofs.Display
import SessionControl.Proofs.Settings
import SessionControl.Proofs.Precedence
