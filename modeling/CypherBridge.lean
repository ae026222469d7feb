import CypherBridge.Bolt.Client
import CypherBridge.Bolt.Decoding
import CypherBridge.Bolt.Path
import CypherBridge.Bolt.Path.Words
import CypherBridge.Bolt.Row
import CypherBridge.Bolt.Uri
import CypherBridge.Bolt.Value
import CypherBridge.Bolt.Wire
import CypherBridge.Bridge.Basic
import CypherBridge.Bridge.Connection
import CypherBridge.Bridge.Schedule
import CypherBridge.Bridge.Usage
import CypherBridge.Gateway.Basic
import CypherBridge.Gateway.Error
import CypherBridge.Gateway.Readiness
import CypherBridge.Gateway.Readiness.Counter
import CypherBridge.Gateway.Scripted
import CypherBridge.Gateway.Startup
import CypherBridge.Gateway.Stream
import CypherBridge.Json.Cursor
import CypherBridge.Json.Error
import CypherBridge.Json.Grammar
import CypherBridge.Json.Mismatch
import CypherBridge.Json.Number.Word
import CypherBridge.Json.Printer
import CypherBridge.Json.Reader
import CypherBridge.Json.Reader.Number
import CypherBridge.Json.Reader.String
import CypherBridge.Json.Skip
import CypherBridge.Json.Value
import CypherBridge.Log
import CypherBridge.Main
import CypherBridge.Message.Delivery
import CypherBridge.Message.Task
import CypherBridge.Network.Address
import CypherBridge.Network.Host
import CypherBridge.Network.Name
import CypherBridge.Network.Name.Composition
import CypherBridge.Network.Name.Direction
import CypherBridge.Network.Name.Fold
import CypherBridge.Network.Name.Fold.Arabic
import CypherBridge.Network.Name.Fold.Ideograph
import CypherBridge.Network.Name.Fold.Letter
import CypherBridge.Network.Name.Fold.Range
import CypherBridge.Network.Name.Fold.Spelling
import CypherBridge.Network.Name.Joining
import CypherBridge.Network.Name.Label
import CypherBridge.Network.Name.Mark
import CypherBridge.Network.Name.Normal
import CypherBridge.Network.Name.Punycode
import CypherBridge.Network.Name.Refused
import CypherBridge.Number.Binary64
import CypherBridge.Number.Shortest
import CypherBridge.Program.Basic
import CypherBridge.Program.Help
import CypherBridge.Proofs.Acceptance
import CypherBridge.Proofs.Basic
import CypherBridge.Proofs.Bolt.ColumnOrder
import CypherBridge.Proofs.Bolt.Parameters
import CypherBridge.Proofs.Bolt.Recovery
import CypherBridge.Proofs.Bolt.Rows
import CypherBridge.Proofs.Bolt.Walks
import CypherBridge.Proofs.Bridge.Aftermath
import CypherBridge.Proofs.Bridge.Closing
import CypherBridge.Proofs.Bridge.Connection
import CypherBridge.Proofs.Bridge.Departure
import CypherBridge.Proofs.Bridge.Isolation
import CypherBridge.Proofs.Bridge.Sessions
import CypherBridge.Proofs.Bridge.Streams
import CypherBridge.Proofs.Bridge.Submissions
import CypherBridge.Proofs.Bridge.Trails
import CypherBridge.Proofs.Bridge.Usage
import CypherBridge.Proofs.Coercion
import CypherBridge.Proofs.Gateway.Closed
import CypherBridge.Proofs.Gateway.Fusion
import CypherBridge.Proofs.Gateway.Readiness
import CypherBridge.Proofs.Gateway.Sessions
import CypherBridge.Proofs.Gateway.Startup
import CypherBridge.Proofs.Gateway.Waiting
import CypherBridge.Proofs.Json.Documents
import CypherBridge.Proofs.Json.Grammar
import CypherBridge.Proofs.Json.Integers
import CypherBridge.Proofs.Json.Objects
import CypherBridge.Proofs.Json.Range
import CypherBridge.Proofs.Json.Strings
import CypherBridge.Proofs.Json.Tokens
import CypherBridge.Proofs.Message.Pace
import CypherBridge.Proofs.Message.Progress
import CypherBridge.Proofs.Message.Prospect
import CypherBridge.Proofs.Message.Receiver
import CypherBridge.Proofs.Message.Reception
import CypherBridge.Proofs.Message.Sessions
import CypherBridge.Proofs.Message.Step
import CypherBridge.Proofs.Message.Suspension
import CypherBridge.Proofs.Message.Trail
import CypherBridge.Proofs.Number.Rounding
import CypherBridge.Proofs.Number.Truncation
import CypherBridge.Proofs.Query.Comments
import CypherBridge.Proofs.Query.Identifiers
import CypherBridge.Proofs.Query.Items
import CypherBridge.Proofs.Query.Lexemes
import CypherBridge.Proofs.Query.Losses
import CypherBridge.Proofs.Query.Names
import CypherBridge.Proofs.Query.PlainItems
import CypherBridge.Proofs.Query.Projection
import CypherBridge.Proofs.Query.Quoted
import CypherBridge.Proofs.Query.Scanner.Columns
import CypherBridge.Proofs.Query.Scanner.Loops
import CypherBridge.Proofs.Query.Scanner.Positions
import CypherBridge.Proofs.Query.Scanner.Searches
import CypherBridge.Proofs.Query.Scanner.Stripping
import CypherBridge.Proofs.Query.Transparency
import CypherBridge.Proofs.Query.Unions
import CypherBridge.Proofs.Query.Words
import CypherBridge.Proofs.Record
import CypherBridge.Proofs.Request
import CypherBridge.Proofs.Response.Frame
import CypherBridge.Proofs.Response.Sequence
import CypherBridge.Proofs.Settings.CommandLine
import CypherBridge.Proofs.Settings.Environment
import CypherBridge.Proofs.Settings.Lines
import CypherBridge.Proofs.Settings.Precedence
import CypherBridge.Proofs.Settings.Variables
import CypherBridge.Proofs.Text.Boundaries
import CypherBridge.Proofs.Text.ByteOrder
import CypherBridge.Proofs.Text.Trimming
import CypherBridge.Query.Columns
import CypherBridge.Query.Comments
import CypherBridge.Query.Lexeme
import CypherBridge.Query.Quoting
import CypherBridge.Query.Scanner
import CypherBridge.Record
import CypherBridge.Record.Lists
import CypherBridge.Request
import CypherBridge.Response.Frame
import CypherBridge.Response.FrameReader
import CypherBridge.Server
import CypherBridge.Server.Target
import CypherBridge.Settings.CommandLine
import CypherBridge.Settings.Config
import CypherBridge.Settings.EnvFile
import CypherBridge.Settings.EnvFile.Line
import CypherBridge.Settings.Environment
import CypherBridge.Settings.Setting
import CypherBridge.Settings.Variables
import CypherBridge.Temporal
import CypherBridge.Temporal.Calendar
import CypherBridge.Text.Blank
import CypherBridge.Text.Bytes
import CypherBridge.Text.Numeral
import CypherBridge.Text.Printable
import CypherBridge.WebSocket.Error
import CypherBridge.WebSocket.Frame
import CypherBridge.WebSocket.Socket
