import ViewEngine.Bus
import ViewEngine.Capability
import ViewEngine.Cli.Command
import ViewEngine.Cli.Flags
import ViewEngine.Cli.NodeFile
import ViewEngine.Cli.Program
import ViewEngine.Config.Basic
import ViewEngine.Config.Load
import ViewEngine.Data.Bytes
import ViewEngine.Data.Dict
import ViewEngine.Engine.Access
import ViewEngine.Engine.Api
import ViewEngine.Engine.Fill
import ViewEngine.Engine.Run
import ViewEngine.Engine.World
import ViewEngine.Failure
import ViewEngine.Host.Document
import ViewEngine.Host.Markup
import ViewEngine.Json.Basic
import ViewEngine.Json.Decode
import ViewEngine.Json.Read
import ViewEngine.Main
import ViewEngine.MessagePack.Read
import ViewEngine.MessagePack.Write
import ViewEngine.Node.Basic
import ViewEngine.Node.Classify
import ViewEngine.Number.Binary
import ViewEngine.Number.Layout
import ViewEngine.Number.Read
import ViewEngine.Number.Shortest
import ViewEngine.Proofs.Bus.Delivery
import ViewEngine.Proofs.Engine.Calls
import ViewEngine.Proofs.Engine.Layout
import ViewEngine.Proofs.Engine.Options
import ViewEngine.Proofs.Engine.Recovery
import ViewEngine.Proofs.Engine.Retouch
import ViewEngine.Proofs.Engine.Sweep
import ViewEngine.Proofs.Host.Children
import ViewEngine.Proofs.Live.Attachment
import ViewEngine.Proofs.Markup.Read
import ViewEngine.Proofs.Markup.Render
import ViewEngine.Proofs.Text.Base64
import ViewEngine.Proofs.Token.Cipher
import ViewEngine.Proofs.Token.RoundTrip
import ViewEngine.Props.Decode
import ViewEngine.Scenario.Answer
import ViewEngine.Scenario.CommandLine
import ViewEngine.Scenario.Decoding
import ViewEngine.Scenario.Document
import ViewEngine.Scenario.Encode
import ViewEngine.Scenario.Mount
import ViewEngine.Scenario.Notation
import ViewEngine.Scenario.Records
import ViewEngine.Scenario.Render
import ViewEngine.Scenario.Settings
import ViewEngine.Scenario.Setup
import ViewEngine.Scenario.Tokens
import ViewEngine.Script
import ViewEngine.State
import ViewEngine.Text.Base64
import ViewEngine.Text.Case
import ViewEngine.Text.Escape
import ViewEngine.Text.Quote
import ViewEngine.Text.Utf8
import ViewEngine.Token.Aes
import ViewEngine.Token.Codec
import ViewEngine.Token.Gcm
import ViewEngine.Token.Hmac
import ViewEngine.Token.Sha256
import ViewEngine.Value.Basic
import ViewEngine.Value.Place
import ViewEngine.Value.Show
import ViewEngine.Yaml.Decode
import ViewEngine.Yaml.Node
import ViewEngine.Yaml.Parse
import ViewEngine.Yaml.Resolve
import ViewEngine.Yaml.Scan
import ViewEngine.Yaml.Timestamp
import ViewEngine.Yaml.Token
import ViewEngine.Proofs.Live.Render
import ViewEngine.Proofs.Live.Runs
import ViewEngine.Proofs.Live.Listeners
import ViewEngine.Proofs.Host.Forms
import ViewEngine.Proofs.Live.Append
import ViewEngine.Proofs.Data.Dict
import ViewEngine.Proofs.Data.State
import ViewEngine.Proofs.Engine.Compose
import ViewEngine.Proofs.Token.Errors
import ViewEngine.Proofs.Engine.Depth
import ViewEngine.Proofs.Markup.Fragment
import ViewEngine.Proofs.Text.Base64Normal
import ViewEngine.Proofs.Token.Canonical
import ViewEngine.Proofs.Engine.Timers
import ViewEngine.Proofs.Live.Arena
import ViewEngine.Proofs.Live.Counter
import ViewEngine.Proofs.Live.CounterSession
import ViewEngine.Proofs.Props.Wrapped
import ViewEngine.Proofs.Host.Written
import ViewEngine.Proofs.Engine.Confined
import ViewEngine.Proofs.Live.Clean
import ViewEngine.Proofs.Live.Backends
import ViewEngine.Proofs.Live.Registration
import ViewEngine.Proofs.Host.Drawn
import ViewEngine.Proofs.Live.Steady
import ViewEngine.Proofs.Live.Cleared
