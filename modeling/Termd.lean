import Termd.Auth.Replay
import Termd.Auth.Pairing
import Termd.Auth.Challenge
import Termd.Auth.Tickets
import Termd.Auth.Signing
import Termd.Auth.Exchange
import Termd.Files.UploadRun
import Termd.Files.Crash
import Termd.Library.FiniteMap
import Termd.Library.Transition
import Termd.Library.Ensures
import Termd.Library.Decimal
import Termd.Library.Utf8
import Termd.Library.Utf8Lossy
import Termd.Library.Base64
import Termd.Library.BigEndian
import Termd.Library.Json
import Termd.Library.Window
import Termd.Library.Channel
import Termd.Library.Transaction
import Termd.Relay.Room
import Termd.Relay.Registry
import Termd.Relay.RoomStep
import Termd.Relay.Pairing
import Termd.Relay.Accounting
import Termd.Relay.Admission
import Termd.Relay.Budget
import Termd.Relay.Occupancy
import Termd.Relay.PrePair
import Termd.Relay.Rotation
import Termd.Relay.Credentials
import Termd.Relay.Codec
import Termd.Relay.Tunnel
import Termd.Relay.HttpTunnel
import Termd.Relay.Registration
import Termd.Screen.Style
import Termd.Screen.Line
import Termd.Screen.Basic
import Termd.Screen.Snapshot
import Termd.Screen.View
import Termd.Screen.Sound
import Termd.Screen.Commands
import Termd.Screen.Stream
import Termd.Screen.Pending
import Termd.Screen.Decoding
import Termd.Screen.Sequences
import Termd.Screen.Tape
import Termd.Screen.Replay
import Termd.Screen.Restore
import Termd.Screen.Alternate
import Termd.Screen.Weight
import Termd.Pty.Journal
import Termd.Pty.Answers
import Termd.Pty.Supervisor
import Termd.Pty.Attach
import Termd.Pty.Mirror
import Termd.Pty.Resume
import Termd.Pty.Catchup
import Termd.Pty.Close
import Termd.Pty.Controllers
import Termd.Pty.Pump
import Termd.Pty.Resize
import Termd.Ownership.Ledger
import Termd.Ownership.Recovery
import Termd.Ownership.Threads
import Termd.Ownership.Changes
import Termd.Ownership.Phases
import Termd.Ownership.Evidence
import Termd.Ownership.Projection
import Termd.Daemon.Finished
import Termd.Daemon.Handles
import Termd.Daemon.Clients
import Termd.Daemon.Scopes
import Termd.Library.CharBoundary
import Termd.Git.Command
import Termd.Git.Diff
import Termd.Git.Status
import Termd.Library.Occurrences
import Termd.Library.Lowercase
import Termd.Screen.Search
import Termd.Library.ByteStream
import Termd.Pty.Frames
import Termd.State.Store
import Termd.State.Merge
import Termd.State.History
import Termd.Library.Ranking
import Termd.State.DisplayOrder
import Termd.Library.Traverse
import Termd.State.WebPush
import Termd.State.PushDelivery
import Termd.Library.FileTree
import Termd.Files.SessionRoot
import Termd.Library.Changes
import Termd.Pty.OscParser
import Termd.Pty.Activity
import Termd.Daemon.TerminalAttach
import Termd.Relay.Reconnect
import Termd.Library.TextSplit
import Termd.Relay.Endpoint
import Termd.Browser.AccessToken
import Termd.Browser.FileEditor
import Termd.Ownership.Installer
import Termd.Pty.Bridge
import Termd.Browser.AttachSync
import Termd.Install.Options
import Termd.Files.Coverage
import Termd.Files.Handlers
import Termd.Browser.UploadFile
import Termd.Screen.Sgr
import Termd.Web.Encodings
import Termd.Web.Assets
import Termd.Library.LoadSave
import Termd.Browser.State
import Termd.Library.Router
import Termd.Relay.Routes
import Termd.Pty.Reader
import Termd.Browser.SessionFiles
import Termd.Browser.Metadata
import Termd.Browser.MetadataFeed
import Termd.Browser.Terminal
