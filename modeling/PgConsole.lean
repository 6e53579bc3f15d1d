import PgConsole.Address
import PgConsole.Base64
import PgConsole.Cipher.ChaCha20
import PgConsole.Cipher.LittleEndian
import PgConsole.Cipher.Poly1305
import PgConsole.Cipher.Sealed
import PgConsole.Cipher.Sha256
import PgConsole.Config
import PgConsole.Connection.Client
import PgConsole.Connection.Key
import PgConsole.Connection.Params
import PgConsole.Connection.Request
import PgConsole.Error
import PgConsole.FileTree
import PgConsole.Job.Argument
import PgConsole.Job.Background
import PgConsole.Job.Capture
import PgConsole.Job.Drain
import PgConsole.Job.Executor
import PgConsole.Job.Host
import PgConsole.Job.Id
import PgConsole.Job.Launcher
import PgConsole.Job.OutputLine
import PgConsole.Job.Run
import PgConsole.Job.Spec
import PgConsole.Job.Status
import PgConsole.Job.StatusKeeper
import PgConsole.Job.StatusTime
import PgConsole.Job.StreamLog
import PgConsole.Json.Basic
import PgConsole.Json.Parser
import PgConsole.Json.Printer
import PgConsole.Log.Filter
import PgConsole.Log.Output
import PgConsole.Main
import PgConsole.Manager.Basic
import PgConsole.Manager.Connect
import PgConsole.Manager.Request
import PgConsole.Manager.Restore
import PgConsole.Passfile
import PgConsole.Path
import PgConsole.Rehearsal.Machine
import PgConsole.Rehearsal.Script
import PgConsole.Rehearsal.Stage
import PgConsole.Row
import PgConsole.Secret
import PgConsole.Server.Identity
import PgConsole.Server.Ssl
import PgConsole.Server.TunnelSettings
import PgConsole.Server.Version
import PgConsole.Services
import PgConsole.Session.Access
import PgConsole.Session.Basic
import PgConsole.Session.Console
import PgConsole.Shell.Arithmetic
import PgConsole.Shell.Format
import PgConsole.Shell.Interpreter
import PgConsole.Shell.Pattern
import PgConsole.Shell.Process
import PgConsole.Shell.Script
import PgConsole.Shell.Token
import PgConsole.Shell.Tool
import PgConsole.Snapshot
import PgConsole.SortedMap
import PgConsole.SystemError
import PgConsole.Text.Blank
import PgConsole.Text.Line
import PgConsole.Text.Numeral
import PgConsole.Text.Quoted
import PgConsole.Text.Search
import PgConsole.Text.Unprintable
import PgConsole.Text.Utf8
import PgConsole.Time.Date
import PgConsole.Time.Duration
import PgConsole.Time.Field
import PgConsole.Time.Moment
import PgConsole.Tunnel.Controller
import PgConsole.Tunnel.Route
import PgConsole.Wire.Certificate
import PgConsole.Wire.Network
import PgConsole.Proofs.Decimal
import PgConsole.Proofs.SortedMap
import PgConsole.Proofs.Base64
import PgConsole.Proofs.ConnectionKey
import PgConsole.Proofs.Manager.Operation
import PgConsole.Proofs.SnapshotJson
import PgConsole.Proofs.Manager.Connect
import PgConsole.Proofs.Manager.Invariant
import PgConsole.Proofs.Manager.Calls
import PgConsole.Proofs.Manager.Restore
import PgConsole.Proofs.Manager.TunnelFirst
import PgConsole.Proofs.Manager.Leftovers
import PgConsole.Proofs.Manager.Snapshot
import PgConsole.Proofs.Session.Store
import PgConsole.Proofs.Session.Restart
import PgConsole.Proofs.Session.Guards
import PgConsole.Proofs.Session.Frame
import PgConsole.Proofs.Job.Handover
import PgConsole.Proofs.Text.Utf8
import PgConsole.Proofs.Time.Calendar
import PgConsole.Proofs.Time.Field
import PgConsole.Proofs.Job.OutputLine
import PgConsole.Proofs.Job.Capture
import PgConsole.Proofs.Job.StreamLog
import PgConsole.Proofs.Job.Polling
import PgConsole.Proofs.Manager.Persisted
import PgConsole.Proofs.JsonText
import PgConsole.Proofs.Job.StatusFile
import PgConsole.Proofs.FileTree
import PgConsole.Proofs.Rehearsal.Machine
import PgConsole.Proofs.Job.StatusHistory
import PgConsole.Proofs.Job.Landing
import PgConsole.Proofs.Job.Recording
import PgConsole.Proofs.Job.BothLogs
import PgConsole.Proofs.Job.Outcome
import PgConsole.Proofs.Job.Reaping
import PgConsole.Proofs.Tunnel.OneForwarder
import PgConsole.Proofs.Manager.Interaction
import PgConsole.Proofs.Manager.TunnelDisabled
import PgConsole.Proofs.Manager.StraySession
import PgConsole.Proofs.Manager.LockedRestore
import PgConsole.Proofs.Manager.Registry
import PgConsole.Proofs.Manager.PartialRestore
import PgConsole.Proofs.Manager.Release
import PgConsole.Proofs.Manager.Resolve
import PgConsole.Proofs.Manager.GetOrRegister
import PgConsole.Proofs.KeyOrder
import PgConsole.Proofs.Manager.VisitOrder
import PgConsole.Proofs.Manager.Atomicity
import PgConsole.Proofs.Manager.Renewal
import PgConsole.Proofs.Job.Retry
import PgConsole.Proofs.Job.Abandonment
import PgConsole.Proofs.Job.ReadBack
import PgConsole.Proofs.Passfile
import PgConsole.Proofs.Config
import PgConsole.Proofs.Session.SecretPolicy
import PgConsole.Proofs.KeyGrammar
import PgConsole.Proofs.Cipher
import PgConsole.Proofs.Secret
import PgConsole.Proofs.SecretText
import PgConsole.Proofs.RoleStatement
import PgConsole.Proofs.Job.StatusTime
import PgConsole.Proofs.Manager.Remembered
