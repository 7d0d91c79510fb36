import TrafficReplay.Calendar
import TrafficReplay.Config.File
import TrafficReplay.Config.Play
import TrafficReplay.Config.Target
import TrafficReplay.Crypto.Hmac
import TrafficReplay.Crypto.Sha256
import TrafficReplay.Cursor
import TrafficReplay.Document.Basic
import TrafficReplay.Document.Decoding
import TrafficReplay.Document.Encoding
import TrafficReplay.Document.Extended
import TrafficReplay.Document.Item
import TrafficReplay.Handshake
import TrafficReplay.Lane.Memory
import TrafficReplay.Lane.Report
import TrafficReplay.Lane.Worker
import TrafficReplay.Net.Fault
import TrafficReplay.Net.FrameBuffer
import TrafficReplay.Net.Pipe
import TrafficReplay.Net.Reception
import TrafficReplay.Number.Decimal
import TrafficReplay.Number.Decimal128
import TrafficReplay.Number.Double
import TrafficReplay.Number.LittleEndian
import TrafficReplay.Number.Notation
import TrafficReplay.Pacing
import TrafficReplay.Pool.Basic
import TrafficReplay.Pool.Session
import TrafficReplay.Proofs.Authentication
import TrafficReplay.Proofs.Client.Vouching
import TrafficReplay.Proofs.Config.Secrecy
import TrafficReplay.Proofs.Cursor
import TrafficReplay.Proofs.Cursor.Scopes
import TrafficReplay.Proofs.Document.Reading
import TrafficReplay.Proofs.Lane.Accounting
import TrafficReplay.Proofs.Lane.Contact
import TrafficReplay.Proofs.Lane.Correlation
import TrafficReplay.Proofs.Lane.Course
import TrafficReplay.Proofs.Lane.Failures
import TrafficReplay.Proofs.Lane.History
import TrafficReplay.Proofs.Lane.Lifecycle
import TrafficReplay.Proofs.Lane.Outgoing
import TrafficReplay.Proofs.Lane.Pacing
import TrafficReplay.Proofs.Lane.Prepared
import TrafficReplay.Proofs.Lane.Queue
import TrafficReplay.Proofs.Lane.Rank
import TrafficReplay.Proofs.Lane.Recall
import TrafficReplay.Proofs.Lane.Recording
import TrafficReplay.Proofs.Lane.Replay
import TrafficReplay.Proofs.Lane.Replies
import TrafficReplay.Proofs.Lane.Slot
import TrafficReplay.Proofs.Lane.Smooth
import TrafficReplay.Proofs.Lane.Standing
import TrafficReplay.Proofs.Lane.Step
import TrafficReplay.Proofs.Lane.Tale
import TrafficReplay.Proofs.Lane.Translation
import TrafficReplay.Proofs.Net.Framing
import TrafficReplay.Proofs.Pool.Bookkeeping
import TrafficReplay.Proofs.Pool.Slots
import TrafficReplay.Proofs.Run.Abort
import TrafficReplay.Proofs.Run.Accounting
import TrafficReplay.Proofs.Run.Admission
import TrafficReplay.Proofs.Run.Cancellation
import TrafficReplay.Proofs.Run.Completion
import TrafficReplay.Proofs.Run.Delivery
import TrafficReplay.Proofs.Run.Ending
import TrafficReplay.Proofs.Run.Exclusion
import TrafficReplay.Proofs.Run.History
import TrafficReplay.Proofs.Run.Inheritance
import TrafficReplay.Proofs.Run.Labels
import TrafficReplay.Proofs.Run.LaneOrder
import TrafficReplay.Proofs.Run.Lifecycle
import TrafficReplay.Proofs.Run.Limit
import TrafficReplay.Proofs.Run.Outcome
import TrafficReplay.Proofs.Run.Ownership
import TrafficReplay.Proofs.Run.Playback
import TrafficReplay.Proofs.Run.Progress
import TrafficReplay.Proofs.Run.Recorder
import TrafficReplay.Proofs.Run.Relay
import TrafficReplay.Proofs.Run.Skipping
import TrafficReplay.Proofs.Run.Slots
import TrafficReplay.Proofs.Run.Solo
import TrafficReplay.Proofs.Run.Step
import TrafficReplay.Proofs.Run.Succession
import TrafficReplay.Proofs.Run.Tidings
import TrafficReplay.Proofs.Run.Transparency
import TrafficReplay.Proofs.Run.Usable
import TrafficReplay.Proofs.Scram.Agreement
import TrafficReplay.Proofs.Server.Answer
import TrafficReplay.Proofs.Server.Conversation
import TrafficReplay.Proofs.Server.Course
import TrafficReplay.Proofs.Server.Failure
import TrafficReplay.Proofs.Server.Gate
import TrafficReplay.Proofs.Server.Handshake
import TrafficReplay.Proofs.Server.Happenings
import TrafficReplay.Proofs.Server.Likeness
import TrafficReplay.Proofs.Server.Paging
import TrafficReplay.Proofs.Server.Verdict
import TrafficReplay.Proofs.Stat.Lines
import TrafficReplay.Proofs.Stat.Spoilt
import TrafficReplay.Proofs.Text.Base64
import TrafficReplay.Proofs.Text.Utf8
import TrafficReplay.Proofs.Wire.Body
import TrafficReplay.Proofs.Wire.Build
import TrafficReplay.Proofs.Wire.CursorField
import TrafficReplay.Proofs.Wire.Field
import TrafficReplay.Proofs.Wire.Frame
import TrafficReplay.Proofs.Wire.Reply
import TrafficReplay.Proofs.Wire.Result
import TrafficReplay.Proofs.Wire.Rewrite
import TrafficReplay.Proofs.Wire.Scan
import TrafficReplay.Proofs.Wire.Sections
import TrafficReplay.Record
import TrafficReplay.Rehearsal.Basic
import TrafficReplay.Rehearsal.Encounter
import TrafficReplay.Rehearsal.Lobby
import TrafficReplay.Rehearsal.Login
import TrafficReplay.Rehearsal.Peer
import TrafficReplay.Rehearsal.Script
import TrafficReplay.Rehearsal.Seat
import TrafficReplay.Run.Basic
import TrafficReplay.Scram.Client
import TrafficReplay.Scram.Keys
import TrafficReplay.Scram.Message
import TrafficReplay.Scram.Redaction
import TrafficReplay.Scram.Server
import TrafficReplay.Server.Basic
import TrafficReplay.Server.Session
import TrafficReplay.Signal
import TrafficReplay.Stat.Basic
import TrafficReplay.Stat.Json
import TrafficReplay.Stat.Reader
import TrafficReplay.Stat.Sink
import TrafficReplay.Text.Base64
import TrafficReplay.Text.Blank
import TrafficReplay.Text.Cut
import TrafficReplay.Text.Hex
import TrafficReplay.Text.Json
import TrafficReplay.Text.Json.Reader
import TrafficReplay.Text.Percent
import TrafficReplay.Text.Printable
import TrafficReplay.Text.Quoted
import TrafficReplay.Text.Utf8
import TrafficReplay.Time
import TrafficReplay.Toml.Reader
import TrafficReplay.Toml.Value
import TrafficReplay.Wire.CursorField
import TrafficReplay.Wire.Fault
import TrafficReplay.Wire.Field
import TrafficReplay.Wire.Frame
import TrafficReplay.Wire.Header
import TrafficReplay.Wire.OpCode
import TrafficReplay.Wire.Reply
import TrafficReplay.Wire.Request
import TrafficReplay.Wire.Section
