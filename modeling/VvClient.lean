import VvClient.Lib.Machine
import VvClient.Lib.Prog
import VvClient.Lib.Window
import VvClient.Lib.Sequence
import VvClient.Lib.Oneshot
import VvClient.Lib.Mailbox
import VvClient.Lib.Json
import VvClient.Lib.JsonText
import VvClient.Lib.Utf8
import VvClient.Lib.Outcome
import VvClient.Lib.Radix
import VvClient.Lib.Pattern
import VvClient.Lib.Text
import VvClient.Lib.SortedMap
import VvClient.Lib.Visitor
import VvClient.Lib.Replay
import VvClient.Proto.Packet
import VvClient.Proto.Message
import VvClient.Proto.V1
import VvClient.Proto.Responses
import VvClient.Proto.Requests
import VvClient.Proto.V1Ser
import VvClient.Proto.RoundTrip
import VvClient.Proto.FmtWriter
import VvClient.Mediasoup.ScalabilityModes
import VvClient.Mediasoup.MimeTypes
import VvClient.Mediasoup.RtpParameters
import VvClient.Mediasoup.Fingerprint
import VvClient.Mediasoup.DataStructures
import VvClient.Client.Xfer
import VvClient.Client.Display
import VvClient.Client.Conn
import VvClient.Client.Flush
import VvClient.Client.Session
import VvClient.Client.Heartbeat
import VvClient.Client.Task
import VvClient.Client.Ends
import VvClient.Client.Waits
import VvClient.Client.Desk
import VvClient.Client.Phases
import VvClient.Client.Close
import VvClient.Client.Delivery
import VvClient.Client.SendPosition
import VvClient.Client.Wire
import VvClient.Client.Acks
import VvClient.Client.Owed
import VvClient.Client.Reconnect
import VvClient.Client.Stream
import VvClient.Client.Receive
import VvClient.Client.Resend
import VvClient.Client.Lifecycle
import VvClient.Client.Dropped
import VvClient.Client.Join
import VvClient.Client.Handshake
import VvClient.Glue.Listener
import VvClient.Glue.Room
import VvClient.Glue.Member
import VvClient.Glue.Protocol
import VvClient.Glue.Presence
import VvClient.Glue.Online
import VvClient.Glue.Delegate
import VvClient.Glue.Answers
import VvClient.Glue.Process
import VvClient.Glue.Bodies
import VvClient.Glue.Dialogue
import VvClient.Glue.Inbox
import VvClient.Glue.Handshake
import VvClient.Glue.ResponseStatus
import VvClient.Glue.StreamView
import VvClient.Glue.StreamDiff
import VvClient.Glue.UserTree
import VvClient.Glue.Leave
import VvClient.Glue.Commits
import VvClient.Kit.Actor
import VvClient.Kit.ActorDrop
import VvClient.Kit.Invoke
import VvClient.Kit.Messages
import VvClient.Trace.MacroReplacer
