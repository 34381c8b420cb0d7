import OpenHdoLinker.Lib.Runs
import OpenHdoLinker.Lib.PyExc
import OpenHdoLinker.Lib.Readings
import OpenHdoLinker.Lib.PyDict
import OpenHdoLinker.Lib.PyJson
import OpenHdoLinker.Lib.GenericUrl
import OpenHdoLinker.Lib.JsonTree
import OpenHdoLinker.Lib.PyText
import OpenHdoLinker.Lib.PyInt
import OpenHdoLinker.Lib.PyTime
import OpenHdoLinker.Lib.Octets
import OpenHdoLinker.Lib.Rounding
import OpenHdoLinker.Lib.Colorsys
import OpenHdoLinker.Lib.Hsv
import OpenHdoLinker.Models
import OpenHdoLinker.Config
import OpenHdoLinker.Protocol
import OpenHdoLinker.Tuya.Frame
import OpenHdoLinker.Tuya.Discovery
import OpenHdoLinker.Tuya.Mapping
import OpenHdoLinker.Tuya.Driver
import OpenHdoLinker.Tuya.Confirmed
import OpenHdoLinker.Tuya.Pairing
import OpenHdoLinker.Tuya.Session
import OpenHdoLinker.Tuya.OneConnection
import OpenHdoLinker.Tuya.SessionKey
import OpenHdoLinker.Boundary.Requests
import OpenHdoLinker.Boundary.Handle
import OpenHdoLinker.Boundary.Journal
import OpenHdoLinker.ServerClient.Reconnect
import OpenHdoLinker.Supervisor
import OpenHdoLinker.ServerClient.Publisher
import OpenHdoLinker.ServerClient.Receive
import OpenHdoLinker.Restart
import OpenHdoLinker.Lib.PyStream
import OpenHdoLinker.Tuya.Codec
import OpenHdoLinker.Lib.Base64
import OpenHdoLinker.Lib.JsonText
import OpenHdoLinker.Tuya.Payload
import OpenHdoLinker.Tuya.ReturnCode
import OpenHdoLinker.Tuya.Status
import OpenHdoLinker.Tuya.Light
import OpenHdoLinker.Boundary.Calls
import OpenHdoLinker.Boundary.Rebinding
import OpenHdoLinker.Tuya.Life
import OpenHdoLinker.Tuya.Ownership
import OpenHdoLinker.ServerClient.Reports
import OpenHdoLinker.Lib.PyRel
import OpenHdoLinker.Boundary.Secrecy
import OpenHdoLinker.Boundary.Results
import OpenHdoLinker.Boundary.Answers
import OpenHdoLinker.Tuya.Candidates
import OpenHdoLinker.ServerClient.Subscriptions
import OpenHdoLinker.Wire
import OpenHdoLinker.Tuya.Announcements
import OpenHdoLinker.Tuya.Sockets
import OpenHdoLinker.RuntimeConfig
import OpenHdoLinker.StartUp
import OpenHdoLinker.Timings
import OpenHdoLinker.BadConfig
import OpenHdoLinker.Endpoint
import OpenHdoLinker.Tuya.Exchange
import OpenHdoLinker.Lib.Correlation
import OpenHdoLinker.Tuya.Replies
import OpenHdoLinker.Tuya.Health
import OpenHdoLinker.Tuya.Rejected
import OpenHdoLinker.Tuya.Subscribers
import OpenHdoLinker.Tuya.ColorText
import OpenHdoLinker.Tuya.Mappable
import OpenHdoLinker.Tuya.Scale
import OpenHdoLinker.Tuya.HsvTransport
import OpenHdoLinker.Tuya.Codec6699
import OpenHdoLinker.Envelopes
import OpenHdoLinker.Cli.Inspect
import OpenHdoLinker.Lib.Storage
import OpenHdoLinker.Lib.Locking
import OpenHdoLinker.ServerClient.Locks
import OpenHdoLinker.ServerClient.Conversation
import OpenHdoLinker.Tuya.ReaderLoop
import OpenHdoLinker.Tuya.Handshake
import OpenHdoLinker.Tuya.StateFile
import OpenHdoLinker.Tuya.Failures
import OpenHdoLinker.Boundary.Actuation
import OpenHdoLinker.Lib.JsonReader
import OpenHdoLinker.Boundary.RemoteLight
import OpenHdoLinker.Cli.Commands
