import BeaconGateway.Address
import BeaconGateway.Config.Basic
import BeaconGateway.Config.Blob
import BeaconGateway.Config.Codec
import BeaconGateway.Config.Document
import BeaconGateway.Config.Validation
import BeaconGateway.Document.Records
import BeaconGateway.Document.Status
import BeaconGateway.Error
import BeaconGateway.Gateway.Basic
import BeaconGateway.Gateway.Journal
import BeaconGateway.Gateway.Surroundings
import BeaconGateway.Hash.Hmac
import BeaconGateway.Hash.Sha256
import BeaconGateway.History.Filter
import BeaconGateway.History.Query
import BeaconGateway.Http.Client
import BeaconGateway.Http.Signing
import BeaconGateway.Indicator
import BeaconGateway.Json
import BeaconGateway.Metrics
import BeaconGateway.Mqtt.Publisher
import BeaconGateway.Network.Link
import BeaconGateway.Network.Status
import BeaconGateway.Outside
import BeaconGateway.Rehearsal
import BeaconGateway.Relay.Basic
import BeaconGateway.Relay.Call
import BeaconGateway.Relay.Signal
import BeaconGateway.Relay.System
import BeaconGateway.Report.Basic
import BeaconGateway.Report.Body
import BeaconGateway.Report.CheckedBody
import BeaconGateway.Report.Samples
import BeaconGateway.Restart
import BeaconGateway.Scanner.Intake
import BeaconGateway.Scanner.Receiver
import BeaconGateway.Scanner.Script
import BeaconGateway.Signal.Mailbox
import BeaconGateway.Signal.Set
import BeaconGateway.Signal.Timer
import BeaconGateway.Storage
import BeaconGateway.Supervisor.Basic
import BeaconGateway.Supervisor.HeapMonitor
import BeaconGateway.Supervisor.Request
import BeaconGateway.Supervisor.Services
import BeaconGateway.Supervisor.Signal
import BeaconGateway.Supervisor.System
import BeaconGateway.Supervisor.UpdateWindow
import BeaconGateway.Table.AddressIndex
import BeaconGateway.Table.Basic
import BeaconGateway.Table.Links
import BeaconGateway.Table.PackedLinks
import BeaconGateway.Table.PackedQueue
import BeaconGateway.Table.PackedRecency
import BeaconGateway.Table.PendingQueue
import BeaconGateway.Table.Recency
import BeaconGateway.Table.Series
import BeaconGateway.Table.Slots
import BeaconGateway.Text.Base64
import BeaconGateway.Text.Bounded
import BeaconGateway.Text.Decimal
import BeaconGateway.Text.Hex
import BeaconGateway.Text.Utf8
import BeaconGateway.Watchdog
import BeaconGateway.Wire.Checksum
import BeaconGateway.Wire.Command
import BeaconGateway.Wire.Decoder
import BeaconGateway.Wire.Frame
import BeaconGateway.Wire.ScanSettings
import BeaconGateway.Proofs.Table.Chain
import BeaconGateway.Proofs.Table.PendingQueue
import BeaconGateway.Proofs.Table.AddressIndex
import BeaconGateway.Proofs.Table.Recency
import BeaconGateway.Proofs.Table.Layout
import BeaconGateway.Proofs.Table.Requests
import BeaconGateway.Proofs.Table.Roster
import BeaconGateway.Proofs.Table.Delivery
import BeaconGateway.Proofs.Table.Refusal
import BeaconGateway.Proofs.Wire.Stream
import BeaconGateway.Proofs.Wire.Soundness
import BeaconGateway.Wire.BufferedDecoder
import BeaconGateway.Proofs.Wire.Buffers
import BeaconGateway.Proofs.Network.Status
import BeaconGateway.Proofs.Outside
import BeaconGateway.Proofs.Relay.Handling
import BeaconGateway.Proofs.Wire.Damage
import BeaconGateway.Proofs.Supervisor.Handling
import BeaconGateway.Proofs.Gateway.Run
import BeaconGateway.Proofs.Gateway.Suspension
import BeaconGateway.Proofs.Supervisor.Broker
import BeaconGateway.Proofs.Gateway.Broker
import BeaconGateway.Proofs.Supervisor.Questions
import BeaconGateway.Proofs.Supervisor.Announcement
import BeaconGateway.Proofs.Gateway.Announcement
import BeaconGateway.Proofs.Supervisor.Recording
import BeaconGateway.Proofs.Supervisor.Waits
import BeaconGateway.Proofs.Supervisor.ConfigMode
import BeaconGateway.Proofs.Relay.Delivery
import BeaconGateway.Proofs.Gateway.Reach
import BeaconGateway.Proofs.Scanner.Sightings
import BeaconGateway.Proofs.Gateway.Arrivals
import BeaconGateway.Proofs.Table.Recent
import BeaconGateway.Proofs.Scanner.Stamps
import BeaconGateway.Proofs.History.Completeness
import BeaconGateway.Proofs.Relay.Watchdog
import BeaconGateway.Proofs.Relay.Silence
import BeaconGateway.Proofs.Relay.Uplink
import BeaconGateway.Proofs.Config.Codec
import BeaconGateway.Proofs.Config.Blob
import BeaconGateway.Proofs.Storage
import BeaconGateway.Proofs.Scanner.Accounting
import BeaconGateway.Proofs.History.Visibility
import BeaconGateway.Proofs.Json.Grammar
import BeaconGateway.Proofs.Json.Unambiguous
import BeaconGateway.Proofs.Json.Writing
import BeaconGateway.Proofs.Document.Records
import BeaconGateway.Proofs.Relay.Diary
import BeaconGateway.Proofs.Relay.Numbering
import BeaconGateway.Proofs.Relay.Connection
import BeaconGateway.Proofs.Supervisor.Course
import BeaconGateway.Proofs.Supervisor.Schedule
import BeaconGateway.Proofs.Supervisor.Lamp
import BeaconGateway.Proofs.Storage.Namespaces
import BeaconGateway.Proofs.Signal.Traffic
import BeaconGateway.Proofs.Signal.Life
import BeaconGateway.Proofs.Report.Body
import BeaconGateway.Proofs.Report.Transmission
import BeaconGateway.Proofs.Relay.Retransmission
import BeaconGateway.Proofs.Document.Status
import BeaconGateway.Proofs.Relay.Statistics
import BeaconGateway.Proofs.Report.Samples
import BeaconGateway.Proofs.Supervisor.Frame
import BeaconGateway.Proofs.Supervisor.HeapMonitor
import BeaconGateway.Proofs.Supervisor.Memory
import BeaconGateway.Proofs.Supervisor.UpdateWindow
import BeaconGateway.Proofs.Http.Client
import BeaconGateway.Proofs.History.Numbers
import BeaconGateway.Proofs.Network.Links
import BeaconGateway.Proofs.Mqtt.Publisher
import BeaconGateway.Proofs.Table.Buckets
import BeaconGateway.Proofs.Text.Bounded
import BeaconGateway.Proofs.Wire.Recovery
import BeaconGateway.Proofs.Table.Touches
import BeaconGateway.Proofs.Table.Line
import BeaconGateway.Proofs.Hash
import BeaconGateway.Proofs.Wire.Checksum
import BeaconGateway.Proofs.Table.PackedIndex
