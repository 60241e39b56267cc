import PeerRules.Action
import PeerRules.Audit
import PeerRules.Batch
import PeerRules.Call
import PeerRules.Condition.Basic
import PeerRules.Condition.Matching
import PeerRules.Condition.Operator
import PeerRules.Crew
import PeerRules.Crowd
import PeerRules.Dispatch
import PeerRules.Fault
import PeerRules.Guard
import PeerRules.Instant
import PeerRules.Json.Binary64
import PeerRules.Json.Number
import PeerRules.Json.Printer
import PeerRules.Json.Reader
import PeerRules.Json.Shape
import PeerRules.Json.Shortest
import PeerRules.Json.Value
import PeerRules.Lease.Client
import PeerRules.Lease.Command
import PeerRules.Lease.Digest
import PeerRules.Lease.Keys
import PeerRules.Lease.Party
import PeerRules.Lease.Server
import PeerRules.Lease.Settings
import PeerRules.Log
import PeerRules.Main
import PeerRules.Name
import PeerRules.Node.Address
import PeerRules.Node.Client
import PeerRules.Node.Endpoint
import PeerRules.Node.Message
import PeerRules.Node.Status
import PeerRules.Party
import PeerRules.Peer
import PeerRules.Place
import PeerRules.Plan
import PeerRules.Proofs.Acceptance
import PeerRules.Proofs.Amending
import PeerRules.Proofs.Calls
import PeerRules.Proofs.Columns
import PeerRules.Proofs.Comparisons
import PeerRules.Proofs.Courses
import PeerRules.Proofs.Deadlines
import PeerRules.Proofs.Disconnecting
import PeerRules.Proofs.Dismissal
import PeerRules.Proofs.Dues
import PeerRules.Proofs.FailingClosed
import PeerRules.Proofs.Heartbeat
import PeerRules.Proofs.Histories
import PeerRules.Proofs.Hosts
import PeerRules.Proofs.Integers
import PeerRules.Proofs.Isolation
import PeerRules.Proofs.Leases
import PeerRules.Proofs.ListedRules
import PeerRules.Proofs.MeetingLaws
import PeerRules.Proofs.Merging
import PeerRules.Proofs.OneTimer
import PeerRules.Proofs.Numerals
import PeerRules.Proofs.Onlookers
import PeerRules.Proofs.Overlap
import PeerRules.Proofs.Pacing
import PeerRules.Proofs.Paging
import PeerRules.Proofs.Password
import PeerRules.Proofs.Patches
import PeerRules.Proofs.Paths
import PeerRules.Proofs.Performing
import PeerRules.Proofs.Persistence
import PeerRules.Proofs.Places
import PeerRules.Proofs.Reloading
import PeerRules.Proofs.Renewal
import PeerRules.Proofs.Replies
import PeerRules.Proofs.Resubmission
import PeerRules.Proofs.SeedSetting
import PeerRules.Proofs.Seeding
import PeerRules.Proofs.SeedingTogether
import PeerRules.Proofs.Settings
import PeerRules.Proofs.Shapes
import PeerRules.Proofs.Shutdown
import PeerRules.Proofs.SingleFlight
import PeerRules.Proofs.Spellings
import PeerRules.Proofs.StoredForms
import PeerRules.Proofs.Trimming
import PeerRules.Proofs.Turns
import PeerRules.Proofs.Upkeep
import PeerRules.Rehearsal.Stage
import PeerRules.Rehearsal.Tape
import PeerRules.Rule.Basic
import PeerRules.Rule.Input
import PeerRules.RuleId.Parser
import PeerRules.Run
import PeerRules.Schedule
import PeerRules.Schedule.Move
import PeerRules.Service
import PeerRules.Store
import PeerRules.Sweep
import PeerRules.Table.Client
import PeerRules.Table.Row
import PeerRules.Table.Server
import PeerRules.Table.Statement
import PeerRules.Text.Base64
import PeerRules.Text.Blank
import PeerRules.Text.Composed
import PeerRules.Text.Hidden
import PeerRules.Text.Numeral
import PeerRules.Text.Quoted
import PeerRules.Text.Table
import PeerRules.Text.Utf8
import PeerRules.Timer
import PeerRules.Url.Basic
import PeerRules.Url.Domain
import PeerRules.Url.Domain.Direction
import PeerRules.Url.Domain.Joining
import PeerRules.Url.Domain.Mapping
import PeerRules.Url.Escape
import PeerRules.Url.Host
import PeerRules.Url.Ipv4
import PeerRules.Url.Ipv6
import PeerRules.Url.Parser
import PeerRules.Url.Path
import PeerRules.Url.Punycode
import PeerRules.Wire.Call
import PeerRules.Wire.Document
import PeerRules.Worker.Config
import PeerRules.Worker.Parties
import PeerRules.Worker.Process
import PeerRules.Worker.Seed
import PeerRules.Worker.Watch
