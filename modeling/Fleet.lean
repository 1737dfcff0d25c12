import Fleet.Access
import Fleet.Announcement
import Fleet.Calendar
import Fleet.Calls
import Fleet.Cluster
import Fleet.Cluster.Config
import Fleet.Cluster.Normal
import Fleet.Cluster.Status
import Fleet.Conditions
import Fleet.Directory
import Fleet.Failure
import Fleet.Health
import Fleet.Health.Snapshots
import Fleet.Holdings
import Fleet.Instant
import Fleet.Instant.Rfc3339
import Fleet.Json
import Fleet.Json.Reader
import Fleet.Json.Writer
import Fleet.Main
import Fleet.NameMaps
import Fleet.Options
import Fleet.Proofs.Actions
import Fleet.Proofs.Directory
import Fleet.Proofs.NormalForm
import Fleet.Proofs.Tables
import Fleet.Query
import Fleet.Registry.Enrolment
import Fleet.Registry.Operation
import Fleet.Registry.Reads
import Fleet.Registry.Reconciliation
import Fleet.Registry.Records
import Fleet.Registry.Removal
import Fleet.Registry.Writes
import Fleet.Roster
import Fleet.Runtime
import Fleet.Settings
import Fleet.State
import Fleet.Subsystem
import Fleet.Surroundings
import Fleet.Table
import Fleet.Table.Lookup
import Fleet.Takeover
import Fleet.Tally
import Fleet.Teardown.Agenda
import Fleet.Teardown.Cascade
import Fleet.Teardown.Queue
import Fleet.Teardown.Report
import Fleet.Teardown.Timeline
import Fleet.Telemetry
import Fleet.Text.Blank
import Fleet.Text.Decimal
import Fleet.Text.Extending
import Fleet.Text.Quoted
import Fleet.Text.Unprintable
import Fleet.Wire.Answer
import Fleet.Wire.Cluster
import Fleet.Wire.Config
import Fleet.Wire.Fields
import Fleet.Wire.State
import Fleet.Wire.Status
import Fleet.Proofs.Records
import Fleet.Proofs.Adoption
import Fleet.Proofs.Effects
import Fleet.Proofs.Runs
import Fleet.Proofs.Soundness
import Fleet.Proofs.Naming
import Fleet.Proofs.Succession
import Fleet.Proofs.Protocol
import Fleet.Proofs.Repetition
import Fleet.Proofs.Resaving
import Fleet.Proofs.Attendance
import Fleet.Proofs.Accounting
import Fleet.Proofs.Mirror
import Fleet.Proofs.Reading
import Fleet.Proofs.Departures
import Fleet.Proofs.Levels
import Fleet.Proofs.Restraint
import Fleet.Proofs.Connections
import Fleet.Proofs.Absence
import Fleet.Proofs.Registration
import Fleet.Proofs.Recovery
import Fleet.Proofs.Ownership
import Fleet.Proofs.Strays
import Fleet.Proofs.Discretion
import Fleet.Proofs.Rebuilding
import Fleet.Proofs.Edits
import Fleet.Proofs.Amendments
import Fleet.Proofs.Retries
import Fleet.Proofs.Locality
import Fleet.Proofs.Scheduling
import Fleet.Proofs.Itinerary
import Fleet.Proofs.Interleaving
import Fleet.Proofs.Convergence
import Fleet.Proofs.Waiting
import Fleet.Proofs.Alerts
import Fleet.Proofs.Rosters
import Fleet.Proofs.Pushes
import Fleet.Proofs.Reports
import Fleet.Proofs.Leftovers
import Fleet.Proofs.Views
import Fleet.Proofs.Snapshots
import Fleet.Proofs.NameHistory
import Fleet.Proofs.Meetings
import Fleet.Proofs.Endings
import Fleet.Proofs.Digits
import Fleet.Proofs.Settings
import Fleet.Proofs.Alignment
import Fleet.Proofs.Calendar
import Fleet.Proofs.Instants
import Fleet.Proofs.JsonText
import Fleet.Proofs.Formats
import Fleet.Proofs.Encoding
