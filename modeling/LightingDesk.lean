import LightingDesk.Act
import LightingDesk.Act.Authoring
import LightingDesk.Act.Review
import LightingDesk.ArtNet.Address
import LightingDesk.ArtNet.Packet
import LightingDesk.ArtNet.Sender
import LightingDesk.Clock
import LightingDesk.CommandLine
import LightingDesk.CommandLine.Arguments
import LightingDesk.CommandLine.Help
import LightingDesk.CommandLine.Report
import LightingDesk.CommandLine.Settings
import LightingDesk.Condition
import LightingDesk.Curve
import LightingDesk.Decimal.Layout
import LightingDesk.Decimal.Literal
import LightingDesk.Decimal.Shortest
import LightingDesk.Dmx.Fixture
import LightingDesk.Dmx.Universe
import LightingDesk.Document.Source
import LightingDesk.Document.Text
import LightingDesk.Document.Written
import LightingDesk.FixtureSet
import LightingDesk.Folder
import LightingDesk.Generator
import LightingDesk.Graph.Search
import LightingDesk.Identifier
import LightingDesk.Json
import LightingDesk.Json.Parse
import LightingDesk.Json.Print
import LightingDesk.Json.Source
import LightingDesk.Json.Token
import LightingDesk.Log.Retention
import LightingDesk.Log.Settings
import LightingDesk.Main
import LightingDesk.OsFault
import LightingDesk.Path
import LightingDesk.Playback.Event
import LightingDesk.Playback.Fault
import LightingDesk.Playback.Output
import LightingDesk.Playback.Player
import LightingDesk.Playback.Route
import LightingDesk.Playback.Session
import LightingDesk.Playback.Stage
import LightingDesk.Playback.Timer
import LightingDesk.Proofs.Act.Authoring
import LightingDesk.Proofs.Act.Cycles
import LightingDesk.Proofs.Act.Guard
import LightingDesk.Proofs.Act.Lookups
import LightingDesk.Proofs.Act.Review
import LightingDesk.Proofs.ArtNet.Sender
import LightingDesk.Proofs.CommandLine.Override
import LightingDesk.Proofs.Decimal.Layout
import LightingDesk.Proofs.Decimal.Nearest
import LightingDesk.Proofs.Dmx.Patch
import LightingDesk.Proofs.Document.Appearance
import LightingDesk.Proofs.Document.Faithful
import LightingDesk.Proofs.Document.Shows
import LightingDesk.Proofs.Float.Packing
import LightingDesk.Proofs.Folder
import LightingDesk.Proofs.Graph.Components
import LightingDesk.Proofs.Graph.Search
import LightingDesk.Proofs.Hazard
import LightingDesk.Proofs.Json.Appearance
import LightingDesk.Proofs.Json.Print
import LightingDesk.Proofs.Json.Retold
import LightingDesk.Proofs.Json.Scan
import LightingDesk.Proofs.Json.Text
import LightingDesk.Proofs.Log.Retention
import LightingDesk.Proofs.Playback.Activation
import LightingDesk.Proofs.Playback.Apart
import LightingDesk.Proofs.Playback.Arrival
import LightingDesk.Proofs.Playback.Audience
import LightingDesk.Proofs.Playback.Budget
import LightingDesk.Proofs.Playback.Career
import LightingDesk.Proofs.Playback.Cast
import LightingDesk.Proofs.Playback.Conduct
import LightingDesk.Proofs.Playback.Confines
import LightingDesk.Proofs.Playback.Course
import LightingDesk.Proofs.Playback.Cursor
import LightingDesk.Proofs.Playback.Deeds
import LightingDesk.Proofs.Playback.Deliveries
import LightingDesk.Proofs.Playback.Departure
import LightingDesk.Proofs.Playback.Drive
import LightingDesk.Proofs.Playback.Ending
import LightingDesk.Proofs.Playback.Exhaustion
import LightingDesk.Proofs.Playback.Forewarned
import LightingDesk.Proofs.Playback.Frames
import LightingDesk.Proofs.Playback.Generation
import LightingDesk.Proofs.Playback.Hazards
import LightingDesk.Proofs.Playback.Journey
import LightingDesk.Proofs.Playback.Ledger
import LightingDesk.Proofs.Playback.Legacies
import LightingDesk.Proofs.Playback.Legacy
import LightingDesk.Proofs.Playback.Life
import LightingDesk.Proofs.Playback.Lives
import LightingDesk.Proofs.Playback.Moment
import LightingDesk.Proofs.Playback.Moves
import LightingDesk.Proofs.Playback.Order
import LightingDesk.Proofs.Playback.Overflow
import LightingDesk.Proofs.Playback.Pace
import LightingDesk.Proofs.Playback.Playback
import LightingDesk.Proofs.Playback.Protocol
import LightingDesk.Proofs.Playback.Recall
import LightingDesk.Proofs.Playback.Refusal
import LightingDesk.Proofs.Playback.Report
import LightingDesk.Proofs.Playback.Request
import LightingDesk.Proofs.Playback.Restart
import LightingDesk.Proofs.Playback.Rounds
import LightingDesk.Proofs.Playback.Scenery
import LightingDesk.Proofs.Playback.Schedule
import LightingDesk.Proofs.Playback.Sight
import LightingDesk.Proofs.Playback.Slices
import LightingDesk.Proofs.Playback.Snapshot
import LightingDesk.Proofs.Playback.Stack
import LightingDesk.Proofs.Playback.Still
import LightingDesk.Proofs.Playback.Thrift
import LightingDesk.Proofs.Playback.Timers
import LightingDesk.Proofs.Playback.Toll
import LightingDesk.Proofs.Playback.Tracking
import LightingDesk.Proofs.Playback.Turn
import LightingDesk.Proofs.Playback.Utterance
import LightingDesk.Proofs.Playback.Visit
import LightingDesk.Proofs.Playback.Walk
import LightingDesk.Proofs.Ron.Appearance
import LightingDesk.Proofs.Ron.Number
import LightingDesk.Proofs.Ron.Print
import LightingDesk.Proofs.Ron.Scan
import LightingDesk.Proofs.Ron.Text
import LightingDesk.Proofs.Runner.Broadcast
import LightingDesk.Proofs.Runner.Company
import LightingDesk.Proofs.Runner.Cue
import LightingDesk.Proofs.Runner.Roster
import LightingDesk.Proofs.Runner.Run
import LightingDesk.Proofs.Runner.Sequence
import LightingDesk.Proofs.Runner.Surroundings
import LightingDesk.Proofs.Runner.Triggers
import LightingDesk.Proofs.Show.File
import LightingDesk.Proofs.Show.Fixtures
import LightingDesk.Proofs.Show.Reload
import LightingDesk.Proofs.Show.Version
import LightingDesk.Proofs.Timestamp
import LightingDesk.Proofs.Tracker
import LightingDesk.Proofs.Tracker.Bounce
import LightingDesk.Proofs.Universe
import LightingDesk.Ron
import LightingDesk.Ron.Parse
import LightingDesk.Ron.Print
import LightingDesk.Ron.Source
import LightingDesk.Ron.Token
import LightingDesk.Runner
import LightingDesk.Scene
import LightingDesk.Settings
import LightingDesk.Show
import LightingDesk.Show.File
import LightingDesk.Signal
import LightingDesk.Span
import LightingDesk.Stored.Act
import LightingDesk.Stored.Condition
import LightingDesk.Stored.Event
import LightingDesk.Stored.Identifier
import LightingDesk.Stored.Message
import LightingDesk.Stored.Patch
import LightingDesk.Stored.Settings
import LightingDesk.Stored.Show
import LightingDesk.Stored.Tracker
import LightingDesk.Text.Blank
import LightingDesk.Text.Extending
import LightingDesk.Text.Letter
import LightingDesk.Text.Quoted
import LightingDesk.Text.Unprintable
import LightingDesk.Timestamp
import LightingDesk.Toml
import LightingDesk.Toml.Parse
import LightingDesk.Toml.Scalar
import LightingDesk.Toml.Source
import LightingDesk.Tracker
import LightingDesk.Tracker.Memory
import LightingDesk.Trigger
