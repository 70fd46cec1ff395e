import SpriteStage.Api.Actors
import SpriteStage.Api.Client
import SpriteStage.Api.Fault
import SpriteStage.Api.Form
import SpriteStage.Api.Host
import SpriteStage.Api.Label
import SpriteStage.Api.Path
import SpriteStage.Api.Reference
import SpriteStage.Api.Respond
import SpriteStage.Api.Route
import SpriteStage.Api.Run
import SpriteStage.Api.Server
import SpriteStage.Api.Session
import SpriteStage.Benchmark.Percentile
import SpriteStage.Benchmark.Run
import SpriteStage.Benchmark.Script
import SpriteStage.Benchmark.Summary
import SpriteStage.Benchmark.Template
import SpriteStage.Block.Basic
import SpriteStage.Block.Cost
import SpriteStage.Block.Error
import SpriteStage.Block.Form
import SpriteStage.Block.Kind
import SpriteStage.Block.Parser
import SpriteStage.Clock.Basic
import SpriteStage.Clock.Calls
import SpriteStage.Clock.Form
import SpriteStage.Clock.Interleaving
import SpriteStage.Clock.Run
import SpriteStage.Clock.Setup
import SpriteStage.Clock.Worker
import SpriteStage.Collision.Box
import SpriteStage.Collision.Swap
import SpriteStage.Double.Exact
import SpriteStage.Double.Reader
import SpriteStage.Double.Rounding
import SpriteStage.Double.Shortest
import SpriteStage.Heading
import SpriteStage.Ids
import SpriteStage.Interpreter.Action
import SpriteStage.Interpreter.Basic
import SpriteStage.Interpreter.Record
import SpriteStage.Interpreter.Walk
import SpriteStage.Json.Encoding
import SpriteStage.Json.Flaw
import SpriteStage.Json.Reader
import SpriteStage.Json.Symbol
import SpriteStage.Json.Writer
import SpriteStage.Keyed
import SpriteStage.Lock
import SpriteStage.Main
import SpriteStage.Pose.Basic
import SpriteStage.Pose.Record
import SpriteStage.Proofs.Api.Addresses
import SpriteStage.Proofs.Api.Addressing
import SpriteStage.Proofs.Api.Bodies
import SpriteStage.Proofs.Api.Endpoints
import SpriteStage.Proofs.Api.Locking
import SpriteStage.Proofs.Api.Refusals
import SpriteStage.Proofs.Api.Reports
import SpriteStage.Proofs.Benchmark.Cast
import SpriteStage.Proofs.Benchmark.Exchanges
import SpriteStage.Proofs.Benchmark.Laps
import SpriteStage.Proofs.Benchmark.Latencies
import SpriteStage.Proofs.Benchmark.Percentiles
import SpriteStage.Proofs.Benchmark.Rehearsal
import SpriteStage.Proofs.Benchmark.Sums
import SpriteStage.Proofs.Block.Canonical
import SpriteStage.Proofs.Block.Grammar
import SpriteStage.Proofs.Block.Parsing
import SpriteStage.Proofs.Block.Sendable
import SpriteStage.Proofs.Block.Unchecked
import SpriteStage.Proofs.Clock.Agreement
import SpriteStage.Proofs.Clock.Answers
import SpriteStage.Proofs.Clock.Calls
import SpriteStage.Proofs.Clock.Delivery
import SpriteStage.Proofs.Clock.Pause
import SpriteStage.Proofs.Clock.Sections
import SpriteStage.Proofs.Clock.Stages
import SpriteStage.Proofs.Clock.Workers
import SpriteStage.Proofs.Collision.Exchange
import SpriteStage.Proofs.Collision.Halves
import SpriteStage.Proofs.Double.Ceiling
import SpriteStage.Proofs.Double.Grid
import SpriteStage.Proofs.Double.Packing
import SpriteStage.Proofs.Double.Product
import SpriteStage.Proofs.Double.Range
import SpriteStage.Proofs.Double.Remainder
import SpriteStage.Proofs.Double.Rounding
import SpriteStage.Proofs.Double.Steps
import SpriteStage.Proofs.Double.Units
import SpriteStage.Proofs.Double.Whole
import SpriteStage.Proofs.Heading
import SpriteStage.Proofs.Interpreter.Counting
import SpriteStage.Proofs.Interpreter.Evaluations
import SpriteStage.Proofs.Interpreter.Interference
import SpriteStage.Proofs.Interpreter.Records
import SpriteStage.Proofs.Interpreter.Unrolling
import SpriteStage.Proofs.Interpreter.Walk
import SpriteStage.Proofs.Json.Sendable
import SpriteStage.Proofs.Lock
import SpriteStage.Proofs.Sorting.Merge
import SpriteStage.Proofs.Sorting.Runs
import SpriteStage.Proofs.Sorting.Search
import SpriteStage.Proofs.Stage.Accounts
import SpriteStage.Proofs.Stage.Batches
import SpriteStage.Proofs.Stage.Bubbles
import SpriteStage.Proofs.Stage.Budget
import SpriteStage.Proofs.Stage.Edits
import SpriteStage.Proofs.Stage.Finite
import SpriteStage.Proofs.Stage.Headings
import SpriteStage.Proofs.Stage.Neighbours
import SpriteStage.Proofs.Stage.Newcomers
import SpriteStage.Proofs.Stage.Operations
import SpriteStage.Proofs.Stage.Overlaps
import SpriteStage.Proofs.Stage.Poses
import SpriteStage.Proofs.Stage.Provenance
import SpriteStage.Proofs.Stage.Roster
import SpriteStage.Proofs.Stage.Scripts
import SpriteStage.Proofs.Stage.Sendable
import SpriteStage.Proofs.Text.Names
import SpriteStage.Proofs.Text.Utf8
import SpriteStage.Proofs.Turns
import SpriteStage.Settings
import SpriteStage.Sorting.Merge
import SpriteStage.Sorting.Runs
import SpriteStage.Sorting.Search
import SpriteStage.Stage.Actor
import SpriteStage.Stage.Basic
import SpriteStage.Stage.Form
import SpriteStage.Stage.History
import SpriteStage.Text.Blank
import SpriteStage.Text.Digit
import SpriteStage.Text.Letter
import SpriteStage.Text.Mark
import SpriteStage.Text.Pieces
import SpriteStage.Text.Printable
import SpriteStage.Text.Quoted
import SpriteStage.Text.Utf8
import SpriteStage.Value
import SpriteStage.Value.Order
import SpriteStage.Value.Reading
import SpriteStage.Value.Text
