import BoundedWait.Classifier
import BoundedWait.Decimal.Binary
import BoundedWait.Decimal.Layout
import BoundedWait.Decimal.Numeral
import BoundedWait.Decimal.Shortest
import BoundedWait.Described
import BoundedWait.Duration
import BoundedWait.Duration.Seconds
import BoundedWait.Duration.Sleep
import BoundedWait.Duration.Text
import BoundedWait.Error
import BoundedWait.Event
import BoundedWait.Expectation
import BoundedWait.Fault
import BoundedWait.Fault.Check
import BoundedWait.Fault.Kind
import BoundedWait.Fault.KindSet
import BoundedWait.Fault.SystemError
import BoundedWait.Journal
import BoundedWait.Json.Number
import BoundedWait.Json.Reader
import BoundedWait.Json.Value
import BoundedWait.Json.Writer
import BoundedWait.Observer
import BoundedWait.Outcome
import BoundedWait.Plan
import BoundedWait.Plan.Delay
import BoundedWait.Plan.Draft
import BoundedWait.Plan.Preset
import BoundedWait.Profiles
import BoundedWait.Profiles.Environment
import BoundedWait.Profiles.FileState
import BoundedWait.Profiles.Loading
import BoundedWait.Profiles.Location
import BoundedWait.Proofs.Duration.Range
import BoundedWait.Proofs.LastGiven
import BoundedWait.Proofs.Plan.Building
import BoundedWait.Proofs.Plan.Interval
import BoundedWait.Proofs.Plan.Strict
import BoundedWait.Proofs.Plan.Validity
import BoundedWait.Proofs.Settings.Reading
import BoundedWait.Proofs.Settings.RoundTrip
import BoundedWait.Proofs.Settings.Rounding
import BoundedWait.Proofs.Signal.Fired
import BoundedWait.Proofs.Signal.Hops
import BoundedWait.Proofs.Tree.Fields
import BoundedWait.Proofs.Units.Counting
import BoundedWait.Proofs.Units.Rounding
import BoundedWait.Proofs.Wait.Attempts
import BoundedWait.Proofs.Wait.Budget
import BoundedWait.Proofs.Wait.Cadence
import BoundedWait.Proofs.Wait.Cancellation
import BoundedWait.Proofs.Wait.Deadline
import BoundedWait.Proofs.Wait.Decision
import BoundedWait.Proofs.Wait.Exact
import BoundedWait.Proofs.Wait.Numbered
import BoundedWait.Proofs.Wait.Pace
import BoundedWait.Proofs.Wait.Prolonged
import BoundedWait.Proofs.Wait.Refinement
import BoundedWait.Proofs.Wait.Report
import BoundedWait.Proofs.Wait.Schedule
import BoundedWait.Proofs.Wait.Shortened
import BoundedWait.Proofs.Wait.Threads
import BoundedWait.Proofs.Wait.Unfolding
import BoundedWait.Rehearsal.Clock
import BoundedWait.Rehearsal.Concurrent
import BoundedWait.Rehearsal.Script
import BoundedWait.Rehearsal.Sequential
import BoundedWait.Settings
import BoundedWait.Settings.Written
import BoundedWait.Signal
import BoundedWait.Signal.Shared
import BoundedWait.SortedMap
import BoundedWait.Tally
import BoundedWait.Text.Blank
import BoundedWait.Text.Extending
import BoundedWait.Text.Hex
import BoundedWait.Text.Printable
import BoundedWait.Text.Quoted
import BoundedWait.Text.Ranges
import BoundedWait.Text.Search
import BoundedWait.Text.Utf8
import BoundedWait.TimeUnit
import BoundedWait.Tree
import BoundedWait.Wait.Loop
import BoundedWait.Wait.Run
import BoundedWait.Wait.Threaded
import BoundedWait.Yaml.Block
import BoundedWait.Yaml.Cursor
import BoundedWait.Yaml.Effort
import BoundedWait.Yaml.Folding
import BoundedWait.Yaml.Node
import BoundedWait.Yaml.Plain
import BoundedWait.Yaml.Quoted
import BoundedWait.Yaml.Scalar
import BoundedWait.Yaml.Tag
import BoundedWait.Yaml.Token
import BoundedWait.Yaml.Token.Lexer
import BoundedWait.Yaml.Value
import BoundedWait.Yaml.Writer
import BoundedWait.Proofs.Wait.Flattened
import BoundedWait.Proofs.Wait.Leniency
import BoundedWait.Proofs.Profiles.Variables
import BoundedWait.Proofs.SortedMap.Lookup
import BoundedWait.Proofs.Profiles.Layering
import BoundedWait.Proofs.Profiles.ByName
import BoundedWait.Proofs.Profiles.Reading
import BoundedWait.Proofs.Profiles.Stack
import BoundedWait.Proofs.Wait.Counting
import BoundedWait.Proofs.Signal.Sleeping
import BoundedWait.Proofs.Signal.Halves
import BoundedWait.Proofs.Wait.Reported
import BoundedWait.Proofs.Expectation.Agreement
import BoundedWait.Proofs.Units.Canonical
import BoundedWait.Proofs.Fault.Membership
