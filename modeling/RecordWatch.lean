import RecordWatch.Main
import RecordWatch.Sandbox
import RecordWatch.Proofs.Delta.Entries
import RecordWatch.Proofs.Trigger.Relevance
import RecordWatch.Proofs.Rule.ActiveProperties
import RecordWatch.Proofs.Json.Numeral
import RecordWatch.Proofs.Json.Lexing
import RecordWatch.Proofs.Json.Parsing
import RecordWatch.Proofs.Json.Drafts
import RecordWatch.Proofs.Record.Text
import RecordWatch.Proofs.Evaluation.Simulation
import RecordWatch.Proofs.Session.Simulation
import RecordWatch.Proofs.Session.Poll
import RecordWatch.Proofs.Session.World
import RecordWatch.Proofs.Snapshot.Paths
import RecordWatch.Proofs.Snapshot.Overlay
import RecordWatch.Proofs.Snapshot.Unchanged
import RecordWatch.Proofs.Snapshot.Store
import RecordWatch.Proofs.Session.Gathering
import RecordWatch.Proofs.Session.History
import RecordWatch.Proofs.Session.Outcome
import RecordWatch.Proofs.Session.Novelty
import RecordWatch.Proofs.Delta.Ascending
import RecordWatch.Proofs.Delta.Exactness
import RecordWatch.Proofs.Session.Machine
import RecordWatch.Proofs.Session.Refinement
import RecordWatch.Proofs.Session.Completeness
import RecordWatch.Proofs.Session.Rules
import RecordWatch.Proofs.Session.NothingLost
import RecordWatch.Proofs.Evaluation.Damage
import RecordWatch.Proofs.Snapshot.Reported
import RecordWatch.Proofs.Snapshot.Laws
import RecordWatch.Proofs.Snapshot.Apart
import RecordWatch.Proofs.Rule.Requests
import RecordWatch.Proofs.Written
import RecordWatch.Proofs.Session.Recovery
import RecordWatch.Proofs.Evaluation.Mismatch
import RecordWatch.Proofs.Trigger.Ambiguity
import RecordWatch.Proofs.Session.Indifference
import RecordWatch.Proofs.Session.Isolation
import RecordWatch.Proofs.Session.Versions
import RecordWatch.Proofs.Session.Failure
import RecordWatch.Proofs.Session.Retention
import RecordWatch.Proofs.Session.Mortal
import RecordWatch.Proofs.Session.Crash
import RecordWatch.Proofs.Session.Truncation
import RecordWatch.Proofs.Session.Presentation
import RecordWatch.Proofs.Session.Selection
import RecordWatch.Proofs.Session.Lookback
import RecordWatch.Proofs.Evaluation.Quantifiers
import RecordWatch.Proofs.Trigger.Grammar
import RecordWatch.Proofs.Client.Lists
import RecordWatch.Proofs.Client.Retry
import RecordWatch.Proofs.Property.Completion
import RecordWatch.Proofs.Comparison.Opposites
import RecordWatch.Proofs.Comparison.Windows
import RecordWatch.Proofs.Comparison.Weeks
import RecordWatch.Proofs.Rule.Addition
import RecordWatch.Proofs.Property.Encoding
