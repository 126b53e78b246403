import TextRepair.Text.Quoted
import TextRepair.Apply
import TextRepair.Json.Printer
import TextRepair.Json.Reader
import TextRepair.Timestamp
import TextRepair.Session.Config
import TextRepair.Session.Record
import TextRepair.Session.Rehearsal
import TextRepair.CompilerOutput
import TextRepair.Digest
import TextRepair.FileTree
import TextRepair.Text.Utf8
import TextRepair.Stored.Session
import TextRepair.Stored.Settings
import TextRepair.Toml.Reader
import TextRepair.Check
import TextRepair.Stored.CommandOutput
import TextRepair.Recording
import TextRepair.CommandLine.Run
import TextRepair.Main
import TextRepair.Stored.Event
import TextRepair.Proofs.Alignment
import TextRepair.Proofs.Splice
import TextRepair.Proofs.Locate.Choice
import TextRepair.Proofs.Locate.Exact
import TextRepair.Proofs.Apply.Sites
import TextRepair.Proofs.Distance
import TextRepair.Proofs.Locate.Similarity
import TextRepair.Proofs.Locate.Sieve
import TextRepair.Proofs.Locate.Exhaustive
import TextRepair.Proofs.Session.Calls
import TextRepair.Proofs.Ledger
import TextRepair.Proofs.Session.Course
import TextRepair.Proofs.Session.Trials
import TextRepair.Proofs.Session.Cycles
import TextRepair.Proofs.Session.Safety
import TextRepair.Proofs.Session.Walks
import TextRepair.Proofs.Document.Reading
import TextRepair.Proofs.Apply.Atomic
import TextRepair.Proofs.Splice.Lines
import TextRepair.Edit.Script
import TextRepair.Proofs.Apply.Reread
import TextRepair.Proofs.Text.Lines
import TextRepair.Proofs.Edit.Scripts
import TextRepair.Proofs.Edit.Sections
import TextRepair.Proofs.Edit.Shown
import TextRepair.Proofs.Edit.BlankEnd
import TextRepair.Proofs.Signature.Verdict
import TextRepair.Proofs.Locate.Tolerance
import TextRepair.Proofs.Splice.Endings
import TextRepair.Proofs.Apply.Terminators
import TextRepair.Proofs.Apply.Slots
import TextRepair.Proofs.Apply.Order
import TextRepair.Proofs.Locate.Hints
import TextRepair.Proofs.Apply.Batches
import TextRepair.Proofs.Session.Agreement
import TextRepair.Proofs.Session.Evidence
import TextRepair.Proofs.Ledger.States
import TextRepair.Proofs.Ledger.Selection
import TextRepair.Proofs.Ledger.Acceptance
import TextRepair.Proofs.Session.Termination
import TextRepair.Proofs.Session.Bounds
import TextRepair.Proofs.Session.Endings
import TextRepair.Proofs.Session.Stops
import TextRepair.Proofs.Session.Recorded
import TextRepair.Proofs.Splice.Frame
import TextRepair.Proofs.Apply.Verbatim
import TextRepair.Proofs.Splice.Context
import TextRepair.Proofs.Splice.Indent
import TextRepair.Proofs.Locate.Certain
import TextRepair.Proofs.Score.Finite
import TextRepair.Proofs.Checked
import TextRepair.Proofs.Locate.Checked
import TextRepair.Proofs.Locate.Sound
import TextRepair.Proofs.Apply.Snippets
import TextRepair.Proofs.Score.Values
import TextRepair.Proofs.Locate.Cascade
import TextRepair.Proofs.Locate.Block
import TextRepair.Proofs.Text.Regex
import TextRepair.Proofs.Distinct
import TextRepair.Proofs.CompilerOutput.Diagnostics
import TextRepair.Proofs.CompilerOutput.Scan
import TextRepair.Proofs.CompilerOutput.Command
import TextRepair.Proofs.CompilerOutput.Fingerprints
import TextRepair.Proofs.Session.Scripted
import TextRepair.Proofs.Session.Diagnosis
import TextRepair.Proofs.FileTree
import TextRepair.Proofs.Recording
import TextRepair.Proofs.CommandLine.Session
import TextRepair.Proofs.Splice.Majority
import TextRepair.Proofs.FileTree.Directory
import TextRepair.Proofs.Json.Written
import TextRepair.Proofs.Recording.Order
import TextRepair.Proofs.Recording.Files
import TextRepair.Proofs.Recording.Manifest
