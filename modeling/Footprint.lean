import Footprint.Analysis
import Footprint.Analysis.Compare
import Footprint.CommandLine
import Footprint.CommandLine.Reader
import Footprint.Container
import Footprint.Contributions
import Footprint.Contributions.Column
import Footprint.Contributions.Compare
import Footprint.Decimal.Dyadic
import Footprint.Decimal.Fixed
import Footprint.Decimal.Shortest
import Footprint.Diff
import Footprint.FirstSeen
import Footprint.Json
import Footprint.Json.Fields
import Footprint.Json.Printer
import Footprint.Json.Reader
import Footprint.Json.Token
import Footprint.Log
import Footprint.Main
import Footprint.Name.Generic
import Footprint.Name.Piece
import Footprint.Pass
import Footprint.Pass.Monitor
import Footprint.Program
import Footprint.Program.Directory
import Footprint.Program.FileError
import Footprint.Program.Location
import Footprint.Program.Surroundings
import Footprint.Proofs.Aggregation
import Footprint.Proofs.Analysis
import Footprint.Proofs.Balance
import Footprint.Proofs.Cancellation
import Footprint.Proofs.Comparison
import Footprint.Proofs.Completion
import Footprint.Proofs.Conservation
import Footprint.Proofs.Container
import Footprint.Proofs.Contributions
import Footprint.Proofs.Contributions.Column
import Footprint.Proofs.Contributions.Naming
import Footprint.Proofs.Contributions.Steps
import Footprint.Proofs.Correspondence
import Footprint.Proofs.Decimal.Shortest
import Footprint.Proofs.Except
import Footprint.Proofs.Extent
import Footprint.Proofs.FirstSeen
import Footprint.Proofs.Json.Reader
import Footprint.Proofs.Json.Spelling
import Footprint.Proofs.Json.Token
import Footprint.Proofs.Mirror
import Footprint.Proofs.Name.Instances
import Footprint.Proofs.Name.Numbering
import Footprint.Proofs.Name.Pattern
import Footprint.Proofs.Name.QualifiedName
import Footprint.Proofs.Name.Rereading
import Footprint.Proofs.Name.Signature
import Footprint.Proofs.Name.Skeleton
import Footprint.Proofs.Pairing
import Footprint.Proofs.Pairing.Complete
import Footprint.Proofs.Pairing.Slots
import Footprint.Proofs.Pass
import Footprint.Proofs.Pass.Cancellation
import Footprint.Proofs.Pass.Checkpoint
import Footprint.Proofs.Pass.Course
import Footprint.Proofs.Pass.Interval
import Footprint.Proofs.Pass.Sweep
import Footprint.Proofs.Program.Atomicity
import Footprint.Proofs.Program.Directory
import Footprint.Proofs.Program.FileSystem
import Footprint.Proofs.Program.Run
import Footprint.Proofs.Progress
import Footprint.Proofs.Publication
import Footprint.Proofs.Quantity
import Footprint.Proofs.Report.Changes
import Footprint.Proofs.Report.Division
import Footprint.Proofs.Report.Document
import Footprint.Proofs.Report.Mirror
import Footprint.Proofs.Report.Remaining
import Footprint.Proofs.Report.RoundTrip
import Footprint.Proofs.Report.Single
import Footprint.Proofs.Report.Tally
import Footprint.Proofs.Report.Text
import Footprint.Proofs.Report.Totals
import Footprint.Proofs.Report.Unattributed
import Footprint.Proofs.Report.WasteLimit
import Footprint.Proofs.Roster
import Footprint.Proofs.Snapshot.Check
import Footprint.Proofs.Snapshot.Places
import Footprint.Proofs.Snapshot.Range
import Footprint.Proofs.Snapshot.Sound
import Footprint.Proofs.Snapshot.Spelling
import Footprint.Proofs.Text.ByteOrder
import Footprint.Proofs.VirtualSizes
import Footprint.Proofs.Waste.Candidates
import Footprint.Proofs.Waste.CodeRanges
import Footprint.Proofs.Waste.ComTypes
import Footprint.Proofs.Waste.Comparisons
import Footprint.Proofs.Waste.Copies
import Footprint.Proofs.Waste.DuplicateClasses
import Footprint.Proofs.Waste.DuplicateData
import Footprint.Proofs.Waste.Foldability
import Footprint.Proofs.Waste.Hierarchy
import Footprint.Proofs.Waste.Instantiations
import Footprint.Proofs.Waste.Occurrences
import Footprint.Proofs.Waste.Reordering
import Footprint.Proofs.Waste.Repricing
import Footprint.Proofs.Waste.Search
import Footprint.Proofs.Waste.SlotChanges
import Footprint.Proofs.Waste.Slots
import Footprint.Proofs.Waste.Templates
import Footprint.Proofs.Waste.TypeOrder
import Footprint.Proofs.Waste.WastefulVirtual
import Footprint.Quantity
import Footprint.Report
import Footprint.Report.Consistency
import Footprint.Report.Document
import Footprint.Report.Summary
import Footprint.Report.Table
import Footprint.Report.Totals
import Footprint.Roster
import Footprint.Snapshot.Check
import Footprint.Snapshot.Encode
import Footprint.Snapshot.Error
import Footprint.Snapshot.Load
import Footprint.Snapshot.Record
import Footprint.Text.Character
import Footprint.Text.Controls
import Footprint.Text.Mark
import Footprint.Text.Quoted
import Footprint.Text.Unassigned
import Footprint.Text.Width
import Footprint.Text.Width.Ligature
import Footprint.Text.Width.Pictograph
import Footprint.Text.Width.Single
import Footprint.Waste
import Footprint.Waste.DuplicateData
import Footprint.Waste.Foldability
import Footprint.Waste.Hierarchy
import Footprint.Waste.WastefulVirtual
