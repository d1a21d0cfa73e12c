import SheetCommand.Action.Validation
import SheetCommand.Main
import SheetCommand.Proofs.Instruction.Assignment
import SheetCommand.Proofs.Instruction.Canonical
import SheetCommand.Proofs.Instruction.Renaming
import SheetCommand.Proofs.Server.Session
import SheetCommand.Proofs.Transform.Serial
import SheetCommand.Proofs.Workbook.Arranging
import SheetCommand.Proofs.Workbook.Atomicity
import SheetCommand.Proofs.Workbook.Protection
import SheetCommand.Proofs.Workbook.Silence
import SheetCommand.Proofs.Instruction.Kept
import SheetCommand.Proofs.Text.NameChars
import SheetCommand.Proofs.Instruction.Names
import SheetCommand.Proofs.Workbook.FreshTitle
import SheetCommand.Proofs.Workbook.Titles
import SheetCommand.Proofs.Sheet.Reasons
import SheetCommand.Proofs.Workbook.Safety
import SheetCommand.Proofs.CommandLine.Interpretation
import SheetCommand.Proofs.CommandLine.Preview
import SheetCommand.Proofs.Number.Nearest
import SheetCommand.Proofs.Number.Shortest
import SheetCommand.Proofs.Document.Numeral
import SheetCommand.Proofs.Document.RoundTrip
import SheetCommand.Proofs.Action.RoundTrip
import SheetCommand.Proofs.Instruction.Range
import SheetCommand.Proofs.Server.Requests
import SheetCommand.Proofs.CommandLine.Validation
import SheetCommand.Proofs.Sheet.Filtering
import SheetCommand.Proofs.Sheet.Sorting
import SheetCommand.Proofs.Sheet.Summing
import SheetCommand.Proofs.Settings.Loading
import SheetCommand.Proofs.CommandLine.Reply
import SheetCommand.Proofs.Transform.Versions
import SheetCommand.Proofs.Sheet.Resolution
import SheetCommand.Proofs.Sheet.Deleting
import SheetCommand.Proofs.Sheet.Assigning
import SheetCommand.Proofs.Number.Closest
import SheetCommand.Proofs.Sheet.IntegerText
import SheetCommand.Proofs.Instruction.Selection
import SheetCommand.Proofs.Workbook.ExactFilter
import SheetCommand.Proofs.Instruction.Separators
import SheetCommand.Proofs.Instruction.ClosingVerb
import SheetCommand.Proofs.Instruction.WholeNames
import SheetCommand.Proofs.Instruction.Located
import SheetCommand.Proofs.Text.Aligned
import SheetCommand.Proofs.Instruction.Verbatim
import SheetCommand.Proofs.Text.Stable
import SheetCommand.Proofs.Instruction.HeaderNames
import SheetCommand.Proofs.Workbook.OwnTitle
import SheetCommand.Proofs.Action.Acceptance
import SheetCommand.Proofs.Server.Uploads
import SheetCommand.Proofs.Workbook.RowEdits
import SheetCommand.Proofs.Sheet.RestatedNumbers
import SheetCommand.Proofs.Sheet.Listing
import SheetCommand.Proofs.Files.Replacing
import SheetCommand.Proofs.Files.Exclusion
import SheetCommand.Proofs.Transform.Lifecycle
