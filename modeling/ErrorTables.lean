import ErrorTables.Main
import ErrorTables.Proofs.Definition.Comments
import ErrorTables.Proofs.Definition.Concatenation
import ErrorTables.Proofs.Definition.EarliestError
import ErrorTables.Proofs.Definition.RoundTrip
import ErrorTables.Proofs.Header.Agreement
import ErrorTables.Proofs.Header.BannerComments
import ErrorTables.Proofs.Header.FileNames
import ErrorTables.Proofs.Header.Identifiers
import ErrorTables.Proofs.Header.LiteralSafety
import ErrorTables.Proofs.Header.WrittenLiterals
import ErrorTables.Proofs.Run.FailedInput
import ErrorTables.Proofs.Run.HeaderPaths
import ErrorTables.Proofs.Run.ListedSymbols
import ErrorTables.Proofs.Run.SurvivingFiles
import ErrorTables.Proofs.Run.WriteLog
import ErrorTables.Proofs.Definition.BaseLiterals
import ErrorTables.Proofs.Definition.LineKinds
import ErrorTables.Proofs.CommandLine.Misuse
import ErrorTables.Proofs.Json.SpelledValues
import ErrorTables.Proofs.Json.Encoding
import ErrorTables.Proofs.Report.ReadBack
import ErrorTables.Proofs.Listing.Refusals
import ErrorTables.Proofs.Definition.BrokenOpenings
import ErrorTables.Proofs.Report.SucceededRuns
import ErrorTables.Proofs.Settings.Loading
import ErrorTables.Proofs.Definition.LineEnds
