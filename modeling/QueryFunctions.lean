import QueryFunctions.Main
import QueryFunctions.Proofs.Pattern.Route
import QueryFunctions.Proofs.Pattern.Reading
import QueryFunctions.Proofs.Pattern.Occurrence
import QueryFunctions.Proofs.Library.Agreement
import QueryFunctions.Proofs.Library.Guard
import QueryFunctions.Proofs.Pattern.Flags
import QueryFunctions.Proofs.Pattern.LiteralMode
import QueryFunctions.Proofs.Library.LiteralCalls
import QueryFunctions.Proofs.Pattern.Progress
import QueryFunctions.Proofs.Library.FlagCalls
import QueryFunctions.Proofs.Pattern.TemplateGrammar
import QueryFunctions.Proofs.Pattern.TemplateMeaning
import QueryFunctions.Proofs.Environment.Register
import QueryFunctions.Proofs.Library.Failures
import QueryFunctions.Proofs.Environment.CheckCall
import QueryFunctions.Proofs.Environment.History
import QueryFunctions.Proofs.Environment.Attribution
import QueryFunctions.Proofs.Library.Rejection
import QueryFunctions.Proofs.Library.Endings
import QueryFunctions.Proofs.Library.Words
import QueryFunctions.Proofs.Library.Joining
import QueryFunctions.Proofs.Pattern.TemplateWriting
import QueryFunctions.Proofs.Pattern.LookFree
import QueryFunctions.Proofs.Library.FirstOccurrence
import QueryFunctions.Proofs.Number.Exact
import QueryFunctions.Proofs.Number.Integers
import QueryFunctions.Proofs.Json.Canonical
import QueryFunctions.Proofs.Json.Finite
import QueryFunctions.Proofs.Library.SafeIntegers
import QueryFunctions.Proofs.Number.Order
import QueryFunctions.Proofs.Library.NormalSpace
import QueryFunctions.Proofs.Library.Translation
import QueryFunctions.Proofs.Json.Comparison
import QueryFunctions.Proofs.Library.CallLog
import QueryFunctions.Proofs.Library.Concatenation
import QueryFunctions.Proofs.Pattern.GroupNumbers
import QueryFunctions.Proofs.Json.Numerals
import QueryFunctions.Proofs.Json.Scanning
import QueryFunctions.Proofs.CallList.Decoding
import QueryFunctions.Proofs.CallList.Reports
