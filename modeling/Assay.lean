import Assay.Main
import Assay.Proofs.Suite.Run
import Assay.Proofs.Suite.Ledger
import Assay.Proofs.Invocation.Sources
import Assay.Proofs.Verdict.Numbers
import Assay.Proofs.Document.Text
import Assay.Proofs.Report.Figures
import Assay.Proofs.Command.Stages
import Assay.Proofs.Command.Reporting
import Assay.Proofs.Binary64.Rounding
import Assay.Proofs.Binary64.Shortest
import Assay.Proofs.Json.Numeral
import Assay.Proofs.Binary64.RoundTrip
import Assay.Proofs.Text.Printed
import Assay.Proofs.Verdict.Echo
import Assay.Proofs.Binary64.Range
import Assay.Proofs.Json.Writing
import Assay.Proofs.Report.Structured
import Assay.Proofs.Report.Expected
import Assay.Proofs.Verdict.Integers
import Assay.Proofs.CommandLine.Language
import Assay.Proofs.Settings.RoundTrip
import Assay.Proofs.Report.Rows
import Assay.Proofs.Verdict.Tolerance
import Assay.Proofs.Invocation.Finished
import Assay.Proofs.Suite.Plan
import Assay.Proofs.Host.Interpreter
import Assay.Proofs.Command.Setup
import Assay.Proofs.Suite.Window
import Assay.Proofs.Invocation.Arguments
import Assay.Proofs.Command.Anchored
import Assay.Proofs.Command.Precedence
import Assay.Proofs.Command.Speech
import Assay.Proofs.CommandLine.Request
import Assay.Proofs.Document.Values
