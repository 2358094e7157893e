import FlowCheck.Decimal.Shortest
import FlowCheck.Editor
import FlowCheck.Main
import FlowCheck.Proofs.Mapping
import FlowCheck.Proofs.Placement
import FlowCheck.Proofs.Document.Lines
import FlowCheck.Proofs.Document.Position
import FlowCheck.Response.Writer
import FlowCheck.Ui.Recording
import FlowCheck.Proofs.Run.Transition
import FlowCheck.Proofs.Run.Invariant
import FlowCheck.Proofs.Run.Progress
import FlowCheck.Proofs.Run.Settling
import FlowCheck.Proofs.Run.Deadline
import FlowCheck.Proofs.Run.Delivery
import FlowCheck.Proofs.Run.Timeout
import FlowCheck.Proofs.Json.Record
import FlowCheck.Proofs.Response.Verdict
import FlowCheck.Proofs.Json.Checked
import FlowCheck.Proofs.Response.Agreement
import FlowCheck.Proofs.Command.CleanVerdict
import FlowCheck.Proofs.Coordinates
import FlowCheck.Proofs.Command.Outcomes
import FlowCheck.Proofs.Json.Spelling
import FlowCheck.Proofs.Json.Written
import FlowCheck.Proofs.Response.RoundTrip
import FlowCheck.Proofs.Report.InPlace
import FlowCheck.Proofs.Yaml.Overlay
import FlowCheck.Proofs.Yaml.OverlayAgain
import FlowCheck.Proofs.Yaml.Meaning
import FlowCheck.Proofs.Settings.Layering
import FlowCheck.Proofs.Settings.Origin
import FlowCheck.Proofs.Settings.Blame
import FlowCheck.Proofs.Yaml.Place
import FlowCheck.Proofs.Yaml.Plain
import FlowCheck.Proofs.Yaml.Quoted
import FlowCheck.Proofs.Yaml.Block
import FlowCheck.Proofs.Yaml.Reading
import FlowCheck.Proofs.Settings.Tokens
import FlowCheck.Proofs.Yaml.Scalar
import FlowCheck.Proofs.Settings.RoundTrip
import FlowCheck.Proofs.Document.PositionOrder
import FlowCheck.Proofs.Yaml.Merging
import FlowCheck.Proofs.Document.LineTexts
import FlowCheck.Proofs.Document.Within
import FlowCheck.Proofs.Mapping.Relocation
import FlowCheck.Proofs.Mapping.Account
import FlowCheck.Proofs.Json.Edit
import FlowCheck.Proofs.Report.Underline
import FlowCheck.Proofs.Response.Presentation
import FlowCheck.Proofs.Report.ReadBack
import FlowCheck.Proofs.Report.Colours
import FlowCheck.Proofs.Command.Verbosity
import FlowCheck.Proofs.Command.CheckerName
import FlowCheck.Proofs.Editor
