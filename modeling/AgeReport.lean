import AgeReport.Description
import AgeReport.Json.Decode
import AgeReport.Main
import AgeReport.Output.Sink
import AgeReport.Span.Cursor
import AgeReport.Proofs.Output.Writes
import AgeReport.Proofs.Json.Written
import AgeReport.Proofs.Output.Sink
import AgeReport.Proofs.Report.Texts
import AgeReport.Proofs.Report.Delivery
import AgeReport.Proofs.Run.Order
import AgeReport.Proofs.Json.Scalars
import AgeReport.Proofs.Json.ReadBack
import AgeReport.Proofs.Json.Skipped
import AgeReport.Proofs.Report.RoundTrip
import AgeReport.Proofs.Text.Utf8
import AgeReport.Proofs.Number.Numerals
import AgeReport.Proofs.CommandLine.Accepted
import AgeReport.Proofs.Output.Buffered
import AgeReport.Proofs.Settings.Resolution
import AgeReport.Proofs.EnvFile.Reading
import AgeReport.Proofs.Run.Pipeline
import AgeReport.Proofs.Run.Layers
import AgeReport.Proofs.Json.CarryOver
import AgeReport.Proofs.Json.CutShort
import AgeReport.Proofs.Report.Layout
import AgeReport.Proofs.Report.SharedSink
import AgeReport.Proofs.Report.Unflushed
import AgeReport.Proofs.FileSystem.Exports
import AgeReport.Proofs.Output.FullDevice
import AgeReport.Proofs.Run.Refused
import AgeReport.Proofs.Number.Faults
import AgeReport.Proofs.Settings.YearTexts
import AgeReport.Proofs.Settings.OptionOrVariable
import AgeReport.Proofs.Settings.Asked
import AgeReport.Proofs.Span.AgeSum
import AgeReport.Proofs.Report.Announced
import AgeReport.Proofs.Span.Walk
import AgeReport.Proofs.Report.LineWords
import AgeReport.Proofs.Report.LinesRead
import AgeReport.Proofs.Report.Squeezed
import AgeReport.Proofs.CommandLine.Updates
import AgeReport.Proofs.Report.SpanRead
