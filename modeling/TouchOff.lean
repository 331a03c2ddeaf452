import TouchOff.Text.Blank
import TouchOff.Text.Case
import TouchOff.Number.Decimal
import TouchOff.Number.Reading
import TouchOff.Number.Whole
import TouchOff.Number.Circle
import TouchOff.Settings.Reader
import TouchOff.Settings.Query
import TouchOff.Settings.Pending
import TouchOff.Command.Reader
import TouchOff.Console
import TouchOff.Motion.Toolhead
import TouchOff.Probe.Session
import TouchOff.Printer
import TouchOff.Program
import TouchOff.Main
import TouchOff.Proofs.Number.Value
import TouchOff.Proofs.Number.Arithmetic
import TouchOff.Proofs.Probe.History
import TouchOff.Proofs.Probe.Course
import TouchOff.Proofs.Probe.Bisection
import TouchOff.Proofs.Text.Pieces
import TouchOff.Proofs.Latest
import TouchOff.Proofs.Console
import TouchOff.Proofs.Probe.Report
import TouchOff.Proofs.Command.Refusals
import TouchOff.Proofs.Printer.Coherence
import TouchOff.Proofs.Printer.Commands
import TouchOff.Proofs.Printer.Setup
import TouchOff.Proofs.Command.Registry
import TouchOff.Proofs.Command.Standing
import TouchOff.Proofs.Probe.Commands
import TouchOff.Proofs.Probe.Ending
import TouchOff.Proofs.Printer.Parts
import TouchOff.Proofs.Printer.Validation
import TouchOff.Proofs.Number.Reading
import TouchOff.Proofs.Settings.Line
import TouchOff.Proofs.Settings.Reader
import TouchOff.Proofs.Settings.Written
import TouchOff.Proofs.Settings.Pending
import TouchOff.Proofs.Settings.Query
import TouchOff.Proofs.Printer.Recalibration
import TouchOff.Proofs.Printer.Reload
import TouchOff.Proofs.Number.Error
import TouchOff.Proofs.Number.Whole
import TouchOff.Proofs.Motion.Reach
import TouchOff.Proofs.Motion.Return
import TouchOff.Proofs.Printer.Return
import TouchOff.Proofs.Motion.Travel
import TouchOff.Proofs.Probe.Freshness
import TouchOff.Proofs.Printer.Failure
import TouchOff.Proofs.Printer.Reachable
import TouchOff.Proofs.Printer.Calibration
import TouchOff.Proofs.Printer.Origin
import TouchOff.Proofs.Printer.Saving
import TouchOff.Proofs.Motion.Deferral
import TouchOff.Proofs.Motion.Homing
import TouchOff.Proofs.Probe.Admission
import TouchOff.Proofs.Probe.SideBySide
import TouchOff.Proofs.Printer.Queries
import TouchOff.Proofs.Probe.Beginning
import TouchOff.Proofs.Probe.Approach
import TouchOff.Proofs.Printer.Effect
import TouchOff.Proofs.Printer.Transcript
import TouchOff.Proofs.Probe.Renumbering
import TouchOff.Proofs.Printer.Availability
import TouchOff.Proofs.Number.Order
import TouchOff.Proofs.Probe.Direction
import TouchOff.Proofs.Offset
import TouchOff.Proofs.Probe.Clearance
import TouchOff.Proofs.Probe.Footprint
import TouchOff.Proofs.Probe.Verdict
import TouchOff.Proofs.Printer.CommandLine
import TouchOff.Proofs.Settings.Grammar
