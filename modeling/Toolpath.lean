import Toolpath.Main
import Toolpath.Proofs.Number.Nearest
import Toolpath.Proofs.Number.Arithmetic
import Toolpath.Proofs.Number.Selection
import Toolpath.Proofs.Geometry.Extent
import Toolpath.Proofs.Geometry.Cover
import Toolpath.Proofs.Geometry.Reversal
import Toolpath.Proofs.Program.Positions
import Toolpath.Proofs.Frame.Extent
import Toolpath.Proofs.Number.Angle
import Toolpath.Proofs.Number.Remainder
import Toolpath.Proofs.Geometry.Sweep
import Toolpath.Proofs.Geometry.Sector
import Toolpath.Proofs.Geometry.Crossing
import Toolpath.Proofs.Number.Thousandths
import Toolpath.Proofs.Number.Digits
import Toolpath.Proofs.Program.Scan
import Toolpath.Proofs.Program.Grammar
import Toolpath.Proofs.Frame.Coordinate
import Toolpath.Proofs.Frame.Reframe
import Toolpath.Proofs.Frame.Concatenation
import Toolpath.Proofs.Frame.Printed
import Toolpath.Proofs.Frame.Overflow
import Toolpath.Proofs.Number.Scaling
import Toolpath.Proofs.Number.Entered
import Toolpath.Proofs.Program.Separation
import Toolpath.Proofs.Frame.Visits
import Toolpath.Proofs.Job.Composed
import Toolpath.Proofs.Job.Stages
import Toolpath.Proofs.Job.Feed
import Toolpath.Proofs.Job.Tracing
import Toolpath.Proofs.Job.Written
import Toolpath.Proofs.Frame.Layout
import Toolpath.Proofs.Number.Shortest
import Toolpath.Proofs.Number.Written
import Toolpath.Proofs.Toml.Text
import Toolpath.Proofs.Toml.Scalar
import Toolpath.Proofs.Toml.Document
import Toolpath.Proofs.Settings.Saved
import Toolpath.Proofs.Settings.Json
import Toolpath.Proofs.Settings.Toml
import Toolpath.Proofs.Settings.Numbers
import Toolpath.Proofs.Settings.Partial
import Toolpath.Proofs.Json.Token
import Toolpath.Proofs.Json.Reader
import Toolpath.Proofs.Json.Number
import Toolpath.Proofs.Json.Outline
import Toolpath.Proofs.Json.Reread
import Toolpath.Proofs.Json.Drift
import Toolpath.Proofs.Number.Whole
import Toolpath.Proofs.Program.Contiguous
import Toolpath.Proofs.Program.Modes
import Toolpath.Proofs.Frame.Restated
import Toolpath.Proofs.Frame.Rounded
import Toolpath.Proofs.Frame.Absolute
import Toolpath.Proofs.Record.Parts
import Toolpath.Proofs.Json.Records
import Toolpath.Proofs.CommandLine.Run
import Toolpath.Proofs.CommandLine.Output
import Toolpath.Proofs.CommandLine.Failure
import Toolpath.Proofs.CommandLine.Forms
import Toolpath.Proofs.Frame.Log
import Toolpath.Proofs.Frame.Coverage
import Toolpath.Proofs.Geometry.Circle
import Toolpath.Proofs.Geometry.Turn
import Toolpath.Proofs.Program.Spacing
import Toolpath.Proofs.Program.Dropped
import Toolpath.Proofs.Number.Middles
import Toolpath.Proofs.Program.Fraction
import Toolpath.Proofs.Job.Annotated
import Toolpath.Proofs.Job.Converted
import Toolpath.Proofs.Job.Limited
import Toolpath.Proofs.Program.Start
