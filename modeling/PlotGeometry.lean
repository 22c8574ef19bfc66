import PlotGeometry.Decimal.Binary
import PlotGeometry.Decimal.Shortest
import PlotGeometry.Decimal.Fixed
import PlotGeometry.Text.Quoted
import PlotGeometry.Json.Value
import PlotGeometry.Json.Reader
import PlotGeometry.Json.Decode
import PlotGeometry.Numeric.Float
import PlotGeometry.Numeric.Log
import PlotGeometry.Numeric.Int64
import PlotGeometry.Geometry.Area
import PlotGeometry.Paint.Color
import PlotGeometry.Text.Font
import PlotGeometry.Text.Placement
import PlotGeometry.Series
import PlotGeometry.Warning
import PlotGeometry.Axis.Overrides
import PlotGeometry.Axis.Step
import PlotGeometry.Axis.Scale
import PlotGeometry.Error
import PlotGeometry.Time.Calendar
import PlotGeometry.Time.Pattern
import PlotGeometry.Time.Format
import PlotGeometry.Time.TickTable
import PlotGeometry.Decimal.Scaled
import PlotGeometry.Axis.Label
import PlotGeometry.Paint.Palette
import PlotGeometry.Legend.Entries
import PlotGeometry.Legend.Layout
import PlotGeometry.Config.Basic
import PlotGeometry.Document.Basic
import PlotGeometry.Document.Config
import PlotGeometry.Layout.Outcome
import PlotGeometry.Layout.Converge
import PlotGeometry.Document.Outcome
import PlotGeometry.Canvas.Recording
import PlotGeometry.Canvas.Paint
import PlotGeometry.Proofs.Float.Order
import PlotGeometry.Proofs.Float.Canonical
import PlotGeometry.Proofs.Float.Rank
import PlotGeometry.Proofs.Layout.Pass
import PlotGeometry.Proofs.Layout.AxisLoop
import PlotGeometry.Proofs.Float.Round
import PlotGeometry.Proofs.Float.Arith
import PlotGeometry.Proofs.Float.Elementary
import PlotGeometry.Proofs.Layout.Stages
import PlotGeometry.Proofs.Layout.YLabels
import PlotGeometry.Proofs.Layout.VerticalTitles
import PlotGeometry.Proofs.Float.Zero
import PlotGeometry.Proofs.Layout.Writes
import PlotGeometry.Proofs.Layout.Exits
import PlotGeometry.Proofs.Layout.Session
import PlotGeometry.Proofs.Layout.Styles
import PlotGeometry.Proofs.Layout.Overflow
import PlotGeometry.Proofs.Layout.XAxis
import PlotGeometry.Proofs.Float.Product
import PlotGeometry.Proofs.Layout.DualAxis
import PlotGeometry.Proofs.Axis.Extents
import PlotGeometry.Proofs.Float.SameValue
import PlotGeometry.Proofs.Canvas.Painting
import PlotGeometry.Proofs.Layout.TimeRange
import PlotGeometry.Proofs.Legend.Grid
import PlotGeometry.Proofs.Float.Log10
import PlotGeometry.Proofs.Axis.NiceStep
import PlotGeometry.Proofs.Axis.Ticks
import PlotGeometry.Proofs.Axis.Overrides
import PlotGeometry.Proofs.Axis.Labels
import PlotGeometry.Proofs.Axis.Stacked
import PlotGeometry.Proofs.Float.Error
import PlotGeometry.Proofs.Legend.Scale
import PlotGeometry.Proofs.Legend.Swatches
import PlotGeometry.Proofs.Legend.Entries
import PlotGeometry.Proofs.Paint.Assignment
import PlotGeometry.Proofs.Paint.ColorText
import PlotGeometry.Proofs.Time.TickSelection
import PlotGeometry.Proofs.Float.Nearest
import PlotGeometry.Proofs.Axis.Snap
