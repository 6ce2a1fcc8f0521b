import ChartLayer.Annotation
import ChartLayer.Bar.Basic
import ChartLayer.Bar.Series
import ChartLayer.Bar.Volatility
import ChartLayer.Coalesced
import ChartLayer.Drawing.Basic
import ChartLayer.Drawing.Registry
import ChartLayer.Fault
import ChartLayer.Feed.Annotations
import ChartLayer.Feed.Bars
import ChartLayer.Feed.Field
import ChartLayer.Feed.Zones
import ChartLayer.Issue
import ChartLayer.IssueLog
import ChartLayer.Json.Basic
import ChartLayer.Json.Reader
import ChartLayer.Json.Writer
import ChartLayer.Label
import ChartLayer.Layer.Basic
import ChartLayer.Layer.Command
import ChartLayer.Layer.Content
import ChartLayer.Layer.Frame
import ChartLayer.Layer.Gestures
import ChartLayer.Layer.InnerState
import ChartLayer.Layer.Offscreen
import ChartLayer.Main
import ChartLayer.Number.Binary64
import ChartLayer.Number.Notation
import ChartLayer.Number.Quantity
import ChartLayer.Number.Reading
import ChartLayer.Number.Shortest
import ChartLayer.Price.Map
import ChartLayer.Price.Range
import ChartLayer.Price.Scale
import ChartLayer.Proofs.Bar.History
import ChartLayer.Proofs.Bar.Preview
import ChartLayer.Proofs.Bar.Series
import ChartLayer.Proofs.Bar.Signature
import ChartLayer.Proofs.Coalesced
import ChartLayer.Proofs.Drawing.Backdrop
import ChartLayer.Proofs.Drawing.Balance
import ChartLayer.Proofs.Drawing.Convergence
import ChartLayer.Proofs.Drawing.EmptyReport
import ChartLayer.Proofs.Drawing.Intact
import ChartLayer.Proofs.Drawing.MinimalDiff
import ChartLayer.Proofs.Drawing.Mirror
import ChartLayer.Proofs.Drawing.Ownership
import ChartLayer.Proofs.Drawing.Turns
import ChartLayer.Proofs.Feed.Accounting
import ChartLayer.Proofs.Feed.Identity
import ChartLayer.Proofs.Feed.ReadBack
import ChartLayer.Proofs.Feed.StrictFields
import ChartLayer.Proofs.IssueLog
import ChartLayer.Proofs.Label.AnyOrder
import ChartLayer.Proofs.Label.Identities
import ChartLayer.Proofs.Label.Layout
import ChartLayer.Proofs.Label.Pane
import ChartLayer.Proofs.Label.Places
import ChartLayer.Proofs.Label.Precedence
import ChartLayer.Proofs.Label.Turns
import ChartLayer.Proofs.Layer.Chart
import ChartLayer.Proofs.Layer.Content
import ChartLayer.Proofs.Layer.Deliveries
import ChartLayer.Proofs.Layer.Disposal
import ChartLayer.Proofs.Layer.Drawn
import ChartLayer.Proofs.Layer.FiniteDrawings
import ChartLayer.Proofs.Layer.Hand
import ChartLayer.Proofs.Layer.Held
import ChartLayer.Proofs.Layer.Incremental
import ChartLayer.Proofs.Layer.LabelsInSync
import ChartLayer.Proofs.Layer.LastOfEach
import ChartLayer.Proofs.Layer.Lettering
import ChartLayer.Proofs.Layer.Merged
import ChartLayer.Proofs.Layer.Pan
import ChartLayer.Proofs.Layer.Quiescence
import ChartLayer.Proofs.Layer.Relayout
import ChartLayer.Proofs.Layer.Reset
import ChartLayer.Proofs.Layer.Switch
import ChartLayer.Proofs.Layer.Wakeup
import ChartLayer.Proofs.Layer.WheelBursts
import ChartLayer.Proofs.Layer.WheelDirection
import ChartLayer.Proofs.Number.Exact
import ChartLayer.Proofs.Number.NotANumber
import ChartLayer.Proofs.Number.Numerals
import ChartLayer.Proofs.Number.Product
import ChartLayer.Proofs.Number.Rounding
import ChartLayer.Proofs.Number.TotalOrder
import ChartLayer.Proofs.Number.Units
import ChartLayer.Proofs.Number.Unpacked
import ChartLayer.Proofs.Number.WholeNumbers
import ChartLayer.Proofs.Price.AutoRange
import ChartLayer.Proofs.Price.Deferral
import ChartLayer.Proofs.Price.DragPosition
import ChartLayer.Proofs.Price.ExactRange
import ChartLayer.Proofs.Price.Gestures
import ChartLayer.Proofs.Price.OneRetry
import ChartLayer.Proofs.Price.Range
import ChartLayer.Proofs.Price.ValidScale
import ChartLayer.Proofs.Price.WheelZoom
import ChartLayer.Proofs.Price.ZoomAnchor
import ChartLayer.Proofs.Sorted
import ChartLayer.Proofs.Surface.Faithful
import ChartLayer.Proofs.Surface.Lossy
import ChartLayer.Proofs.Text.Lowered
import ChartLayer.Proofs.Throttling
import ChartLayer.Proofs.Time.Label
import ChartLayer.Proofs.Zone.Accounts
import ChartLayer.Proofs.Zone.Answer
import ChartLayer.Proofs.Zone.Candidates
import ChartLayer.Proofs.Zone.Cleaning
import ChartLayer.Proofs.Zone.ClosedHistory
import ChartLayer.Proofs.Zone.Components
import ChartLayer.Proofs.Zone.DeliveryOrder
import ChartLayer.Proofs.Zone.Envelope
import ChartLayer.Proofs.Zone.Founders
import ChartLayer.Proofs.Zone.Frozen
import ChartLayer.Proofs.Zone.HighView
import ChartLayer.Proofs.Zone.Inert
import ChartLayer.Proofs.Zone.MicroView
import ChartLayer.Proofs.Zone.Nearest
import ChartLayer.Proofs.Zone.NoRepaint
import ChartLayer.Proofs.Zone.Order
import ChartLayer.Proofs.Zone.Provenance
import ChartLayer.Proofs.Zone.Summary
import ChartLayer.Proofs.Zone.Survivors
import ChartLayer.Proofs.Zone.Sweep
import ChartLayer.Proofs.Zone.Trust
import ChartLayer.Proofs.Zone.View
import ChartLayer.Proofs.Zone.ViewAndBack
import ChartLayer.Record.Read
import ChartLayer.Record.Write
import ChartLayer.Settings.Basic
import ChartLayer.Settings.Document
import ChartLayer.Settings.Environment
import ChartLayer.Snapshot.Basic
import ChartLayer.Snapshot.Options
import ChartLayer.Snapshot.Replay
import ChartLayer.Snapshot.Report
import ChartLayer.Surface.Basic
import ChartLayer.Surface.Memory
import ChartLayer.Surface.Unsteady
import ChartLayer.Text.Blank
import ChartLayer.Text.Digest
import ChartLayer.Text.LetterCase
import ChartLayer.Text.Lowercase
import ChartLayer.Text.Separated
import ChartLayer.Time.Calendar
import ChartLayer.Time.Timeframe
import ChartLayer.Time.Timestamp
import ChartLayer.Zone.Basic
import ChartLayer.Zone.Frozen
import ChartLayer.Zone.Order
import ChartLayer.Zone.Selection
import ChartLayer.Zone.Sweep
import ChartLayer.Zone.Trust
import ChartLayer.Zone.View
import ChartLayer.Proofs.Time.Bucket
import ChartLayer.Proofs.Zone.LabelRank
import ChartLayer.Proofs.Number.Integers
import ChartLayer.Proofs.Text.Cut
import ChartLayer.Proofs.TotalPreorders
import ChartLayer.Proofs.Time.Grammar
