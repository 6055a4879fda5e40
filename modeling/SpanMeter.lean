import SpanMeter.Time.Clock
import SpanMeter.Span.Registry
import SpanMeter.Sample.Guard
import SpanMeter.Number.Shortest
import SpanMeter.Report.Layout
import SpanMeter.Report.Rendering
import SpanMeter.Host.Facts
import SpanMeter.Host.Volume
import SpanMeter.Bench.Suite
import SpanMeter.Engine.Request
import SpanMeter.Trace.Recorder
import SpanMeter.Client.Shared
import SpanMeter.Main
import SpanMeter.Proofs.Span.Interleaving
import SpanMeter.Proofs.Engine.InnerQueue
import SpanMeter.Proofs.Engine.Turn
import SpanMeter.Proofs.Engine.Crowd
import SpanMeter.Proofs.Engine.Ledger
import SpanMeter.Proofs.Engine.Posts
import SpanMeter.Proofs.Engine.Answers
import SpanMeter.Proofs.Engine.Delivery
import SpanMeter.Proofs.Engine.InnerCapacity
import SpanMeter.Proofs.Engine.Sequential
import SpanMeter.Proofs.Span.Reachable
import SpanMeter.Proofs.Number.Grouping
import SpanMeter.Proofs.Report.Table
import SpanMeter.Proofs.Engine.Departure
import SpanMeter.Proofs.Engine.Fates
import SpanMeter.Proofs.Engine.Chronicle
import SpanMeter.Proofs.Engine.Late
import SpanMeter.Proofs.Engine.Stopping
import SpanMeter.Proofs.Engine.Shutdown
import SpanMeter.Proofs.Engine.Wholeness
import SpanMeter.Proofs.Engine.Survival
import SpanMeter.Proofs.Bench.Recorded
import SpanMeter.Proofs.Span.Further
import SpanMeter.Proofs.Engine.Benchmarking
import SpanMeter.Proofs.Engine.Reporting
import SpanMeter.Proofs.Sample.Ending
import SpanMeter.Proofs.Trace.Recording
import SpanMeter.Proofs.Engine.Sending
import SpanMeter.Proofs.Client.Conservation
import SpanMeter.Proofs.Client.StartedOnce
import SpanMeter.Proofs.Client.OnceCell
import SpanMeter.Proofs.Span.Clash
import SpanMeter.Proofs.Span.Family
import SpanMeter.Proofs.Span.Lineage
import SpanMeter.Proofs.Report.Mean
import SpanMeter.Proofs.Span.Refusal
import SpanMeter.Proofs.Trace.Closing
import SpanMeter.Proofs.Report.Overhead
import SpanMeter.Proofs.Sample.Fixing
import SpanMeter.Proofs.Bench.Windows
import SpanMeter.Proofs.Report.Columns
import SpanMeter.Proofs.Engine.Capture
import SpanMeter.Proofs.Number.Threes
import SpanMeter.Proofs.Report.Builtins
import SpanMeter.Proofs.Report.Parameters
import SpanMeter.Proofs.Report.Truncation
