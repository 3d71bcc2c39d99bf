import SeriesExport.Main
import SeriesExport.Proofs.Span.Completion
import SeriesExport.Proofs.Span.Outright
import SeriesExport.Proofs.Time.LeapSecond
import SeriesExport.Proofs.Span.Reresolution
import SeriesExport.Proofs.Span.Shares
import SeriesExport.Proofs.Span.Covering
import SeriesExport.Proofs.Span.Consistency
import SeriesExport.Proofs.Plan.Runs
import SeriesExport.Proofs.Plan.Draining
import SeriesExport.Proofs.Execution.Outputs
import SeriesExport.Proofs.Query.Channels
import SeriesExport.Proofs.Query.Scoping
import SeriesExport.Proofs.Query.WindowSeconds
import SeriesExport.Proofs.Plan.Books
import SeriesExport.Proofs.Csv.Blocks
import SeriesExport.Proofs.Csv.Decoding
import SeriesExport.Proofs.Csv.Splitting
import SeriesExport.Proofs.Csv.Writing
import SeriesExport.Proofs.Table.Projection
import SeriesExport.Proofs.Csv.Points
import SeriesExport.Proofs.Query.Repacking
import SeriesExport.Proofs.Settings.Overrides
import SeriesExport.Proofs.Text.Delimited
import SeriesExport.Proofs.Flux.Selection
import SeriesExport.Proofs.Execution.Interleaving
import SeriesExport.Proofs.Plan.Refusals
import SeriesExport.Proofs.Query.Accord
import SeriesExport.Proofs.Table.Kept
import SeriesExport.Proofs.Query.Filtering
import SeriesExport.Proofs.Query.Ranges
import SeriesExport.Proofs.Decimal.Order
import SeriesExport.Proofs.Table.Changes
import SeriesExport.Proofs.Table.Discontinuities
import SeriesExport.Proofs.Table.ColumnOrder
import SeriesExport.Proofs.Query.ColumnOrder
import SeriesExport.Proofs.Execution.Calls
import SeriesExport.Proofs.Time.Spelling
import SeriesExport.Proofs.Time.Canonical
import SeriesExport.Proofs.Query.TagListing
import SeriesExport.Proofs.Table.Alignment
import SeriesExport.Proofs.Query.RowWidths
import SeriesExport.Proofs.Query.Identifiers
import SeriesExport.Proofs.Table.Merging
import SeriesExport.Proofs.Table.Cutting
import SeriesExport.Proofs.Csv.Parts
import SeriesExport.Proofs.Plan.Ranges
import SeriesExport.Proofs.Text.RunTable
import SeriesExport.Proofs.Http.Encoding
import SeriesExport.Proofs.Http.Address
import SeriesExport.Proofs.Http.Paths
import SeriesExport.Proofs.Http.Replies
