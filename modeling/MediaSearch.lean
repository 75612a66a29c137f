import MediaSearch.Number.Shortest
import MediaSearch.Text.Blank
import MediaSearch.Text.Lowercase
import MediaSearch.Json.Record
import MediaSearch.Json.Printer
import MediaSearch.Tags.Query
import MediaSearch.Filter.Clause
import MediaSearch.Compile
import MediaSearch.Request.Codec
import MediaSearch.Settings.Codec
import MediaSearch.Instant
import MediaSearch.Settings.File
import MediaSearch.Search
import MediaSearch.Library.Schema
import MediaSearch.Library.Connection
import MediaSearch.Proofs.Sql.Grouping
import MediaSearch.Proofs.Sql.Like
import MediaSearch.Proofs.Sql.Meaning
import MediaSearch.Proofs.Library.Content
import MediaSearch.Proofs.Sql.Select
import MediaSearch.Proofs.Library.Lookup
import MediaSearch.Proofs.Tags.Selection
import MediaSearch.Proofs.Number.Decimal
import MediaSearch.Proofs.Sql.Listing
import MediaSearch.Proofs.Tags.Hits
import MediaSearch.Proofs.Tags.Counting
import MediaSearch.Proofs.Tags.Query
import MediaSearch.Proofs.Sql.Fragment
import MediaSearch.Proofs.Sql.Frame
import MediaSearch.Proofs.Sql.Narrow
import MediaSearch.Proofs.Filter.Stage
import MediaSearch.Proofs.Filter.Clause
import MediaSearch.Proofs.Chain.Names
import MediaSearch.Proofs.Chain.Stages
import MediaSearch.Proofs.Chain.Excluded
import MediaSearch.Proofs.Chain.Result
import MediaSearch.Proofs.Compile.Body
import MediaSearch.Proofs.Compile.Named
import MediaSearch.Proofs.Compile.Total
import MediaSearch.Proofs.Filter.Shape
import MediaSearch.Proofs.Compile.Shape
import MediaSearch.Proofs.Search.Statements
import MediaSearch.Proofs.Compile.Placeholders
import MediaSearch.Proofs.Chain.Rule
import MediaSearch.Proofs.Tags.Folding
import MediaSearch.Proofs.Filter.Clean
import MediaSearch.Proofs.Chain.Layout
import MediaSearch.Proofs.Compile.Ordered
import MediaSearch.Proofs.Compile.Stripped
import MediaSearch.Proofs.Search.Stream
import MediaSearch.Proofs.Instant.Order
import MediaSearch.Proofs.Instant.Reading
import MediaSearch.Proofs.Sql.Sorting
import MediaSearch.Proofs.Compile.Newest
import MediaSearch.Proofs.Compile.Pages
import MediaSearch.Proofs.Library.Indexing
import MediaSearch.Proofs.Filter.Matching
import MediaSearch.Proofs.Request.Decoding
import MediaSearch.Proofs.Tags.Normal
import MediaSearch.Proofs.Sql.Rendering
import MediaSearch.Proofs.Chain.Graph
import MediaSearch.Proofs.Chain.ReadBack
import MediaSearch.Proofs.Sql.Lexing
import MediaSearch.Proofs.Sql.Starts
import MediaSearch.Proofs.Settings.Loading
