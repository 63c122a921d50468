import FilterQuery.Text.Blank
import FilterQuery.Text.Lowercase
import FilterQuery.Text.Folding
import FilterQuery.Text.Quoted
import FilterQuery.Numeral.Text
import FilterQuery.Time.Instant
import FilterQuery.Json.Printer
import FilterQuery.Json.Reader
import FilterQuery.Request.Encode
import FilterQuery.Request.Decode
import FilterQuery.Condition
import FilterQuery.Engine
import FilterQuery.Sql.Statement
import FilterQuery.Document.Filter
import FilterQuery.Memory.Query
import FilterQuery.Engine.Description
import FilterQuery.CommandLine.Answer
import FilterQuery.Main
import FilterQuery.Proofs.Sql.Lexeme
import FilterQuery.Proofs.Sql.Layout
import FilterQuery.Proofs.Sql.Grammar
import FilterQuery.Proofs.Sql.Rendering
import FilterQuery.Proofs.Sql.RoundTrip
import FilterQuery.Proofs.Agreement.Flat
import FilterQuery.Proofs.Agreement.Subqueries
import FilterQuery.Proofs.Engine.Composition
import FilterQuery.Proofs.Engine.Requests
import FilterQuery.Proofs.Agreement.Acceptance
import FilterQuery.Proofs.Paging.Attribute
import FilterQuery.Proofs.Paging.Separation
import FilterQuery.Proofs.Paging.OwnGroup
import FilterQuery.Proofs.Sql.Statement
import FilterQuery.Proofs.Memory.Order
import FilterQuery.Proofs.Agreement.Sorting
import FilterQuery.Proofs.Memory.Pages
import FilterQuery.Proofs.Memory.Shuffling
import FilterQuery.Proofs.Memory.Locality
import FilterQuery.Proofs.Sql.Placeholders
import FilterQuery.Proofs.Sql.Scoping
import FilterQuery.Proofs.Json.WellFormed
import FilterQuery.Proofs.Numeral.Rounding
import FilterQuery.Proofs.Request.Decoding
import FilterQuery.Proofs.Request.RoundTrip
import FilterQuery.Proofs.Engine.Depth
import FilterQuery.Proofs.Engine.Refusal
import FilterQuery.Proofs.Engine.Nesting
import FilterQuery.Proofs.Engine.Flattening
import FilterQuery.Proofs.Memory.NullFields
import FilterQuery.Proofs.Text.Case
import FilterQuery.Proofs.Pattern.Language
import FilterQuery.Proofs.Pattern.Regex
import FilterQuery.Proofs.Memory.Patterns
import FilterQuery.Proofs.Sql.Like
import FilterQuery.Proofs.Agreement.Patterns
import FilterQuery.Proofs.Document.Grammar
import FilterQuery.Proofs.Paging.SortGrammar
import FilterQuery.Proofs.Agreement.Tokens
import FilterQuery.Proofs.Text.Folding
import FilterQuery.Proofs.Memory.LiteralSearch
import FilterQuery.Proofs.Text.Sigma
import FilterQuery.Proofs.Numeral.Nearest
import FilterQuery.Proofs.Numeral.Exactness
import FilterQuery.Proofs.Memory.SortedFilters
import FilterQuery.Proofs.Numeral.Decimal
import FilterQuery.Proofs.Memory.Integers
import FilterQuery.Proofs.Memory.StoredText
import FilterQuery.Proofs.Scalar.Order
import FilterQuery.Proofs.Request.Inference
import FilterQuery.Proofs.Memory.Membership
import FilterQuery.Proofs.Memory.OwnText
import FilterQuery.Proofs.Paging.Numbers
import FilterQuery.Proofs.Engine.Invariant
import FilterQuery.Proofs.Agreement.FiniteValues
import FilterQuery.Proofs.Engine.Overriding
import FilterQuery.Proofs.Engine.Registration
