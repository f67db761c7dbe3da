import StarSchema.Main
import StarSchema.Proofs.Labels.Coherence
import StarSchema.Proofs.Labels.Transparency
import StarSchema.Proofs.Sql.Statement
import StarSchema.Proofs.Star.Calculated
import StarSchema.Proofs.Star.Composition
import StarSchema.Table.Row
import StarSchema.Value.Format
import StarSchema.Proofs.Filter.Like
import StarSchema.Proofs.Formula.Grammar
import StarSchema.Proofs.Formula.Reading
import StarSchema.Proofs.Sql.Columns
import StarSchema.Proofs.Star.Fields
import StarSchema.Proofs.Model.Filters
import StarSchema.Proofs.Model.Scope
import StarSchema.Proofs.Sql.Precedence
import StarSchema.Proofs.Sql.Rereading
import StarSchema.Proofs.Star.Parenthesised
import StarSchema.Proofs.Model.Parenthesised
import StarSchema.Proofs.Star.Filters
import StarSchema.Proofs.Sql.Joins
import StarSchema.Proofs.Model.Requests
import StarSchema.Proofs.Model.Joins
import StarSchema.Proofs.Formula.Success
import StarSchema.Proofs.Formula.Domain
import StarSchema.Proofs.Formula.Display
import StarSchema.Proofs.Filter.BracketLike
import StarSchema.Proofs.Filter.History
import StarSchema.Proofs.Model.OfferedFilters
import StarSchema.Proofs.Model.Declared
import StarSchema.Proofs.Requirement
import StarSchema.Proofs.Star.Requirements
import StarSchema.Proofs.Model.Compositions
import StarSchema.Proofs.Model.Isolation
import StarSchema.Proofs.Admission
import StarSchema.Proofs.Declaration.Validity
import StarSchema.Proofs.Declaration.Records
import StarSchema.Proofs.Declaration.Checked
import StarSchema.Proofs.Model.Loading
import StarSchema.Proofs.Model.Creation
import StarSchema.Proofs.Model.References
import StarSchema.Proofs.Model.Registry
import StarSchema.Proofs.Model.Views
import StarSchema.Proofs.Table.Row
import StarSchema.Proofs.Model.Complete
import StarSchema.Proofs.Sql.Grouping
import StarSchema.Proofs.Star.Grouping
import StarSchema.Proofs.Model.Grouping
import StarSchema.Proofs.Value.Rows
import StarSchema.Proofs.Model.Fetching
import StarSchema.Proofs.Model.Addressing
import StarSchema.Proofs.Table.Cells
import StarSchema.Proofs.Binary64.Nearest
import StarSchema.Proofs.Labels.Outcome
import StarSchema.Proofs.Table.Validated
import StarSchema.Proofs.Value.Amount
import StarSchema.Proofs.Value.Integer
import StarSchema.Proofs.Labels.FromRows
import StarSchema.Proofs.Star.FirstKeys
import StarSchema.Proofs.Value.Grouped
import StarSchema.Proofs.Value.Styles
import StarSchema.Proofs.Formula.Fields
import StarSchema.Proofs.Value.Stable
import StarSchema.Proofs.Value.Dates
import StarSchema.Proofs.Value.WholeAmounts
import StarSchema.Proofs.Sql.DateLiteral
import StarSchema.Proofs.Sql.RowCap
