import Retrieval.Main
import Retrieval.Proofs.Text.Placeholders
import Retrieval.Proofs.FieldSet
import Retrieval.Proofs.Resource
import Retrieval.Proofs.Request.Passes
import Retrieval.Proofs.Request.Reading
import Retrieval.Proofs.Conversion
import Retrieval.Proofs.Request.FieldLists
import Retrieval.Proofs.Plan.Compile
import Retrieval.Proofs.Plan.Confinement
import Retrieval.Proofs.Except
import Retrieval.Proofs.Plan.Grammar
import Retrieval.Proofs.Text.Quotes
import Retrieval.Proofs.Plan.Quoting
import Retrieval.Proofs.Plan.References
import Retrieval.Proofs.Plan.Labels
import Retrieval.Proofs.Plan.Addressing
import Retrieval.Proofs.Plan.Binding
import Retrieval.Proofs.Text.Numeral
import Retrieval.Proofs.Request.Limiting
import Retrieval.Proofs.Fetch.Pages
import Retrieval.Proofs.Request.Flawless
import Retrieval.Proofs.Plan.Eager
import Retrieval.Proofs.Plan.Conditions
import Retrieval.Proofs.Plan.Literals
import Retrieval.Proofs.Text.Forms
import Retrieval.Proofs.Query.Items
import Retrieval.Proofs.Query.Params
import Retrieval.Proofs.Query.Filters
import Retrieval.Proofs.Plan.Content
import Retrieval.Proofs.Plan.Correlations
import Retrieval.Proofs.Plan.Independence
import Retrieval.Proofs.Plan.Columns
import Retrieval.Proofs.Plan.Narrowing
import Retrieval.Proofs.Plan.Entity
import Retrieval.Proofs.Building
import Retrieval.Proofs.Registry
import Retrieval.Proofs.Actions
import Retrieval.Proofs.Plan.Scoping
import Retrieval.Proofs.Records
import Retrieval.Proofs.Plan.Usable
import Retrieval.Proofs.Request.Spelling
import Retrieval.Proofs.Request.Joining
import Retrieval.Proofs.Text.Pieces
import Retrieval.Proofs.Ident.Spelling
import Retrieval.Proofs.Fetch.Exchange
import Retrieval.Proofs.Request.Selection
import Retrieval.Proofs.Request.SortKeys
import Retrieval.Proofs.Plan.Order
import Retrieval.Proofs.Text.Beginnings
import Retrieval.Proofs.Query.Marks
import Retrieval.Proofs.Command.Arguments
import Retrieval.Proofs.Command.Spelling
import Retrieval.Proofs.Command.Groups
import Retrieval.Proofs.Template
import Retrieval.Proofs.FieldSet.History
import Retrieval.Proofs.Resource.Naming
