import SqlCompose.Binary64.Basic
import SqlCompose.Binary64.Shortest
import SqlCompose.Binary64.Text
import SqlCompose.Blueprint.Basic
import SqlCompose.Blueprint.Build
import SqlCompose.Blueprint.Column
import SqlCompose.Blueprint.Json
import SqlCompose.Calendar.Date
import SqlCompose.Calendar.Timestamp
import SqlCompose.Condition
import SqlCompose.Config
import SqlCompose.Dialect.Basic
import SqlCompose.Dialect.Generic
import SqlCompose.Dialect.MySql
import SqlCompose.Dialect.Postgres
import SqlCompose.Error
import SqlCompose.Fragment
import SqlCompose.Json.Basic
import SqlCompose.Json.Document
import SqlCompose.Json.Fields
import SqlCompose.Json.Number
import SqlCompose.Json.Token
import SqlCompose.Json.Writer
import SqlCompose.Keyed
import SqlCompose.Name
import SqlCompose.Query.Basic
import SqlCompose.Query.Build
import SqlCompose.Query.Json
import SqlCompose.Quoter
import SqlCompose.Row
import SqlCompose.Schema.Column
import SqlCompose.Schema.Dialect
import SqlCompose.Schema.Introspect
import SqlCompose.Schema.Statement
import SqlCompose.Select
import SqlCompose.Text.Blank
import SqlCompose.Text.Digits
import SqlCompose.Text.Lowercase
import SqlCompose.Text.Lowercase.Context
import SqlCompose.Text.Lowercase.Runs
import SqlCompose.Text.Quoted
import SqlCompose.Text.Split
import SqlCompose.Uuid
import SqlCompose.Value.Basic
import SqlCompose.Value.Json
import SqlCompose.Write
import SqlCompose.Proofs.Bounds
import SqlCompose.Proofs.Expressions
import SqlCompose.Proofs.Inserts.Insertion
import SqlCompose.Proofs.Simulation.Correspondence
import SqlCompose.Proofs.Simulation.Parts
import SqlCompose.Proofs.Simulation.Select
import SqlCompose.Proofs.Simulation.Write
import SqlCompose.Proofs.Simulation.Insert
import SqlCompose.Proofs.Simulation.Requests
import SqlCompose.Proofs.Simulation.Values
import SqlCompose.Proofs.Quoting.Reader
import SqlCompose.Proofs.Quoting.Outline
import SqlCompose.Proofs.Quoting.SameOutline
import SqlCompose.Proofs.Quoting.Names
import SqlCompose.Proofs.Quoting.Enclosing
import SqlCompose.Proofs.Schema.Clean
import SqlCompose.Proofs.Schema.Columns
import SqlCompose.Proofs.Schema.Statements
import SqlCompose.Proofs.Congruence.Parts
import SqlCompose.Proofs.Congruence.Select
import SqlCompose.Proofs.Placeholders.Reading
import SqlCompose.Proofs.Placeholders.Template
import SqlCompose.Proofs.Placeholders.Closed
import SqlCompose.Proofs.Placeholders.Trimming
import SqlCompose.Proofs.Placeholders.Sharing
import SqlCompose.Proofs.Placeholders.Dialects
import SqlCompose.Proofs.Placeholders.Alignment
import SqlCompose.Proofs.Conditions.Tree
import SqlCompose.Proofs.Conditions.Folded
import SqlCompose.Proofs.Unions.Words
import SqlCompose.Proofs.Unions.Avoiding
import SqlCompose.Proofs.Unions.Legible
import SqlCompose.Proofs.Unions.Closing
import SqlCompose.Proofs.Unions.Dialects
import SqlCompose.Proofs.Unions.Reading
import SqlCompose.Proofs.Unions.Clauses
import SqlCompose.Proofs.Unions.Structure
import SqlCompose.Proofs.Conditions.Reader
import SqlCompose.Proofs.Conditions.Phrases
import SqlCompose.Proofs.Conditions.Logic
import SqlCompose.Proofs.Listing.Items
import SqlCompose.Proofs.Listing.Checked
import SqlCompose.Proofs.Listing.Operators
import SqlCompose.Proofs.Listing.Bindings
import SqlCompose.Proofs.Schema.Failures
import SqlCompose.Proofs.Schema.Kinds
import SqlCompose.Proofs.ReadBack.Digits
import SqlCompose.Proofs.ReadBack.Calendar
import SqlCompose.Proofs.ReadBack.Fields
import SqlCompose.Proofs.ReadBack.Values
import SqlCompose.Proofs.ReadBack.Queries
import SqlCompose.Proofs.ReadBack.Blueprints
import SqlCompose.Proofs.Conditions.Complete
import SqlCompose.Proofs.Heads
import SqlCompose.Proofs.Occurrence
import SqlCompose.Proofs.Deletes
import SqlCompose.Proofs.Inserts.Rows
import SqlCompose.Proofs.Inserts.Columns
import SqlCompose.Proofs.Schema.Definitions
import SqlCompose.Proofs.Schema.KeyPhrase
import SqlCompose.Proofs.Schema.Composable
import SqlCompose.Proofs.Schema.PrimaryKeys
import SqlCompose.Proofs.Schema.Identifiers
import SqlCompose.Proofs.Schema.NamedKeys
import SqlCompose.Proofs.Quoting.Aliases
import SqlCompose.Proofs.Quoting.References
import SqlCompose.Proofs.Quoting.Qualified
import SqlCompose.Proofs.Schema.SimpleNames
import SqlCompose.Proofs.Schema.Renaming
import SqlCompose.Proofs.Conditions.Havings
import SqlCompose.Proofs.Schema.Literals
import SqlCompose.Proofs.Fingerprints
import SqlCompose.Proofs.Verbatim.Places
import SqlCompose.Proofs.Verbatim.Passages
import SqlCompose.Proofs.Verbatim.Emitted
import SqlCompose.Proofs.Verbatim.Select
