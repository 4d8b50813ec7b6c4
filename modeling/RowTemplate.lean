import RowTemplate.Command.Arguments
import RowTemplate.Command.Run
import RowTemplate.Context.Basic
import RowTemplate.Context.Bindings
import RowTemplate.Context.Coercion
import RowTemplate.Expr.Error
import RowTemplate.Expr.Eval
import RowTemplate.Expr.Grammar
import RowTemplate.Expr.Member
import RowTemplate.Expr.Operator
import RowTemplate.Expr.ParseCache
import RowTemplate.Expr.Syntax
import RowTemplate.Expr.Token
import RowTemplate.Expr.Value
import RowTemplate.Json.Basic
import RowTemplate.Json.Numeral
import RowTemplate.Json.Reader
import RowTemplate.Json.Writer
import RowTemplate.Main
import RowTemplate.Moment.Basic
import RowTemplate.Moment.Pattern
import RowTemplate.Moment.Timestamp
import RowTemplate.Number.Binary
import RowTemplate.Number.Digits
import RowTemplate.Number.Hexadecimal
import RowTemplate.Number.Layout
import RowTemplate.Number.Reading
import RowTemplate.Number.Shortest
import RowTemplate.Number.Word
import RowTemplate.Pattern.BinaryProperty
import RowTemplate.Pattern.Break
import RowTemplate.Pattern.CharSet
import RowTemplate.Pattern.Class
import RowTemplate.Pattern.Match
import RowTemplate.Pattern.Property
import RowTemplate.Pattern.Reader
import RowTemplate.Pattern.Script
import RowTemplate.Pattern.Syntax
import RowTemplate.Proofs.Command.Stopping
import RowTemplate.Proofs.Context.Alike
import RowTemplate.Proofs.Context.Frame
import RowTemplate.Proofs.Context.Lookup
import RowTemplate.Proofs.Context.Padding
import RowTemplate.Proofs.Context.Reserved
import RowTemplate.Proofs.Context.Suffix
import RowTemplate.Proofs.Directive.Condition
import RowTemplate.Proofs.Directive.ElseIf
import RowTemplate.Proofs.Directive.History
import RowTemplate.Proofs.Directive.Key
import RowTemplate.Proofs.Expr.Acceptance
import RowTemplate.Proofs.Expr.Comparison
import RowTemplate.Proofs.Expr.Completeness
import RowTemplate.Proofs.Expr.Conversion
import RowTemplate.Proofs.Expr.Dependence
import RowTemplate.Proofs.Expr.Derivation
import RowTemplate.Proofs.Expr.Document
import RowTemplate.Proofs.Expr.Ending
import RowTemplate.Proofs.Expr.Equality
import RowTemplate.Proofs.Expr.Exact
import RowTemplate.Proofs.Expr.IntegerText
import RowTemplate.Proofs.Expr.Lookahead
import RowTemplate.Proofs.Expr.Padding
import RowTemplate.Proofs.Expr.ParseCache
import RowTemplate.Proofs.Expr.Quoting
import RowTemplate.Proofs.Expr.Reading
import RowTemplate.Proofs.Expr.Searching
import RowTemplate.Proofs.Expr.Soundness
import RowTemplate.Proofs.Expr.Spelling
import RowTemplate.Proofs.Expr.Splits
import RowTemplate.Proofs.Expr.Unambiguous
import RowTemplate.Proofs.Fields
import RowTemplate.Proofs.Json.Pruned
import RowTemplate.Proofs.Json.Reading
import RowTemplate.Proofs.Json.Within
import RowTemplate.Proofs.Moment.Acceptance
import RowTemplate.Proofs.Moment.Concatenation
import RowTemplate.Proofs.Moment.Literal
import RowTemplate.Proofs.Moment.Quotation
import RowTemplate.Proofs.Number.Binary64
import RowTemplate.Proofs.Number.Digits
import RowTemplate.Proofs.Number.Truncation
import RowTemplate.Proofs.Number.Word
import RowTemplate.Proofs.Row.Copied
import RowTemplate.Proofs.Row.Isolation
import RowTemplate.Proofs.Row.Line
import RowTemplate.Proofs.Row.Records
import RowTemplate.Proofs.Row.Snapshot
import RowTemplate.Proofs.Session
import RowTemplate.Proofs.Span.Balanced
import RowTemplate.Proofs.Span.Bytes
import RowTemplate.Proofs.Span.Opening
import RowTemplate.Proofs.Span.Rebuild
import RowTemplate.Proofs.Span.Verbatim
import RowTemplate.Proofs.Span.Walk
import RowTemplate.Proofs.Table
import RowTemplate.Proofs.Template.Composition
import RowTemplate.Proofs.Template.Failure
import RowTemplate.Proofs.Template.Integer
import RowTemplate.Proofs.Template.Interpolation
import RowTemplate.Proofs.Template.Loop
import RowTemplate.Proofs.Template.Opacity
import RowTemplate.Proofs.Template.Placement
import RowTemplate.Proofs.Template.Shape
import RowTemplate.Proofs.Template.Static
import RowTemplate.Proofs.Template.Steps
import RowTemplate.Proofs.Template.Strict
import RowTemplate.Proofs.Template.Untaken
import RowTemplate.Proofs.Text.Occurrence
import RowTemplate.Row.Basic
import RowTemplate.Row.Batch
import RowTemplate.Row.Csv
import RowTemplate.Row.Source
import RowTemplate.Settings.Basic
import RowTemplate.Settings.Line
import RowTemplate.Settings.Reader
import RowTemplate.Table
import RowTemplate.Template.Chain
import RowTemplate.Template.Directive
import RowTemplate.Template.Error
import RowTemplate.Template.Expand
import RowTemplate.Template.Span
import RowTemplate.Text.Alphabet
import RowTemplate.Text.Blank
import RowTemplate.Text.Case
import RowTemplate.Text.Category
import RowTemplate.Text.Category.Invisible
import RowTemplate.Text.Category.Letter
import RowTemplate.Text.Category.Mark
import RowTemplate.Text.Category.Number
import RowTemplate.Text.Category.Punctuation
import RowTemplate.Text.Category.Symbol
import RowTemplate.Text.Edition
import RowTemplate.Text.Printable
import RowTemplate.Text.Quoted
import RowTemplate.Text.Ranges
import RowTemplate.Text.Search
import RowTemplate.Yaml.Reader
import RowTemplate.Yaml.Scalar
import RowTemplate.Yaml.Token
