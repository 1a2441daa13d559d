import ContentIndex.Asset
import ContentIndex.Attachment
import ContentIndex.Catalogue
import ContentIndex.Cli.Arguments
import ContentIndex.Cli.Commands
import ContentIndex.Cli.Sources
import ContentIndex.Context
import ContentIndex.Decimal.Arithmetic
import ContentIndex.Decimal.Binary64
import ContentIndex.Decimal.Layout
import ContentIndex.Decimal.Places
import ContentIndex.Decimal.Reader
import ContentIndex.Decimal.Shortest
import ContentIndex.Error
import ContentIndex.Eval.Arguments
import ContentIndex.Eval.Attributes
import ContentIndex.Eval.Builtins
import ContentIndex.Eval.Conversions
import ContentIndex.Eval.Iterate
import ContentIndex.Eval.Methods
import ContentIndex.Eval.Operators
import ContentIndex.Eval.Scope
import ContentIndex.Eval.Step
import ContentIndex.Evaluator
import ContentIndex.Expr.Access
import ContentIndex.Expr.Basic
import ContentIndex.Expr.Nesting
import ContentIndex.Expr.Scoping
import ContentIndex.Expr.Tree
import ContentIndex.Expr.Wrapper
import ContentIndex.FilePath
import ContentIndex.Files
import ContentIndex.Hierarchy
import ContentIndex.Index.Document
import ContentIndex.Index.Extraction
import ContentIndex.Index.Staging
import ContentIndex.Indexing
import ContentIndex.Json.Basic
import ContentIndex.Json.Parser
import ContentIndex.Json.Printer
import ContentIndex.JsonFile
import ContentIndex.Loading.Nodes
import ContentIndex.Loading.Types
import ContentIndex.Main
import ContentIndex.Markup.Buckets
import ContentIndex.Markup.Heading
import ContentIndex.Markup.Item
import ContentIndex.Markup.Strip
import ContentIndex.Moment
import ContentIndex.Name
import ContentIndex.Node
import ContentIndex.NodePath
import ContentIndex.Proofs.Markup.Attributes
import ContentIndex.Proofs.Markup.BlockBuckets
import ContentIndex.Proofs.Markup.Blocks
import ContentIndex.Proofs.Markup.Clean
import ContentIndex.Proofs.Markup.Collapse
import ContentIndex.Proofs.Markup.Conservation
import ContentIndex.Proofs.Markup.Document
import ContentIndex.Proofs.Markup.HeadingTag
import ContentIndex.Proofs.Markup.Parts
import ContentIndex.Proofs.Markup.Quotation
import ContentIndex.Proofs.Markup.Reading
import ContentIndex.Proofs.Markup.Spacing
import ContentIndex.Registry
import ContentIndex.Settings
import ContentIndex.Source.Lexer
import ContentIndex.Source.Parser
import ContentIndex.Source.Quotation
import ContentIndex.Source.Token
import ContentIndex.Store
import ContentIndex.Table
import ContentIndex.Text.Base64
import ContentIndex.Text.Blank
import ContentIndex.Text.Case
import ContentIndex.Text.CaseTable
import ContentIndex.Text.CompositeTable
import ContentIndex.Text.DigitTable
import ContentIndex.Text.Digits
import ContentIndex.Text.Encoding
import ContentIndex.Text.Identifier
import ContentIndex.Text.IdentifierTable
import ContentIndex.Text.MarkTable
import ContentIndex.Text.NormalForm
import ContentIndex.Text.Printable
import ContentIndex.Text.PrintableTable
import ContentIndex.Text.Quoted
import ContentIndex.Text.Ranges
import ContentIndex.Text.Split
import ContentIndex.Text.VariantTable
import ContentIndex.Value.Arithmetic
import ContentIndex.Value.Basic
import ContentIndex.Value.Document
import ContentIndex.Value.Key
import ContentIndex.Value.Marks
import ContentIndex.Value.Merge
import ContentIndex.Value.Order
import ContentIndex.Value.Pattern
import ContentIndex.Value.Sets
import ContentIndex.Value.Subscript
import ContentIndex.Value.Text
import ContentIndex.Value.Views
import ContentIndex.Value.Written
import ContentIndex.Proofs.Index.Turns
import ContentIndex.Proofs.Index.Rules
import ContentIndex.Proofs.Entries
import ContentIndex.Proofs.Index.Fulltext
import ContentIndex.Proofs.Changes
import ContentIndex.Proofs.Index.Log
import ContentIndex.Proofs.Index.Staging
import ContentIndex.Proofs.Loading.Graph
import ContentIndex.Proofs.Loading.Batch
import ContentIndex.Proofs.Hierarchy.Preorder
import ContentIndex.Proofs.Firsts
import ContentIndex.Proofs.Hierarchy.Flattening
import ContentIndex.Proofs.Loading.Assembly
import ContentIndex.Proofs.Loading.Merging
import ContentIndex.Proofs.Loading.History
import ContentIndex.Proofs.Loading.Inheritance
import ContentIndex.Proofs.Loading.Order
import ContentIndex.Proofs.Hierarchy.Cycles
import ContentIndex.Proofs.Index.Ancestors
import ContentIndex.Proofs.Eval.AccessCheck
import ContentIndex.Proofs.Eval.Names
import ContentIndex.Proofs.Settings.Overlay
import ContentIndex.Proofs.Index.ReadBack
import ContentIndex.Proofs.Json.RoundTrip
import ContentIndex.Proofs.Cli.Indexing
import ContentIndex.Proofs.Cli.Failures
import ContentIndex.Proofs.Markup.Restripping
import ContentIndex.Proofs.Paths.Parents
import ContentIndex.Proofs.Loading.Postorder
import ContentIndex.Proofs.Loading.Overriding
import ContentIndex.Proofs.Assets.Encoding
import ContentIndex.Proofs.Eval.Wrapping
import ContentIndex.Proofs.Regex.Matching
import ContentIndex.Proofs.Markup.TagRegex
import ContentIndex.Proofs.Markup.HeadingRegex
import ContentIndex.Proofs.Loading.Markers
import ContentIndex.Proofs.Loading.NodeBatch
