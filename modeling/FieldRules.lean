import FieldRules.Cache
import FieldRules.Document.Reader
import FieldRules.Document.Scalar
import FieldRules.Document.Schema
import FieldRules.Error
import FieldRules.Expr.Access
import FieldRules.Expr.Arguments
import FieldRules.Expr.Check
import FieldRules.Expr.Eval
import FieldRules.Expr.Filter
import FieldRules.Expr.Fold
import FieldRules.Expr.Method
import FieldRules.Expr.Operation
import FieldRules.Expr.Parser
import FieldRules.Expr.Problem
import FieldRules.Expr.Syntax
import FieldRules.Expr.Test
import FieldRules.Expr.Token
import FieldRules.Handler.Arity
import FieldRules.Handler.Basic
import FieldRules.Handler.Bounds
import FieldRules.Handler.Comparison
import FieldRules.Handler.Dispatch
import FieldRules.Handler.Patterns
import FieldRules.Handler.Registry
import FieldRules.Handler.Simple
import FieldRules.Message.Bundle
import FieldRules.Message.Catalog
import FieldRules.Message.Library
import FieldRules.Message.Locale
import FieldRules.Message.Template
import FieldRules.Message.Texts
import FieldRules.Number.Binary
import FieldRules.Number.Shortest
import FieldRules.Number.Text
import FieldRules.Plan.Compile
import FieldRules.Plan.Element
import FieldRules.Plan.Member
import FieldRules.Plan.Table
import FieldRules.Proofs.Cache.Held
import FieldRules.Proofs.Cache.Ideal
import FieldRules.Proofs.Cache.Quiet
import FieldRules.Proofs.Cache.Refinement
import FieldRules.Proofs.Entries
import FieldRules.Proofs.Expr.Lexing
import FieldRules.Proofs.Expr.Parsing
import FieldRules.Proofs.Expr.Values
import FieldRules.Proofs.Handler.Addresses
import FieldRules.Proofs.Handler.CommonPatterns
import FieldRules.Proofs.Handler.Equality
import FieldRules.Proofs.Handler.Identified
import FieldRules.Proofs.Handler.Measures
import FieldRules.Proofs.Handler.Passwords
import FieldRules.Proofs.Message.AlwaysThere
import FieldRules.Proofs.Message.Flattening
import FieldRules.Proofs.Message.History
import FieldRules.Proofs.Message.Interpolation
import FieldRules.Proofs.Message.Lookup
import FieldRules.Proofs.Message.Spellings
import FieldRules.Proofs.Message.Splitting
import FieldRules.Proofs.Plan.Closure
import FieldRules.Proofs.Plan.Discovery
import FieldRules.Proofs.Plan.Gated
import FieldRules.Proofs.Plan.History
import FieldRules.Proofs.Plan.Kinds
import FieldRules.Proofs.Plan.Members
import FieldRules.Proofs.Plan.Purity
import FieldRules.Proofs.Plan.Registration
import FieldRules.Proofs.Plan.Search
import FieldRules.Proofs.Plan.Tagged
import FieldRules.Proofs.Resource.Keeping
import FieldRules.Proofs.Resource.Rereading
import FieldRules.Proofs.Result.Merging
import FieldRules.Proofs.Rule.Blanks
import FieldRules.Proofs.Rule.Failures
import FieldRules.Proofs.Rule.Gathering
import FieldRules.Proofs.Rule.Joining
import FieldRules.Proofs.Rule.PartOrder
import FieldRules.Proofs.Rule.Printer
import FieldRules.Proofs.Rule.Repetition
import FieldRules.Proofs.Rule.RoundTrip
import FieldRules.Proofs.Rule.Strictness
import FieldRules.Proofs.Rule.TypedArguments
import FieldRules.Proofs.Rule.UnknownNames
import FieldRules.Proofs.Run
import FieldRules.Proofs.Setup.Filling
import FieldRules.Proofs.Setup.Layers
import FieldRules.Proofs.Setup.Names
import FieldRules.Proofs.Setup.Stopping
import FieldRules.Proofs.Text.Case
import FieldRules.Proofs.Text.Classes
import FieldRules.Proofs.Text.Escape
import FieldRules.Proofs.Validation.Agreement
import FieldRules.Proofs.Validation.Counts
import FieldRules.Proofs.Validation.Gates
import FieldRules.Proofs.Validation.Keeps
import FieldRules.Proofs.Validation.Parts
import FieldRules.Proofs.Validation.PatternArguments
import FieldRules.Proofs.Validation.Permutation
import FieldRules.Proofs.Validation.Reordering
import FieldRules.Proofs.Validation.Selection
import FieldRules.Proofs.Validation.Standalone
import FieldRules.Proofs.Validation.Truncation
import FieldRules.Proofs.Validation.Values
import FieldRules.Proofs.Validation.Widening
import FieldRules.Proofs.Validation.Worded
import FieldRules.Proofs.Value.Writing
import FieldRules.Regex.Match
import FieldRules.Regex.Parse
import FieldRules.Regex.Problem
import FieldRules.Regex.Source
import FieldRules.Regex.Syntax
import FieldRules.Resource.Digest
import FieldRules.Resource.Path
import FieldRules.Resource.Store
import FieldRules.Result.Basic
import FieldRules.Result.Ledger
import FieldRules.Rule.Arguments
import FieldRules.Rule.Error
import FieldRules.Rule.Fragment
import FieldRules.Rule.Scanner
import FieldRules.Rule.Tag
import FieldRules.Service
import FieldRules.Setup.Loader
import FieldRules.Setup.Settings
import FieldRules.Setup.TableDocument
import FieldRules.Text.Alnum
import FieldRules.Text.Blank
import FieldRules.Text.Case
import FieldRules.Text.CaseTable
import FieldRules.Text.CharName
import FieldRules.Text.Digit
import FieldRules.Text.Escape
import FieldRules.Text.Identifier
import FieldRules.Text.Printable
import FieldRules.Text.Quoted
import FieldRules.Text.Ranges
import FieldRules.Text.Split
import FieldRules.Type.Declaration
import FieldRules.Type.Hint
import FieldRules.Type.Lineage
import FieldRules.Type.Lookup
import FieldRules.Uri.Address
import FieldRules.Uri.Escaped
import FieldRules.Uri.Split
import FieldRules.Validation.Fragments
import FieldRules.Validation.Groups
import FieldRules.Validation.Objects
import FieldRules.Validation.Session
import FieldRules.Value.Arithmetic
import FieldRules.Value.Attribute
import FieldRules.Value.Basic
import FieldRules.Value.Class
import FieldRules.Value.Convert
import FieldRules.Value.Equal
import FieldRules.Value.Fault
import FieldRules.Value.Format
import FieldRules.Value.Items
import FieldRules.Value.Order
import FieldRules.Value.Render
import FieldRules.Warning
