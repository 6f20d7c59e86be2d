import Reprint.Assembly
import Reprint.Doc.Resolve
import Reprint.Layout
import Reprint.Text.Ranges
import Reprint.Text.Blank
import Reprint.Text.Bytes
import Reprint.Text.Digits
import Reprint.Text.Category
import Reprint.Text.Word
import Reprint.Text.Printable
import Reprint.Text.Fold
import Reprint.Text.Script
import Reprint.Text.Age
import Reprint.Text.Property
import Reprint.Text.Segment
import Reprint.Text.Named
import Reprint.Text.Quoted
import Reprint.Span
import Reprint.Pattern.Expr
import Reprint.Pattern.Mode
import Reprint.Pattern.Escape
import Reprint.Pattern.Brackets
import Reprint.Pattern.Lexeme
import Reprint.Pattern.Reader
import Reprint.Pattern.Size
import Reprint.Pattern.Program
import Reprint.Pattern
import Reprint.Grammar.Basic
import Reprint.Grammar.Blueprint
import Reprint.Tree
import Reprint.Parse.Attempt
import Reprint.Parse.Matching
import Reprint.Parse
import Reprint.Table
import Reprint.Style.Anchor
import Reprint.Style.Basic
import Reprint.Style.Token
import Reprint.Style.Sheet
import Reprint.Unparse.Regenerate
import Reprint.Unparse.Walk
import Reprint.Unparse.Journal
import Reprint.Unparse
import Reprint.Format
import Reprint.Toml.Value
import Reprint.Toml.Table
import Reprint.Toml.Reader
import Reprint.Toml.Document
import Reprint.Settings
import Reprint.Report
import Reprint.Proofs.Doc.Induction
import Reprint.Proofs.Woven
import Reprint.Proofs.Doc.Strands
import Reprint.Proofs.Doc.Opening
import Reprint.Proofs.Doc.Parts
import Reprint.Proofs.Doc.Filling
import Reprint.Proofs.Doc.Fixpoint
import Reprint.Proofs.Doc.Skeleton
import Reprint.Proofs.Doc.Final
import Reprint.Proofs.Doc.Ending
import Reprint.Proofs.Doc.Script
import Reprint.Proofs.Doc.Runs
import Reprint.Proofs.Layout
import Reprint.Proofs.Grammar
import Reprint.Proofs.Outcome
import Reprint.Proofs.Grammar.Linking
import Reprint.Proofs.Parse.Run
import Reprint.Proofs.Tree
import Reprint.Proofs.Parse.Tiling
import Reprint.Proofs.Parse.Spans
import Reprint.Proofs.Parse.Derivation
import Reprint.Proofs.Parse.Termination
import Reprint.Proofs.Parse.Spelling
import Reprint.Proofs.Parse.Raising
import Reprint.Proofs.Parse.Failure
import Reprint.Proofs.Unparse.Invariant
import Reprint.Proofs.Unparse.Along
import Reprint.Proofs.Assembly
import Reprint.Proofs.Assembly.Rollback
import Reprint.Proofs.Assembly.Levels
import Reprint.Proofs.Unparse.Record
import Reprint.Proofs.Style
import Reprint.Proofs.Style.History
import Reprint.Proofs.Style.Nesting
import Reprint.Proofs.Style.Whole
import Reprint.Proofs.Format.WhiteSpace
import Reprint.Proofs.Format.RoundTrip
import Reprint.Proofs.Format.Trivia
import Reprint.Proofs.Unparse.Plain
import Reprint.Proofs.Unparse.Retrace
import Reprint.Proofs.Unparse.Course
import Reprint.Proofs.Unparse.Charting
import Reprint.Proofs.Unparse.Regeneration
import Reprint.Proofs.Unparse.Acceptance
import Reprint.Proofs.Unparse.Nesting
import Reprint.Proofs.Unparse.Adding
import Reprint.Proofs.Unparse.Enclosed
import Reprint.Proofs.Unparse.Alike
import Reprint.Proofs.Unparse.Spelling
import Reprint.Proofs.Unparse.Journal
import Reprint.Proofs.Format.Spelling
import Reprint.Proofs.Assembly.Branches
import Reprint.Proofs.Doc.Merging
import Reprint.Proofs.Doc.Gathering
import Reprint.Proofs.Doc.Gap
import Reprint.Proofs.Doc.Required
import Reprint.Proofs.Doc.Place
import Reprint.Proofs.Doc.Marks
import Reprint.Proofs.Doc.Join
import Reprint.Proofs.Doc.Sinking
import Reprint.Proofs.Style.Token
import Reprint.Proofs.Style.Reading
import Reprint.Proofs.Style.Composition
import Reprint.Proofs.Style.Errors
import Reprint.Proofs.Style.Commands
import Reprint.Proofs.Layout.Printing
import Reprint.Proofs.Layout.Fitting
import Reprint.Proofs.Layout.BlankLines
import Reprint.Proofs.Layout.Resolved
import Reprint.Proofs.Style.Division
import Reprint.Proofs.Style.Literal
import Reprint.Proofs.Style.Anchor
import Reprint.Proofs.Grammar.Building
import Reprint.Proofs.Pattern.Escape
import Reprint.Proofs.Pattern.Brackets
import Reprint.Proofs.Pattern.Lexeme
import Reprint.Proofs.Pattern.Anchoring
