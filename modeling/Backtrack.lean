import Backtrack.Buffer
import Backtrack.Cursor
import Backtrack.Failure
import Backtrack.Fragment
import Backtrack.Grammar.Basic
import Backtrack.Grammar.Set
import Backtrack.Grammar.Stock
import Backtrack.Limit
import Backtrack.Main
import Backtrack.Match.Basic
import Backtrack.Match.Engine
import Backtrack.Match.Run
import Backtrack.Number.Binary64
import Backtrack.Pattern.Basic
import Backtrack.Pattern.Build
import Backtrack.Pattern.Display
import Backtrack.Pattern.Equal
import Backtrack.Pattern.Length
import Backtrack.Pattern.Operand
import Backtrack.Pattern.Regex
import Backtrack.Programs.Calculator
import Backtrack.Programs.Console
import Backtrack.Programs.NumberKinds
import Backtrack.Proofs.Contract
import Backtrack.Proofs.GiveBack
import Backtrack.Proofs.Primitives
import Backtrack.Regex.Ast
import Backtrack.Regex.CharSet
import Backtrack.Regex.Compile
import Backtrack.Regex.Error
import Backtrack.Regex.Expr
import Backtrack.Regex.Footprint
import Backtrack.Regex.Parse
import Backtrack.Regex.Program
import Backtrack.Regex.Tables.Age
import Backtrack.Regex.Tables.Break
import Backtrack.Regex.Tables.CaseFold
import Backtrack.Regex.Tables.Category
import Backtrack.Regex.Tables.Names
import Backtrack.Regex.Tables.Property
import Backtrack.Regex.Tables.Script
import Backtrack.Regex.Tables.ScriptExtension
import Backtrack.Regex.Unicode
import Backtrack.Regex.Utf8
import Backtrack.Regex.WordChars
import Backtrack.RegexLibrary
import Backtrack.Rules
import Backtrack.Selection
import Backtrack.Text.Alphabetic
import Backtrack.Text.Alphanumeric
import Backtrack.Text.Escaped
import Backtrack.Text.Position
import Backtrack.Text.Quoted
import Backtrack.Text.RangeTable
import Backtrack.Text.Slice
import Backtrack.Trace
import Backtrack.Word
import Backtrack.Proofs.DepthFirst
import Backtrack.Proofs.NestedChecks
import Backtrack.Proofs.RuleHistory
import Backtrack.Proofs.Balance
import Backtrack.Proofs.DepthLimit
import Backtrack.Proofs.Tidy
import Backtrack.Proofs.Bounds
import Backtrack.Proofs.Measured
import Backtrack.Proofs.LengthBounds
import Backtrack.Proofs.Transcribe
import Backtrack.Proofs.FragmentText
import Backtrack.Proofs.Rejection
import Backtrack.Proofs.Frame
import Backtrack.Proofs.Lookaround
import Backtrack.Proofs.Offers
import Backtrack.Proofs.Reads
import Backtrack.Proofs.Parsing
import Backtrack.Proofs.NumberGrammars
import Backtrack.Proofs.StockChoices
import Backtrack.Proofs.Operators
import Backtrack.Proofs.ReservedWords
import Backtrack.Proofs.ExactBounds
import Backtrack.Proofs.FailurePlaces
import Backtrack.Proofs.ErrorOffsets
import Backtrack.Proofs.Reshaping
import Backtrack.Proofs.RegexGroups
import Backtrack.Regex.Library
import Backtrack.Proofs.RegexSpans
import Backtrack.Proofs.FragmentShapes
import Backtrack.Proofs.NumeralValues
import Backtrack.Proofs.ExpressionTrees
import Backtrack.Proofs.NumberExpressions
import Backtrack.Proofs.LineColumn
