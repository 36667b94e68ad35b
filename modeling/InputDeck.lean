import InputDeck.Entries
import InputDeck.Formula.Eval
import InputDeck.Formula.Expr
import InputDeck.Formula.Fault
import InputDeck.Formula.Lexer
import InputDeck.Formula.Parser
import InputDeck.Json.Basic
import InputDeck.Json.Description
import InputDeck.Json.Token
import InputDeck.Marker.Style
import InputDeck.Model.Basic
import InputDeck.Model.BuiltIn
import InputDeck.Model.Description
import InputDeck.Number.Decimal
import InputDeck.Number.Notation
import InputDeck.Number.Shortest
import InputDeck.Number.Word
import InputDeck.Pattern.AutomatonSize
import InputDeck.Pattern.Basic
import InputDeck.Pattern.ByteRanges
import InputDeck.Pattern.CharRanges
import InputDeck.Pattern.CharSet
import InputDeck.Pattern.ClassParser
import InputDeck.Pattern.Expression
import InputDeck.Pattern.ExpressionParser
import InputDeck.Pattern.Glob
import InputDeck.Pattern.Plan
import InputDeck.Report.Directory
import InputDeck.Report.Extract
import InputDeck.Report.Number
import InputDeck.Report.Operation
import InputDeck.Report.Rule
import InputDeck.Report.RuleParser
import InputDeck.Report.Stage
import InputDeck.Session
import InputDeck.Sweep
import InputDeck.Template.Basic
import InputDeck.Template.Cursor
import InputDeck.Template.Domain
import InputDeck.Template.Fault
import InputDeck.Template.Occurrence
import InputDeck.Template.Piece
import InputDeck.Template.Slot
import InputDeck.Template.Variables
import InputDeck.Text.Basic
import InputDeck.Text.CaseFolding
import InputDeck.Text.DecimalDigit
import InputDeck.Text.Lines
import InputDeck.Text.Printable
import InputDeck.Text.Quoted
import InputDeck.Text.Ranges
import InputDeck.Text.Search
import InputDeck.Text.Slices
import InputDeck.Text.Utf8
import InputDeck.Text.WordCharacter
import InputDeck.Value.Arithmetic
import InputDeck.Value.Basic
import InputDeck.Proofs.Template.Balance
import InputDeck.Proofs.Template.Scanning
import InputDeck.Proofs.Template.Placement
import InputDeck.Proofs.Template.MatchingDelimiters
import InputDeck.Proofs.Template.Nesting
import InputDeck.Proofs.Template.Cursor
import InputDeck.Proofs.Template.Completeness
import InputDeck.Proofs.Template.Splicing
import InputDeck.Proofs.Template.Compilation
import InputDeck.Proofs.Template.Rewriting
import InputDeck.Proofs.Template.Filling
import InputDeck.Proofs.Formula.Reading
import InputDeck.Proofs.Formula.Exchange
import InputDeck.Proofs.Formula.Numbers
import InputDeck.Proofs.Template.Substitution
import InputDeck.Proofs.Formula.Evaluation
import InputDeck.Proofs.Template.Failures
import InputDeck.Proofs.Template.Scope
import InputDeck.Proofs.Template.Concatenation
import InputDeck.Proofs.Template.Settled
import InputDeck.Proofs.Formula.Grammar
import InputDeck.Proofs.Formula.Spelling
import InputDeck.Proofs.Formula.Rendering
import InputDeck.Proofs.Number.Rounding
import InputDeck.Proofs.Number.Storage
import InputDeck.Proofs.Number.ReadBack
import InputDeck.Proofs.Formula.Printed
import InputDeck.Proofs.Template.BareMarks
import InputDeck.Proofs.Template.Naming
import InputDeck.Proofs.Template.NestedName
import InputDeck.Proofs.Text.Trimming
import InputDeck.Proofs.Template.Holes
import InputDeck.Proofs.Pattern.GlobClass
import InputDeck.Proofs.Pattern.GlobMatching
import InputDeck.Proofs.Pattern.GlobMeaning
import InputDeck.Proofs.Pattern.GlobReaders
import InputDeck.Proofs.Number.Integer
import InputDeck.Proofs.Text.Letters
import InputDeck.Proofs.Report.Stages
import InputDeck.Proofs.Report.Pipelines
import InputDeck.Proofs.Report.Printing
import InputDeck.Proofs.Report.ChainTokens
import InputDeck.Proofs.Value.PrintedNumbers
import InputDeck.Proofs.Entries
import InputDeck.Proofs.Report.Batches
import InputDeck.Proofs.Report.Shapes
import InputDeck.Proofs.Text.Bytes
import InputDeck.Proofs.Text.ByteOrder
import InputDeck.Proofs.Report.MatchingLines
import InputDeck.Proofs.Template.Declarations
import InputDeck.Proofs.Template.Defaults
import InputDeck.Proofs.Template.Mentions
import InputDeck.Proofs.Text.Returns
import InputDeck.Proofs.Template.LineEnds
import InputDeck.Proofs.Model.Outputs
import InputDeck.Proofs.Text.Searching
import InputDeck.Proofs.Template.DeclaredSlots
import InputDeck.Proofs.Template.HiddenMarkers
import InputDeck.Proofs.Number.Range
import InputDeck.Proofs.Number.Comparison
import InputDeck.Proofs.Value.Literals
import InputDeck.Proofs.Template.WrittenDomains
import InputDeck.Proofs.Template.WellFormedDomains
import InputDeck.Proofs.Template.WrittenInfinities
import InputDeck.Proofs.Template.Positions
import InputDeck.Proofs.Value.FiniteNumbers
import InputDeck.Proofs.Formula.FiniteValues
import InputDeck.Proofs.Number.Words
import InputDeck.Proofs.Value.WholeNumbers
import InputDeck.Proofs.Formula.WholeNumbers
import InputDeck.Proofs.Formula.Powers
import InputDeck.Proofs.Sweep.Cases
import InputDeck.Proofs.Sweep.Counting
import InputDeck.Proofs.Sweep.Labels
import InputDeck.Proofs.Number.WordOrder
import InputDeck.Proofs.Formula.Extremes
import InputDeck.Proofs.Report.Selections
import InputDeck.Proofs.Report.Failures
import InputDeck.Proofs.Report.Admission
import InputDeck.Proofs.Number.Nearest
import InputDeck.Proofs.Number.Numerals
import InputDeck.Proofs.Report.Numbers
import InputDeck.Proofs.Report.Endings
import InputDeck.Proofs.Report.Offsets
import InputDeck.Proofs.Report.FaultPositions
import InputDeck.Proofs.Session
