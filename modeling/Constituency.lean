import Constituency.Accepted
import Constituency.Analyzer
import Constituency.CharSet
import Constituency.CommandLine
import Constituency.Cursor
import Constituency.Folder
import Constituency.Grammar.Basic
import Constituency.Grammar.Equality
import Constituency.Grammar.Error
import Constituency.Grammar.Expr
import Constituency.Grammar.Reader
import Constituency.Korean.Grammar
import Constituency.Korean.Tags
import Constituency.LabelSet
import Constituency.Main
import Constituency.PairOrder
import Constituency.Parser.Basic
import Constituency.Parser.Evaluate
import Constituency.Parser.Run
import Constituency.Pattern
import Constituency.Proofs.Analysis.Citations
import Constituency.Proofs.Analysis.Conservation
import Constituency.Proofs.Analysis.Detail
import Constituency.Proofs.Analysis.Punctuation
import Constituency.Proofs.Analysis.RenameSite
import Constituency.Proofs.Analysis.Renames
import Constituency.Proofs.Analysis.Renumbering
import Constituency.Proofs.Analysis.Sentences
import Constituency.Proofs.CommandLine.Session
import Constituency.Proofs.Grammar.Acceptance
import Constituency.Proofs.Grammar.Bodies
import Constituency.Proofs.Grammar.Closed
import Constituency.Proofs.Grammar.Form
import Constituency.Proofs.Grammar.Language
import Constituency.Proofs.Grammar.Reading
import Constituency.Proofs.Grammar.Refusal
import Constituency.Proofs.Grammar.RoundTrip
import Constituency.Proofs.Grammar.Writing
import Constituency.Proofs.Korean.Guard
import Constituency.Proofs.Korean.Idempotence
import Constituency.Proofs.Korean.Punctuation
import Constituency.Proofs.Korean.Renames
import Constituency.Proofs.Korean.Renumbering
import Constituency.Proofs.Parser.Account
import Constituency.Proofs.Parser.Alike
import Constituency.Proofs.Parser.Alternatives
import Constituency.Proofs.Parser.Barrier
import Constituency.Proofs.Parser.Budget
import Constituency.Proofs.Parser.Calls
import Constituency.Proofs.Parser.Consistency
import Constituency.Proofs.Parser.Course
import Constituency.Proofs.Parser.Derivation
import Constituency.Proofs.Parser.Diagnosis
import Constituency.Proofs.Parser.Execution
import Constituency.Proofs.Parser.FinalMark
import Constituency.Proofs.Parser.Generation
import Constituency.Proofs.Parser.Leading
import Constituency.Proofs.Parser.Likeness
import Constituency.Proofs.Parser.Memory
import Constituency.Proofs.Parser.Once
import Constituency.Proofs.Parser.Order
import Constituency.Proofs.Parser.Parts
import Constituency.Proofs.Parser.Placement
import Constituency.Proofs.Parser.Regrouping
import Constituency.Proofs.Parser.Savings
import Constituency.Proofs.Parser.Sentence
import Constituency.Proofs.Parser.Shift
import Constituency.Proofs.Parser.Simulation
import Constituency.Proofs.Parser.SingleSteps
import Constituency.Proofs.Parser.Spans
import Constituency.Proofs.Parser.State
import Constituency.Proofs.Parser.Termination
import Constituency.Proofs.Parser.Words
import Constituency.Proofs.Regex.Absorption
import Constituency.Proofs.Regex.Assembly
import Constituency.Proofs.Regex.Automaton
import Constituency.Proofs.Regex.Classes
import Constituency.Proofs.Regex.Code
import Constituency.Proofs.Regex.Completeness
import Constituency.Proofs.Regex.Form
import Constituency.Proofs.Regex.Frame
import Constituency.Proofs.Regex.Groups
import Constituency.Proofs.Regex.Locality
import Constituency.Proofs.Regex.Pieces
import Constituency.Proofs.Regex.Prefix
import Constituency.Proofs.Regex.Repetitions
import Constituency.Proofs.Regex.Search
import Constituency.Proofs.Regex.Separators
import Constituency.Proofs.Regex.Spelling
import Constituency.Proofs.Regex.Template
import Constituency.Proofs.Regex.Ways
import Constituency.Proofs.TagTable.Applications
import Constituency.Proofs.TagTable.Closed
import Constituency.Proofs.TagTable.Ending
import Constituency.Proofs.TagTable.Glossary
import Constituency.Proofs.TagTable.Language
import Constituency.Proofs.TagTable.Minted
import Constituency.Proofs.TagTable.Pass
import Constituency.Proofs.TagTable.Priority
import Constituency.Proofs.TagTable.Reading
import Constituency.Proofs.TagTable.Registry
import Constituency.Proofs.TagTable.Renumber
import Constituency.Proofs.TagTable.Shown
import Constituency.Proofs.TagTable.Span
import Constituency.Proofs.Text.Lines
import Constituency.Proofs.Text.Trimming
import Constituency.Proofs.Token.Parts
import Constituency.Proofs.Token.Reread
import Constituency.Proofs.Token.RoundTrip
import Constituency.Proofs.Token.Sentences
import Constituency.Proofs.Tree.Address
import Constituency.Proofs.Tree.Children
import Constituency.Proofs.Tree.Elision
import Constituency.Proofs.Tree.Exact
import Constituency.Proofs.Tree.Labels
import Constituency.Proofs.Tree.Leaves
import Constituency.Proofs.Tree.Nearest
import Constituency.Proofs.Tree.Outline
import Constituency.Proofs.Tree.Phrases
import Constituency.Proofs.Tree.Pruning
import Constituency.Proofs.Tree.Renaming
import Constituency.Proofs.Tree.Splicing
import Constituency.Proofs.Tree.Tokens
import Constituency.Regex.Captures
import Constituency.Regex.Error
import Constituency.Regex.Node
import Constituency.Regex.Part
import Constituency.Regex.Program
import Constituency.Regex.Reader
import Constituency.Regex.Scan
import Constituency.Regex.Search
import Constituency.Regex.Size
import Constituency.TagTable.Basic
import Constituency.TagTable.PatternSpan
import Constituency.TagTable.Reader
import Constituency.TagTable.Rename
import Constituency.TagTable.Retag
import Constituency.TagTable.Rule
import Constituency.TagTable.SyntheticTag
import Constituency.Text.Blank
import Constituency.Text.CaseFold
import Constituency.Text.Hexadecimal
import Constituency.Text.Letter
import Constituency.Text.Lexeme
import Constituency.Text.Natural
import Constituency.Text.Quoted
import Constituency.Text.Ranges
import Constituency.Text.Split
import Constituency.Token
import Constituency.Tree
import Constituency.Tree.Normal
import Constituency.Tree.Phrases
import Constituency.Unicode.Age
import Constituency.Unicode.Category
import Constituency.Unicode.Property
import Constituency.Unicode.Query
import Constituency.Unicode.Script
import Constituency.Unicode.Segment
import Constituency.Unicode.Table
