import Indentation.Breakdown
import Indentation.Builtin
import Indentation.Character.Blank
import Indentation.Character.Hex
import Indentation.Character.Identifier
import Indentation.Character.Letter
import Indentation.Character.LetterCase
import Indentation.Character.Numeral
import Indentation.Character.Printable
import Indentation.Character.Range
import Indentation.Cli
import Indentation.Cli.Help
import Indentation.Cli.Indent
import Indentation.Cli.Options
import Indentation.Config
import Indentation.Config.Changes
import Indentation.Config.Fault
import Indentation.Context
import Indentation.Decisions
import Indentation.Diagnostic
import Indentation.Document
import Indentation.Editor.Units
import Indentation.Editor.Uri
import Indentation.Editor.Workspace
import Indentation.FileSystem
import Indentation.IndentRules
import Indentation.Language
import Indentation.Lexer
import Indentation.Lexer.Emission
import Indentation.Lexer.Scan
import Indentation.Lexer.State
import Indentation.LineSource
import Indentation.Listing
import Indentation.Main
import Indentation.Path
import Indentation.Pattern
import Indentation.Pattern.CharClass
import Indentation.Pattern.CharSet
import Indentation.Pattern.Choice
import Indentation.Pattern.Escape
import Indentation.Pattern.Fault
import Indentation.Pattern.Flags
import Indentation.Pattern.Match
import Indentation.Pattern.Node
import Indentation.Pattern.Progress
import Indentation.Pattern.Reader
import Indentation.Pattern.Repetition
import Indentation.Range
import Indentation.Registry
import Indentation.Report
import Indentation.Sanitize
import Indentation.Scope
import Indentation.Text.Basic
import Indentation.Text.Escaped
import Indentation.Text.Integer
import Indentation.Text.Lines
import Indentation.Text.Margin
import Indentation.Text.Quoted
import Indentation.Text.Utf8
import Indentation.Token
import Indentation.TokenizedLine
import Indentation.Toml.Document
import Indentation.Toml.Number
import Indentation.Toml.Reader
import Indentation.Toml.Value
import Indentation.Proofs.Search
import Indentation.Proofs.Items
import Indentation.Proofs.Steps
import Indentation.Proofs.Runs
import Indentation.Proofs.Emission
import Indentation.Proofs.Slices
import Indentation.Proofs.Cuts
import Indentation.Proofs.NestedSlices
import Indentation.Proofs.Scopes
import Indentation.Proofs.Cleaning
import Indentation.Proofs.Memo
import Indentation.Proofs.ServedLines
import Indentation.Proofs.CaretContext
import Indentation.Proofs.LiteralBodies
import Indentation.Proofs.Lookup
import Indentation.Proofs.LiteralBrackets
import Indentation.Proofs.RegionClose
import Indentation.Proofs.LineBreaks
import Indentation.Proofs.ReachableStates
import Indentation.Proofs.ReferentialIntegrity
import Indentation.Proofs.Histories
import Indentation.Proofs.LineEnds
import Indentation.Proofs.TextBelow
import Indentation.Proofs.Surfaces
import Indentation.Proofs.Positions
import Indentation.Proofs.Shapes
import Indentation.Proofs.ConfigShape
import Indentation.Proofs.Overrides
import Indentation.Proofs.TableOrder
import Indentation.Proofs.Termination
import Indentation.Proofs.Utf8
import Indentation.Proofs.Outcomes
import Indentation.Proofs.Stripping
import Indentation.Proofs.KeptText
import Indentation.Proofs.CaretSplit
import Indentation.Proofs.Selections
import Indentation.Proofs.Operands
import Indentation.Proofs.Extensions
import Indentation.Proofs.Margins
import Indentation.Proofs.Json
import Indentation.Proofs.Reports
import Indentation.Proofs.ReadNumbers
import Indentation.Proofs.Literals
import Indentation.Proofs.SelectionOrder
