import TableParsing.Analysis
import TableParsing.Automaton.Basic
import TableParsing.Automaton.Closure
import TableParsing.Automaton.Item
import TableParsing.Console.Command
import TableParsing.Console.Dialogue
import TableParsing.Console.Options
import TableParsing.Data.CellMap
import TableParsing.Data.OrderedMap
import TableParsing.Data.SortedSet
import TableParsing.Data.Word
import TableParsing.Diagnostic
import TableParsing.Export
import TableParsing.FileTree
import TableParsing.Grammar.Augmented
import TableParsing.Grammar.Basic
import TableParsing.Grammar.Production
import TableParsing.Host.Address
import TableParsing.Host.Label
import TableParsing.Host.Name
import TableParsing.Host.Punycode
import TableParsing.Main
import TableParsing.Notation.Compact
import TableParsing.Notation.Error
import TableParsing.Notation.RuleLine
import TableParsing.Notation.Source
import TableParsing.Notation.Spaced
import TableParsing.Notation.Tokens
import TableParsing.OnConflict
import TableParsing.ParseResult
import TableParsing.Parser
import TableParsing.Predictive.Run
import TableParsing.Predictive.Table
import TableParsing.Proofs.Agreement
import TableParsing.Proofs.Automaton.Closure
import TableParsing.Proofs.Automaton.Collection
import TableParsing.Proofs.Automaton.Completion
import TableParsing.Proofs.Automaton.LeastClosure
import TableParsing.Proofs.Automaton.States
import TableParsing.Proofs.Automaton.SyntheticStart
import TableParsing.Proofs.Automaton.Validity
import TableParsing.Proofs.Blame
import TableParsing.Proofs.Caching
import TableParsing.Proofs.Data.Collections
import TableParsing.Proofs.Data.Contest
import TableParsing.Proofs.Grammar.Augmented
import TableParsing.Proofs.Grammar.Declared
import TableParsing.Proofs.Grammar.Derivation
import TableParsing.Proofs.Grammar.Recasting
import TableParsing.Proofs.Grammar.Reordering
import TableParsing.Proofs.Grammar.Upkeep
import TableParsing.Proofs.Modes
import TableParsing.Proofs.Notation.RoundTrip
import TableParsing.Proofs.Notation.RuleLine
import TableParsing.Proofs.Notation.Tokens
import TableParsing.Proofs.Notation.Written
import TableParsing.Proofs.Predictive.Cells
import TableParsing.Proofs.Predictive.Conflicts
import TableParsing.Proofs.Predictive.Derivation
import TableParsing.Proofs.Predictive.Halting
import TableParsing.Proofs.Predictive.Language
import TableParsing.Proofs.Predictive.Limit
import TableParsing.Proofs.Predictive.Safety
import TableParsing.Proofs.Predictive.Tables
import TableParsing.Proofs.Renaming
import TableParsing.Proofs.Reordering
import TableParsing.Proofs.Repeats
import TableParsing.Proofs.Sets.Closed
import TableParsing.Proofs.Sets.Exactness
import TableParsing.Proofs.Sets.Log
import TableParsing.Proofs.Sets.Lookahead
import TableParsing.Proofs.Sets.Markers
import TableParsing.Proofs.Sets.Rules
import TableParsing.Proofs.Sets.Saturation
import TableParsing.Proofs.Sets.Unmarked
import TableParsing.Proofs.Sheet.Layout
import TableParsing.Proofs.Sheet.Rows
import TableParsing.Proofs.ShiftReduce.Cells
import TableParsing.Proofs.ShiftReduce.Circles
import TableParsing.Proofs.ShiftReduce.Conflicts
import TableParsing.Proofs.ShiftReduce.Derivation
import TableParsing.Proofs.ShiftReduce.Halting
import TableParsing.Proofs.ShiftReduce.Language
import TableParsing.Proofs.ShiftReduce.Limit
import TableParsing.Proofs.ShiftReduce.Lockstep
import TableParsing.Proofs.ShiftReduce.Recasting
import TableParsing.Proofs.ShiftReduce.Reordering
import TableParsing.Proofs.ShiftReduce.Reports
import TableParsing.Proofs.ShiftReduce.Safety
import TableParsing.Proofs.ShiftReduce.Tables
import TableParsing.Proofs.Text.Blank
import TableParsing.Proofs.Transparency
import TableParsing.Proofs.Workbench.Effects
import TableParsing.Service.Request
import TableParsing.Service.Routes
import TableParsing.Service.Target
import TableParsing.Service.Value
import TableParsing.Sets.First
import TableParsing.Sets.Follow
import TableParsing.Sets.Growth
import TableParsing.Settings
import TableParsing.Sheet.Csv
import TableParsing.Sheet.Layout
import TableParsing.Sheet.Rows
import TableParsing.ShiftReduce.Action
import TableParsing.ShiftReduce.Builder
import TableParsing.ShiftReduce.Claims
import TableParsing.ShiftReduce.Run
import TableParsing.Symbol
import TableParsing.Text.Blank
import TableParsing.Text.Composition
import TableParsing.Text.Direction
import TableParsing.Text.Folded
import TableParsing.Text.Integer
import TableParsing.Text.Joining
import TableParsing.Text.Lines
import TableParsing.Text.Lowercase
import TableParsing.Text.Mark
import TableParsing.Text.Permitted
import TableParsing.Text.Printable
import TableParsing.Text.Quoted
import TableParsing.Text.Script
import TableParsing.Text.Uppercase
import TableParsing.Workbench.Answer
import TableParsing.Workbench.Basic
import TableParsing.Workbench.Command
