import LineGrammar.CommandTable
import LineGrammar.Compiler
import LineGrammar.Definition.Check
import LineGrammar.Definition.Command
import LineGrammar.Definition.Problem
import LineGrammar.Definition.Type
import LineGrammar.Document.Basic
import LineGrammar.Document.Json
import LineGrammar.Expression.Basic
import LineGrammar.Expression.Capture
import LineGrammar.Expression.Explanation
import LineGrammar.Fault
import LineGrammar.Fragment
import LineGrammar.Journal
import LineGrammar.Main
import LineGrammar.Numeral.Binary64
import LineGrammar.Numeral.Decimal
import LineGrammar.Numeral.Integer
import LineGrammar.Numeral.Shortest
import LineGrammar.Outline
import LineGrammar.Pattern.Basic
import LineGrammar.Pattern.Error
import LineGrammar.Pattern.Escape
import LineGrammar.Pattern.Leaf
import LineGrammar.Pattern.Matcher
import LineGrammar.Pattern.Reader
import LineGrammar.Pattern.Symbol
import LineGrammar.Pattern.Syntax
import LineGrammar.Reading.Access
import LineGrammar.Reading.Basic
import LineGrammar.Storage
import LineGrammar.Table
import LineGrammar.Text.Alphanumeric
import LineGrammar.Text.Case
import LineGrammar.Text.CharacterName
import LineGrammar.Text.Identifier
import LineGrammar.Text.Names.Alphabets
import LineGrammar.Text.Names.Ancient
import LineGrammar.Text.Names.Basic
import LineGrammar.Text.Names.Cuneiform
import LineGrammar.Text.Names.EastAsian
import LineGrammar.Text.Names.Notation
import LineGrammar.Text.Names.Pictographs
import LineGrammar.Text.Names.Scripts
import LineGrammar.Text.Names.Symbols
import LineGrammar.Text.Printable
import LineGrammar.Text.Quoted
import LineGrammar.Text.Ranges
import LineGrammar.Text.Space
import LineGrammar.Token
import LineGrammar.TypeTable
import LineGrammar.Value
import LineGrammar.Workspace.Basic
import LineGrammar.Workspace.Commands
import LineGrammar.Workspace.Demonstration
import LineGrammar.Workspace.Library
import LineGrammar.Workspace.Service
import LineGrammar.Workspace.Tools
import LineGrammar.Yaml.Basic
import LineGrammar.Yaml.Cursor
import LineGrammar.Yaml.Meaning
import LineGrammar.Yaml.Node
import LineGrammar.Yaml.Scalar
import LineGrammar.Yaml.Scanner
import LineGrammar.Yaml.Token
import LineGrammar.Yaml.Written
import LineGrammar.Proofs.Characters
import LineGrammar.Proofs.Texts
import LineGrammar.Proofs.Pattern.Ways
import LineGrammar.Proofs.Pattern.Recognition
import LineGrammar.Proofs.Pattern.Branches
import LineGrammar.Proofs.Pattern.Leading
import LineGrammar.Proofs.Pattern.Spelling
import LineGrammar.Proofs.Pattern.Grouping
import LineGrammar.Proofs.Pattern.Meaning
import LineGrammar.Proofs.Pattern.Words
import LineGrammar.Proofs.Fragments
import LineGrammar.Proofs.Tokens
import LineGrammar.Proofs.Phrase
import LineGrammar.Proofs.Filling
import LineGrammar.Proofs.Preference
import LineGrammar.Proofs.Walks
import LineGrammar.Proofs.Lines
import LineGrammar.Proofs.Matching
import LineGrammar.Proofs.Laziness
import LineGrammar.Proofs.Elements
import LineGrammar.Proofs.Splitting
import LineGrammar.Proofs.Lists
import LineGrammar.Proofs.Keywords
import LineGrammar.Proofs.Quoting
import LineGrammar.Proofs.Actions
import LineGrammar.Proofs.Compilation
import LineGrammar.Proofs.Workbench
import LineGrammar.Proofs.Definitions
import LineGrammar.Proofs.Sessions
import LineGrammar.Proofs.CommandResults
import LineGrammar.Proofs.Saving
import LineGrammar.Proofs.Pattern.Progress
import LineGrammar.Proofs.Pattern.Agreement
import LineGrammar.Proofs.Pattern.Standalone
import LineGrammar.Proofs.Pattern.Positions
import LineGrammar.Proofs.Containment
import LineGrammar.Proofs.Pattern.Detachment
import LineGrammar.Proofs.Standing
import LineGrammar.Proofs.Splitters
import LineGrammar.Proofs.Faults
import LineGrammar.Proofs.Alignment
import LineGrammar.Proofs.Opening
import LineGrammar.Proofs.Roster
import LineGrammar.Proofs.Refinement
import LineGrammar.Proofs.Registration
import LineGrammar.Proofs.Reloading
import LineGrammar.Proofs.Introspection
import LineGrammar.Proofs.Brackets
import LineGrammar.Proofs.Outlines
import LineGrammar.Proofs.Scans
import LineGrammar.Proofs.Pattern.Greedy
import LineGrammar.Proofs.TokenPattern
import LineGrammar.Proofs.Tokenization
import LineGrammar.Proofs.Contents
import LineGrammar.Proofs.Calls
import LineGrammar.Proofs.Escapes
import LineGrammar.Proofs.Pattern.Locality
import LineGrammar.Proofs.Pattern.Undivided
import LineGrammar.Proofs.QuotedTypes
import LineGrammar.Proofs.TypedLists
import LineGrammar.Proofs.ChoiceLists
import LineGrammar.Proofs.PatternLists
import LineGrammar.Proofs.Literals
import LineGrammar.Proofs.Numerals
import LineGrammar.Proofs.Dispatching
import LineGrammar.Proofs.Bounds
import LineGrammar.Proofs.Choices
import LineGrammar.Proofs.Respacing
import LineGrammar.Proofs.Layout
import LineGrammar.Proofs.Independence
import LineGrammar.Proofs.Pattern.Counts
import LineGrammar.Proofs.TypeRegistration
import LineGrammar.Proofs.TypeFiles
import LineGrammar.Proofs.WrittenTypes
import LineGrammar.Proofs.CommandChecks
import LineGrammar.Proofs.ChoiceConstraints
import LineGrammar.Proofs.SwitchedPatterns
import LineGrammar.Proofs.Bookkeeping
import LineGrammar.Proofs.SkippedCommands
