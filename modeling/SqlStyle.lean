import SqlStyle.Check.Basic
import SqlStyle.Check.Dispatch
import SqlStyle.Check.Keyword
import SqlStyle.Check.Layout
import SqlStyle.Check.Parsing
import SqlStyle.Check.Phrase
import SqlStyle.Check.Suite
import SqlStyle.Check.Tree
import SqlStyle.Command.Arguments
import SqlStyle.Command.Documents
import SqlStyle.Command.Run
import SqlStyle.Datum.Basic
import SqlStyle.Datum.Binary
import SqlStyle.Datum.EnvFile
import SqlStyle.Datum.IntegerText
import SqlStyle.Datum.Json
import SqlStyle.Datum.Moment
import SqlStyle.Datum.Reading
import SqlStyle.Datum.Toml
import SqlStyle.Directive
import SqlStyle.Display
import SqlStyle.Display.Plain
import SqlStyle.Engine
import SqlStyle.Fault
import SqlStyle.Grammar.Answer
import SqlStyle.Grammar.Build
import SqlStyle.Grammar.Expr
import SqlStyle.Grammar.Lexeme
import SqlStyle.Ledger.Basic
import SqlStyle.Ledger.Timeline
import SqlStyle.Main
import SqlStyle.Name
import SqlStyle.Proofs.Attribution
import SqlStyle.Proofs.Causality
import SqlStyle.Proofs.Claims
import SqlStyle.Proofs.Collecting
import SqlStyle.Proofs.Detection
import SqlStyle.Proofs.DirectiveSyntax
import SqlStyle.Proofs.Directives
import SqlStyle.Proofs.Dispatch
import SqlStyle.Proofs.DocumentOrder
import SqlStyle.Proofs.Engine
import SqlStyle.Proofs.Escapes
import SqlStyle.Proofs.EventOrder
import SqlStyle.Proofs.Exactness
import SqlStyle.Proofs.Fallback
import SqlStyle.Proofs.Fields
import SqlStyle.Proofs.Flagging
import SqlStyle.Proofs.Headers
import SqlStyle.Proofs.HiddenWords
import SqlStyle.Proofs.Imports
import SqlStyle.Proofs.Indentation
import SqlStyle.Proofs.KeptPromises
import SqlStyle.Proofs.KeptToolkits
import SqlStyle.Proofs.KeywordVerdicts
import SqlStyle.Proofs.Keywords
import SqlStyle.Proofs.Ledger
import SqlStyle.Proofs.Lines
import SqlStyle.Proofs.LookBehind
import SqlStyle.Proofs.Loops
import SqlStyle.Proofs.NodeRanges
import SqlStyle.Proofs.Occurrences
import SqlStyle.Proofs.Offsets.Grammar
import SqlStyle.Proofs.Offsets.Text
import SqlStyle.Proofs.Offsets.Tree
import SqlStyle.Proofs.ParseCache
import SqlStyle.Proofs.ParseFailure
import SqlStyle.Proofs.Positions
import SqlStyle.Proofs.Precedence
import SqlStyle.Proofs.Probing
import SqlStyle.Proofs.Promises
import SqlStyle.Proofs.Punctuation
import SqlStyle.Proofs.Registering
import SqlStyle.Proofs.Reports
import SqlStyle.Proofs.Requests
import SqlStyle.Proofs.Runs
import SqlStyle.Proofs.Scanning
import SqlStyle.Proofs.Segmentation
import SqlStyle.Proofs.StableSort
import SqlStyle.Proofs.Statements
import SqlStyle.Proofs.Streaming
import SqlStyle.Proofs.Suppression
import SqlStyle.Proofs.Translation
import SqlStyle.Proofs.Turns
import SqlStyle.Proofs.UnchangedReports
import SqlStyle.Proofs.UnknownNames
import SqlStyle.Proofs.Verdict
import SqlStyle.Proofs.Words
import SqlStyle.Registry
import SqlStyle.Report
import SqlStyle.Report.Data
import SqlStyle.Rule
import SqlStyle.Scan.Code
import SqlStyle.Scan.Probe
import SqlStyle.Scan.Signed
import SqlStyle.Scan.Word
import SqlStyle.Settings.Basic
import SqlStyle.Settings.Error
import SqlStyle.Settings.Library
import SqlStyle.Settings.Load
import SqlStyle.Settings.Lookup
import SqlStyle.Settings.Standard
import SqlStyle.Source
import SqlStyle.Text.Basic
import SqlStyle.Text.Case
import SqlStyle.Text.CaseTable
import SqlStyle.Text.Class
import SqlStyle.Text.Encoding
import SqlStyle.Text.LetterTable
import SqlStyle.Text.LowerTable
import SqlStyle.Text.Malformed
import SqlStyle.Text.Markup
import SqlStyle.Text.Quoted
import SqlStyle.Text.UnprintableTable
import SqlStyle.Text.Utf8
import SqlStyle.Toolkit.Basic
import SqlStyle.Toolkit.Store
import SqlStyle.Tree.Kind
import SqlStyle.Tree.Node
import SqlStyle.Workspace.Entry
import SqlStyle.Workspace.Path
