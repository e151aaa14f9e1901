import RecordSearch.Command.Disk
import RecordSearch.Command.Execution
import RecordSearch.Command.Line
import RecordSearch.Command.Options
import RecordSearch.Command.Path
import RecordSearch.Command.Request
import RecordSearch.Command.Run
import RecordSearch.Expression.Call
import RecordSearch.Expression.CharacterName
import RecordSearch.Expression.Enclosure
import RecordSearch.Expression.Escape
import RecordSearch.Expression.Fault
import RecordSearch.Expression.Function
import RecordSearch.Expression.Grammar
import RecordSearch.Expression.Literal
import RecordSearch.Expression.Loop
import RecordSearch.Expression.NameCharacter
import RecordSearch.Expression.Numeral
import RecordSearch.Expression.Operation
import RecordSearch.Expression.Parser
import RecordSearch.Expression.Reading
import RecordSearch.Expression.Source
import RecordSearch.Expression.Template
import RecordSearch.Expression.Token
import RecordSearch.Expression.Tree
import RecordSearch.Json.Basic
import RecordSearch.Json.Lexeme
import RecordSearch.Json.Printer
import RecordSearch.Json.Reader
import RecordSearch.Main
import RecordSearch.Markup.Color
import RecordSearch.Markup.Handler
import RecordSearch.Markup.Piece
import RecordSearch.Markup.Shown
import RecordSearch.Markup.Style
import RecordSearch.Note
import RecordSearch.Number.Binary64
import RecordSearch.Number.Shortest
import RecordSearch.Query.Building
import RecordSearch.Query.Condition
import RecordSearch.Query.Description
import RecordSearch.Query.Item
import RecordSearch.Query.Matching
import RecordSearch.Query.Reading
import RecordSearch.Query.Token
import RecordSearch.Record.Basic
import RecordSearch.Record.Document
import RecordSearch.Report.DisplayFault
import RecordSearch.Report.Grid
import RecordSearch.Report.Outline
import RecordSearch.Report.Problem
import RecordSearch.Report.Result
import RecordSearch.Report.Serializer
import RecordSearch.Report.StandardTerminal
import RecordSearch.Report.Table
import RecordSearch.Report.Terminal
import RecordSearch.Sharing.Session
import RecordSearch.Sharing.Store
import RecordSearch.Text.Blank
import RecordSearch.Text.Digit
import RecordSearch.Text.Lines
import RecordSearch.Text.LowerCase
import RecordSearch.Text.Printable
import RecordSearch.Text.Quoted
import RecordSearch.Text.Ranges
import RecordSearch.Text.Similar
import RecordSearch.Text.Utf8
import RecordSearch.Text.Width
import RecordSearch.Text.Word
import RecordSearch.Text.Wrap
import RecordSearch.Proofs.Cutting
import RecordSearch.Proofs.Occurrences
import RecordSearch.Proofs.Paired
import RecordSearch.Proofs.Tree
import RecordSearch.Proofs.Normal
import RecordSearch.Proofs.Leaf
import RecordSearch.Proofs.Fragment
import RecordSearch.Proofs.SingleConditions
import RecordSearch.Proofs.RoundTrip
import RecordSearch.Proofs.Composition
import RecordSearch.Proofs.ReadTree
import RecordSearch.Proofs.Windows
import RecordSearch.Proofs.StackMachine
import RecordSearch.Proofs.Accounting
import RecordSearch.Proofs.Rewriting
import RecordSearch.Proofs.Additions
import RecordSearch.Proofs.Sharing
import RecordSearch.Proofs.Rejections
import RecordSearch.Proofs.Saving
import RecordSearch.Proofs.Folding
import RecordSearch.Proofs.JoinedLexemes
import RecordSearch.Proofs.Enclosed
import RecordSearch.Proofs.Layouts
import RecordSearch.Proofs.LineGaps
import RecordSearch.Proofs.LineEnds
import RecordSearch.Proofs.Recovery
import RecordSearch.Proofs.Tokens
import RecordSearch.Proofs.WrittenScalars
import RecordSearch.Proofs.PrintedJson
import RecordSearch.Proofs.QuotedText
import RecordSearch.Proofs.Outlines
import RecordSearch.Proofs.Displayed
import RecordSearch.Proofs.PlainTexts
import RecordSearch.Proofs.Attempts
import RecordSearch.Proofs.NestedRecords
import RecordSearch.Proofs.Reports
import RecordSearch.Proofs.DrawnTrees
import RecordSearch.Proofs.Selections
