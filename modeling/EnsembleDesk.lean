import EnsembleDesk.Assist.Completion
import EnsembleDesk.Assist.Hover
import EnsembleDesk.Book.Basic
import EnsembleDesk.Book.DelimitedFile
import EnsembleDesk.Book.Format
import EnsembleDesk.Book.JsonFile
import EnsembleDesk.Density.Bisection
import EnsembleDesk.Density.ErrorFunction
import EnsembleDesk.Density.Family
import EnsembleDesk.Density.LogGamma
import EnsembleDesk.Density.Masses
import EnsembleDesk.Density.Picture
import EnsembleDesk.Density.Plot
import EnsembleDesk.Density.Preview
import EnsembleDesk.Density.Special
import EnsembleDesk.Density.Triangle
import EnsembleDesk.Grammar.Basic
import EnsembleDesk.Grammar.Dist
import EnsembleDesk.Grammar.Ert
import EnsembleDesk.Grammar.Line
import EnsembleDesk.Grammar.Table
import EnsembleDesk.Host.Messages
import EnsembleDesk.Json.Basic
import EnsembleDesk.Json.Number
import EnsembleDesk.Json.Printer
import EnsembleDesk.Json.Reader
import EnsembleDesk.Json.Record
import EnsembleDesk.Json.Written
import EnsembleDesk.Language
import EnsembleDesk.Line.Argument
import EnsembleDesk.Line.Diagnostic
import EnsembleDesk.Line.Prior
import EnsembleDesk.Line.Refinement
import EnsembleDesk.Line.Word
import EnsembleDesk.Number.Binary64
import EnsembleDesk.Number.Decimal
import EnsembleDesk.Number.Layout
import EnsembleDesk.Number.Scalar
import EnsembleDesk.Number.Shortest
import EnsembleDesk.Pattern.Basic
import EnsembleDesk.Pattern.Bracket
import EnsembleDesk.Pattern.CharSet
import EnsembleDesk.Pattern.Normal
import EnsembleDesk.Pattern.Reader
import EnsembleDesk.Pattern.Written
import EnsembleDesk.Schema.Basic
import EnsembleDesk.Schema.Choices
import EnsembleDesk.Schema.Dist
import EnsembleDesk.Schema.Ert
import EnsembleDesk.Session.Basic
import EnsembleDesk.Session.Gesture
import EnsembleDesk.Session.Host
import EnsembleDesk.Session.OpenFile
import EnsembleDesk.Session.Outcome
import EnsembleDesk.Session.Run
import EnsembleDesk.Session.UndoLog
import EnsembleDesk.Session.ViewState
import EnsembleDesk.Session.Writing
import EnsembleDesk.Settings.Grid
import EnsembleDesk.Settings.Services
import EnsembleDesk.Settings.Store
import EnsembleDesk.Sheet.Address
import EnsembleDesk.Sheet.Basic
import EnsembleDesk.Sheet.CellValue
import EnsembleDesk.Sheet.Date
import EnsembleDesk.Sheet.Index
import EnsembleDesk.Sheet.Problem
import EnsembleDesk.Sheet.Range
import EnsembleDesk.Sheet.Selection
import EnsembleDesk.Sheet.Sizes
import EnsembleDesk.Sheet.Sparse
import EnsembleDesk.Sheet.Viewport
import EnsembleDesk.Text.UnicodeTables
import EnsembleDesk.Text.Bytes
import EnsembleDesk.Text.CharClass
import EnsembleDesk.Text.CodePoints
import EnsembleDesk.Text.Delimited
import EnsembleDesk.Text.Lines
import EnsembleDesk.Text.Quoted
import EnsembleDesk.Text.Tabbed
import EnsembleDesk.Token
import EnsembleDesk.Proofs.Sheet.Tables
import EnsembleDesk.Proofs.Sheet.Sizes
import EnsembleDesk.Proofs.Book.Cells
import EnsembleDesk.Proofs.Result
import EnsembleDesk.Proofs.Session.Rewind
import EnsembleDesk.Proofs.Session.Content
import EnsembleDesk.Proofs.Session.Changes
import EnsembleDesk.Proofs.Session.Events
import EnsembleDesk.Proofs.Session.Opening
import EnsembleDesk.Proofs.Session.UndoInverse
import EnsembleDesk.Proofs.Session.SavePoint
import EnsembleDesk.Proofs.Sheet.UsedRange
import EnsembleDesk.Proofs.Book.Reading
import EnsembleDesk.Proofs.Book.Built
import EnsembleDesk.Proofs.Session.UsedRange
import EnsembleDesk.Proofs.Text.Digits
import EnsembleDesk.Proofs.Sheet.AddressText
import EnsembleDesk.Proofs.Sheet.DateText
import EnsembleDesk.Proofs.Json.Settled
import EnsembleDesk.Proofs.Json.Scalars
import EnsembleDesk.Proofs.Json.ReadBack
import EnsembleDesk.Proofs.Book.JsonSheet
import EnsembleDesk.Proofs.Book.JsonRoundTrip
import EnsembleDesk.Proofs.Session.Anchor
import EnsembleDesk.Proofs.Session.Typing
import EnsembleDesk.Proofs.Pattern.Ends
import EnsembleDesk.Proofs.Grammar.Tiling
import EnsembleDesk.Proofs.Line.Covering
import EnsembleDesk.Proofs.Pattern.Runs
import EnsembleDesk.Proofs.Text.Words
import EnsembleDesk.Proofs.Grammar.WordModes
import EnsembleDesk.Proofs.Line.PriorLine
import EnsembleDesk.Proofs.Session.CopyPaste
import EnsembleDesk.Proofs.Line.PriorPreview
import EnsembleDesk.Proofs.Sheet.Lines
import EnsembleDesk.Proofs.Session.Reopening
import EnsembleDesk.Proofs.Line.Misfits
import EnsembleDesk.Proofs.Session.Refusals
import EnsembleDesk.Proofs.Session.Names
import EnsembleDesk.Proofs.Session.Steps
import EnsembleDesk.Proofs.Session.InPlace
import EnsembleDesk.Proofs.Text.Delimited
import EnsembleDesk.Proofs.Book.DelimitedRoundTrip
import EnsembleDesk.Proofs.Number.Rounding
import EnsembleDesk.Proofs.Number.Shortest
import EnsembleDesk.Proofs.Json.Scaling
import EnsembleDesk.Proofs.Json.NumberText
import EnsembleDesk.Proofs.Book.JsonReadable
import EnsembleDesk.Proofs.Book.JsonNumbers
import EnsembleDesk.Proofs.Session.SavedFile
import EnsembleDesk.Proofs.Session.Parts
import EnsembleDesk.Proofs.Session.OtherSheets
import EnsembleDesk.Proofs.Sheet.Extents
import EnsembleDesk.Proofs.Session.Scrolling
import EnsembleDesk.Proofs.Session.RecordedCells
import EnsembleDesk.Proofs.Session.Extent
import EnsembleDesk.Proofs.Session.FileSizes
import EnsembleDesk.Proofs.Session.Notices
import EnsembleDesk.Proofs.Session.PixelSizes
import EnsembleDesk.Proofs.Line.Marking
import EnsembleDesk.Proofs.Line.SeenArguments
import EnsembleDesk.Proofs.Grammar.Splices
import EnsembleDesk.Proofs.Grammar.Compiling
import EnsembleDesk.Proofs.Number.OrderedField
import EnsembleDesk.Proofs.Sheet.Offsets
import EnsembleDesk.Proofs.Sheet.Windows
import EnsembleDesk.Proofs.Sheet.Selections
import EnsembleDesk.Proofs.Session.Clearing
import EnsembleDesk.Proofs.Session.WholeLines
import EnsembleDesk.Proofs.Session.ShownChanges
import EnsembleDesk.Proofs.Sheet.AddressGrammar
import EnsembleDesk.Proofs.Number.PlainText
import EnsembleDesk.Proofs.Sheet.TypedValues
import EnsembleDesk.Proofs.Session.PastedBlock
import EnsembleDesk.Proofs.Sheet.UsedLines
import EnsembleDesk.Proofs.Session.Echo
import EnsembleDesk.Proofs.Session.TypedCell
import EnsembleDesk.Proofs.Grammar.Delimiters
import EnsembleDesk.Proofs.Grammar.Kinds
import EnsembleDesk.Proofs.Text.LeadingWords
import EnsembleDesk.Proofs.Line.LeadingWord
import EnsembleDesk.Proofs.Line.Settling
import EnsembleDesk.Proofs.Line.LeadingKeyword
import EnsembleDesk.Proofs.Line.Nesting
import EnsembleDesk.Proofs.Line.Parentheses
import EnsembleDesk.Proofs.Text.LineBreaks
import EnsembleDesk.Proofs.Line.LineNumbers
import EnsembleDesk.Proofs.Line.Diagnostics
import EnsembleDesk.Proofs.Grammar.Unwinding
import EnsembleDesk.Proofs.Density.EvenGrids
import EnsembleDesk.Proofs.Density.ExactFamilies
import EnsembleDesk.Proofs.Density.RealNormal
import EnsembleDesk.Proofs.Density.GridLookups
import EnsembleDesk.Proofs.Density.GridMoments
import EnsembleDesk.Proofs.Density.Triangles
import EnsembleDesk.Proofs.Session.SavedState
import EnsembleDesk.Proofs.Session.MarkedLog
import EnsembleDesk.Proofs.Line.CursorWords
import EnsembleDesk.Proofs.Density.Brackets
import EnsembleDesk.Proofs.Density.Frames
