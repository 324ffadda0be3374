import NoteCards.Text.Ranges
import NoteCards.Text.Blank
import NoteCards.Text.Digits
import NoteCards.Text.Letter
import NoteCards.Text.Numeral
import NoteCards.Text.WordChar
import NoteCards.Text.Printable
import NoteCards.Text.Casing
import NoteCards.Text.Lowercase
import NoteCards.Text.Occurs
import NoteCards.Text.Quoted
import NoteCards.Text.Lines
import NoteCards.Text.Cut
import NoteCards.Text.Source
import NoteCards.Query.Term
import NoteCards.Query.Token
import NoteCards.Query.Basic
import NoteCards.Query.Cut
import NoteCards.Binary64.Basic
import NoteCards.Binary64.Rounding
import NoteCards.Binary64.Arithmetic
import NoteCards.Binary64.Shortest
import NoteCards.Binary64.Layout
import NoteCards.Binary64.Reading
import NoteCards.Data.Value
import NoteCards.Note.LabelSet
import NoteCards.Note.Document
import NoteCards.Note.Hashtag
import NoteCards.Note.Basic
import NoteCards.Settings.Field
import NoteCards.Settings.Display
import NoteCards.Settings.Forces
import NoteCards.Settings.Basic
import NoteCards.Simulation.Parameters
import NoteCards.Simulation.Placement
import NoteCards.Json.Printer
import NoteCards.Data.Record
import NoteCards.Json.Fault
import NoteCards.Json.NumberText
import NoteCards.Json.StringText
import NoteCards.Json.Node
import NoteCards.Json.Reader
import NoteCards.Json.RecordReader
import NoteCards.Toml.Text
import NoteCards.Toml.Scalar
import NoteCards.Toml.Table
import NoteCards.Toml.Document
import NoteCards.Configuration.Layer
import NoteCards.Configuration.Settings
import NoteCards.Configuration.Disk
import NoteCards.Configuration.File
import NoteCards.Command.Arguments
import NoteCards.Command.Run
import NoteCards.Main
import NoteCards.Proofs.Text.Lowercase
import NoteCards.Proofs.Text.Trim
import NoteCards.Proofs.Query.Spelling
import NoteCards.Proofs.Query.Reading
import NoteCards.Proofs.Query.Terms
import NoteCards.Proofs.Query.Canonical
import NoteCards.Proofs.Note.Hashtag
import NoteCards.Proofs.Note.Parts
import NoteCards.Proofs.Note.Attributes
import NoteCards.Proofs.Binary64.Magnitude
import NoteCards.Proofs.Binary64.Whole
import NoteCards.Proofs.Settings.Fields
import NoteCards.Proofs.Settings.Edits
import NoteCards.Proofs.Binary64.Order
import NoteCards.Proofs.Settings.Clamp
import NoteCards.Proofs.Command.Forces
import NoteCards.Proofs.Query.Growth
import NoteCards.Proofs.Query.LetterCase
import NoteCards.Proofs.Note.Sources
import NoteCards.Proofs.Binary64.Monotone
import NoteCards.Proofs.Simulation.Bounds
import NoteCards.Proofs.Configuration.Layer
import NoteCards.Proofs.Settings.Slots
import NoteCards.Proofs.Configuration.Assignment
import NoteCards.Proofs.Command.Resets
import NoteCards.Proofs.Binary64.Shortest
import NoteCards.Proofs.Json.Numeral
import NoteCards.Proofs.Json.Grammar
import NoteCards.Proofs.Json.WrittenNumber
import NoteCards.Proofs.Json.WrittenScalar
import NoteCards.Proofs.Json.WrittenValue
import NoteCards.Proofs.Json.Reread
import NoteCards.Proofs.Json.RecordTree
import NoteCards.Proofs.Json.WrittenRecord
import NoteCards.Proofs.Settings.RoundTrip
import NoteCards.Proofs.Query.Narrowing
import NoteCards.Proofs.Note.Fences
import NoteCards.Proofs.Note.Marks
import NoteCards.Proofs.Json.ValueTree
import NoteCards.Proofs.Note.Export
import NoteCards.Proofs.Note.Label
import NoteCards.Proofs.Query.Demands
import NoteCards.Proofs.Query.Sign
import NoteCards.Proofs.Note.Origin
import NoteCards.Proofs.Settings.Lenses
import NoteCards.Proofs.Binary64.Sum
import NoteCards.Proofs.Settings.ClampedEdits
import NoteCards.Proofs.Simulation.Square
import NoteCards.Proofs.Simulation.Saved
import NoteCards.Proofs.Text.Cut
import NoteCards.Proofs.Query.Offset
import NoteCards.Proofs.Command.Search
import NoteCards.Proofs.Configuration.Initial
