import Citations.Unicode.RangeSet
import Citations.Unicode.Letters
import Citations.Unicode.Digits
import Citations.Unicode.Blank
import Citations.Unicode.Cases
import Citations.Unicode.CaseMaps
import Citations.Unicode.Printable
import Citations.Unicode.Properties
import Citations.Text.Case
import Citations.Text.Basic
import Citations.Data.Value
import Citations.Decimal.Shortest
import Citations.Data.Literal
import Citations.Data.Json
import Citations.Text.Cleaning
import Citations.Text.Names
import Citations.Text.Punctuation
import Citations.Text.Titles
import Citations.Fault
import Citations.Text.Caseless
import Citations.Citation.Basic
import Citations.Citation.Fields
import Citations.Citation.Date
import Citations.Citation.Builder
import Citations.Legal.Tables
import Citations.Legal.Pattern
import Citations.Legal.Abbreviation
import Citations.Style.Names
import Citations.Style.Apa
import Citations.Style.Mla
import Citations.Style.Chicago
import Citations.Style.Bluebook
import Citations.Config
import Citations.Markup.Entities
import Citations.Markup.Token
import Citations.Markup.Reference
import Citations.Markup.Document
import Citations.Style.Ris
import Citations.Notice
import Citations.Address
import Citations.Service
import Citations.Text.Utf8
import Citations.Text.Regular
import Citations.Yaml.Failure
import Citations.Yaml.Cursor
import Citations.Yaml.Token
import Citations.Yaml.Token.Scalar
import Citations.Yaml.Token.Name
import Citations.Yaml.Token.Lexer
import Citations.Yaml.Event
import Citations.Yaml.Tag
import Citations.Yaml.Node
import Citations.Yaml.Datum
import Citations.Yaml.Number
import Citations.Yaml.Time
import Citations.Yaml.Bytes
import Citations.Yaml.Datum.Text
import Citations.Yaml.Document
import Citations.Command
import Citations.Main
import Citations.Proofs.Text
import Citations.Proofs.Names
import Citations.Proofs.Faults
import Citations.Proofs.Render
import Citations.Proofs.Record
import Citations.Proofs.Cleaning
import Citations.Proofs.Pages
import Citations.Proofs.Date
import Citations.Proofs.Builder
import Citations.Proofs.Batch
import Citations.Proofs.TagValues
import Citations.Proofs.DateReading
import Citations.Proofs.Contributors
import Citations.Proofs.CleanEnd
import Citations.Proofs.Edition
import Citations.Proofs.Link
import Citations.Proofs.Tables
import Citations.Proofs.Titles
import Citations.Proofs.ReadingOrder
import Citations.Proofs.ValueLines
import Citations.Proofs.QuotedTitle
import Citations.Proofs.Dangling
import Citations.Proofs.Separators
import Citations.Proofs.Brackets
import Citations.Proofs.Filename
import Citations.Proofs.AbbreviatedNames
import Citations.Proofs.FieldsFile
