import MimeMail.Address.Basic
import MimeMail.Address.Header
import MimeMail.Backend
import MimeMail.Backend.Standard
import MimeMail.Calendar
import MimeMail.Compose
import MimeMail.Data.Json
import MimeMail.Data.Number
import MimeMail.Data.Value
import MimeMail.Decimal.Shortest
import MimeMail.Delivery
import MimeMail.Encoding.Base64
import MimeMail.Encoding.EncodedWord
import MimeMail.Encoding.QuotedPrintable
import MimeMail.Files
import MimeMail.Html.Pass
import MimeMail.Html.Reference
import MimeMail.Html.ReferenceNames
import MimeMail.Message.Basic
import MimeMail.Message.Part
import MimeMail.Message.Payload
import MimeMail.Message.Prepare
import MimeMail.Proofs.Address.BlankLine
import MimeMail.Proofs.Address.Column
import MimeMail.Proofs.Address.Display
import MimeMail.Proofs.Address.Grammar
import MimeMail.Proofs.Address.Header
import MimeMail.Proofs.Address.LineLimit
import MimeMail.Proofs.Address.MailboxList
import MimeMail.Proofs.Delivery.Recipients
import MimeMail.Proofs.Delivery.Sending
import MimeMail.Proofs.Encoding.Base64
import MimeMail.Proofs.Encoding.Base64Buffer
import MimeMail.Proofs.Encoding.Base64Lines
import MimeMail.Proofs.Encoding.EncodedWord
import MimeMail.Proofs.Encoding.LineLimit
import MimeMail.Proofs.Encoding.QuotedPrintable
import MimeMail.Proofs.Encoding.QuotedString
import MimeMail.Proofs.Encoding.SoftBreak
import MimeMail.Proofs.Encoding.Unit
import MimeMail.Proofs.Encoding.WordLines
import MimeMail.Proofs.Html.Collapse
import MimeMail.Proofs.Html.Document
import MimeMail.Proofs.Html.Escape
import MimeMail.Proofs.Html.Gap
import MimeMail.Proofs.Html.Hidden
import MimeMail.Proofs.Html.Letter
import MimeMail.Proofs.Html.Links
import MimeMail.Proofs.Html.NormalForm
import MimeMail.Proofs.Html.Settled
import MimeMail.Proofs.Html.Space
import MimeMail.Proofs.Html.Token
import MimeMail.Proofs.Message.Accounting
import MimeMail.Proofs.Message.BodyIndex
import MimeMail.Proofs.Message.Composed
import MimeMail.Proofs.Message.Copy
import MimeMail.Proofs.Message.Fields
import MimeMail.Proofs.Message.Frame
import MimeMail.Proofs.Message.Header
import MimeMail.Proofs.Message.Injection
import MimeMail.Proofs.Message.LineLimit
import MimeMail.Proofs.Message.Loading
import MimeMail.Proofs.Message.NameLines
import MimeMail.Proofs.Message.PartList
import MimeMail.Proofs.Message.Problems
import MimeMail.Proofs.Message.ReadBack
import MimeMail.Proofs.Message.Refresh
import MimeMail.Proofs.Message.Repetition
import MimeMail.Proofs.Message.Resolve
import MimeMail.Proofs.Message.Run
import MimeMail.Proofs.Message.Slots
import MimeMail.Proofs.Message.Subject
import MimeMail.Proofs.Message.Tree
import MimeMail.Proofs.Message.Visiting
import MimeMail.Proofs.Sender.Config
import MimeMail.Proofs.Stamp.Date
import MimeMail.Proofs.Stamp.Token
import MimeMail.Proofs.Text.Column
import MimeMail.Proofs.Text.Cut
import MimeMail.Proofs.Text.Digit
import MimeMail.Proofs.Text.Lines
import MimeMail.Proofs.Text.Replace
import MimeMail.Proofs.Text.Space
import MimeMail.Proofs.Text.Utf8
import MimeMail.Proofs.Wire.Boundary
import MimeMail.Proofs.Wire.Broken
import MimeMail.Proofs.Wire.Entity
import MimeMail.Proofs.Wire.Header
import MimeMail.Proofs.Wire.Reading
import MimeMail.Proofs.Wire.Tree
import MimeMail.Sender.Basic
import MimeMail.Sender.Config
import MimeMail.Session.Run
import MimeMail.Session.Step
import MimeMail.Sha256
import MimeMail.Template.Basic
import MimeMail.Template.Call
import MimeMail.Template.Helper
import MimeMail.Template.Literal
import MimeMail.Template.Parse
import MimeMail.Template.Reader
import MimeMail.Template.Reference
import MimeMail.Template.Render
import MimeMail.Template.Scope
import MimeMail.Template.Sheet
import MimeMail.Template.Spacing
import MimeMail.Template.Tag
import MimeMail.Template.Token
import MimeMail.Text.Basic
import MimeMail.Text.Replace
import MimeMail.Text.Visible
import MimeMail.Wire.Entity
import MimeMail.Wire.Layout
