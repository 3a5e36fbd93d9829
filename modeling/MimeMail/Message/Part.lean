import MimeMail.Message.Payload

namespace MimeMail

namespace ContentType

def textPlain : String := "text/plain; charset=utf-8"

def textHtml : String := "text/html; charset=utf-8"

end ContentType

variable [Backend]

/-- A text, or a template with its last output. -/
inductive Content where
  | literal (text : String)
  | template (t : Backend.Template) (output : String)

namespace Content

def text : Content → String
  | .literal text => text
  | .template _ output => output

def ofSource (source : String) (escaping : Escaping) : Except Backend.Fault Content :=
  (Backend.parse source escaping).map (.template · "")

/-- Renders a template; if that fails, the last output stays. -/
def render (data : Backend.Data) : Content → Content × List Backend.Fault
  | .literal text => (.literal text, [])
  | .template t output =>
    match Backend.render t data with
    | .ok text => (.template t text, [])
    | .error e => (.template t output, [e])

end Content

inductive TransferEncoding where
  | auto
  | quotedPrintable
  | base64
  deriving DecidableEq, Repr

/-- A message has at most one plain and one markup body, and any number of other parts. -/
inductive Part where
  | plain (body : Content)
  | html (body : Content) (related : List Related)
  | other (contentType : String) (encoding : TransferEncoding) (body : Bytes)
      (related : List Related)

namespace Part

def isPlain : Part → Bool
  | .plain _ => true
  | _ => false

def isHtml : Part → Bool
  | .html _ _ => true
  | _ => false

def contentType : Part → String
  | .plain _ => ContentType.textPlain
  | .html _ _ => ContentType.textHtml
  | .other contentType _ _ _ => contentType

def encoding : Part → TransferEncoding
  | .plain _ | .html _ _ => .quotedPrintable
  | .other _ encoding _ _ => encoding

def content? : Part → Option Content
  | .plain body | .html body _ => some body
  | .other _ _ _ _ => none

def body : Part → Bytes
  | .plain body | .html body _ => Text.utf8 body.text.toList
  | .other _ _ body _ => body

def related : Part → List Related
  | .plain _ => []
  | .html _ related | .other _ _ _ related => related

def withRelated (p : Part) (related : List Related) : Part :=
  match p with
  | .plain body => .plain body
  | .html body _ => .html body related
  | .other contentType encoding body _ => .other contentType encoding body related

def hasFiles (p : Part) : Bool :=
  p.related.any (·.payload.isFile)

def render (data : Backend.Data) (p : Part) : Part × List Backend.Fault :=
  match p with
  | .plain body =>
    let (body, errors) := body.render data
    (.plain body, errors)
  | .html body related =>
    let (body, errors) := body.render data
    (.html body related, errors)
  | p => (p, [])

def load (read : FileReader) (fresh : Bool) (p : Part) : Part × List ReadFailure :=
  let (related, failures) := collect (p.related.map (·.load read fresh))
  (p.withRelated related, failures)

end Part

end MimeMail
