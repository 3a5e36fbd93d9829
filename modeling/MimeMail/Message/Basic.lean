import MimeMail.Message.Part
import MimeMail.Sender.Basic

namespace MimeMail

variable [Backend]

structure Message where
  domain : Option String
  subject : Content
  sender : Option Sender
  author : Option Address
  replyTo : Option Address
  addressees : List Address
  cc : List Address
  bcc : List Address
  parts : List Part
  attachments : List Attachment
  prepared : Bool

def putPart (kind : Part → Bool) (p : Part) : List Part → List Part
  | [] => [p]
  | q :: qs => if kind q then p :: qs else q :: putPart kind p qs

namespace Message

def empty : Message where
  domain := none
  subject := .literal ""
  sender := none
  author := none
  replyTo := none
  addressees := []
  cc := []
  bcc := []
  parts := []
  attachments := []
  prepared := true

/-- Where the plain body stands. There is one at most, and it never moves, so that its index is
looked for and not kept. -/
def plainIndex (m : Message) : Option Nat :=
  m.parts.findIdx? Part.isPlain

def htmlIndex (m : Message) : Option Nat :=
  m.parts.findIdx? Part.isHtml

def hasFiles (m : Message) : Bool :=
  m.parts.any Part.hasFiles || m.attachments.any (·.payload.isFile)

def addPart (m : Message) (p : Part) : Message :=
  { m with parts := m.parts ++ [p], prepared := m.prepared && !p.hasFiles }

def setPlain (m : Message) (body : Content) : Message :=
  { m with parts := putPart Part.isPlain (.plain body) m.parts }

def setHtml (m : Message) (body : Content) (related : List Related) : Message :=
  let p := Part.html body related
  { m with parts := putPart Part.isHtml p m.parts, prepared := m.prepared && !p.hasFiles }

def attach (m : Message) (a : Attachment) : Message :=
  { m with attachments := m.attachments ++ [a], prepared := m.prepared && !a.payload.isFile }

/-- Forgets the contents of all files, so that they are read again. -/
def invalidate (m : Message) : Message :=
  let parts := m.parts.map fun p ↦
    p.withRelated (p.related.map fun r ↦ { r with payload := r.payload.forget })
  let attachments := m.attachments.map fun a ↦ { a with payload := a.payload.forget }
  { m with parts := parts, attachments := attachments, prepared := !m.hasFiles }

/-- An independent copy, which reads its files itself. -/
def copy (m : Message) : Message where
  domain := m.domain
  subject := m.subject
  sender := m.sender
  author := m.author
  replyTo := m.replyTo
  addressees := m.addressees
  cc := m.cc
  bcc := m.bcc
  parts := m.parts.map fun p ↦
    match p with
    | .plain body => .plain body
    | .html body related => .html body (related.map fun r ↦ ⟨r.id, r.contentType, r.payload.copy⟩)
    | .other contentType encoding body related =>
      .other contentType encoding body
        (related.map fun r ↦ ⟨r.id, r.contentType, r.payload.copy⟩)
  attachments := m.attachments.map fun a ↦ ⟨a.name, a.contentType, a.payload.copy⟩
  prepared := !m.hasFiles

def quick (subject : String) (text html : Option String) : Message :=
  let m := { empty with subject := .literal subject }
  let m := match text with
    | some text => m.setPlain (.literal text)
    | none => m
  match html with
  | some html => m.setHtml (.literal html) []
  | none => m

end Message

inductive Edit where
  | domain (d : String)
  | subject (text : String)
  | subjectTemplate (source : String)
  | sender (s : Sender)
  | author (a : Address)
  | replyTo (a : Address)
  | addressees (list : List Address)
  | cc (list : List Address)
  | bcc (list : List Address)
  | plain (text : String)
  | plainTemplate (source : String)
  | html (text : String) (related : List Related)
  | htmlTemplate (source : String) (related : List Related)
  | part (contentType : String) (encoding : TransferEncoding) (body : Bytes)
      (related : List Related)
  | attach (paths : List String)
  | attachFile (name contentType path : String)
  | attachObject (name contentType : String) (data : Bytes)
  | invalidate

/-- Applies one call. It fails for a template that cannot be read, and for nothing else. -/
def Message.edit (m : Message) : Edit → Except Backend.Fault Message
  | .domain d => .ok { m with domain := some d }
  | .subject text => .ok { m with subject := .literal text }
  | .subjectTemplate source => do .ok { m with subject := ← Content.ofSource source .plain }
  | .sender s => .ok { m with sender := some s }
  | .author a => .ok { m with author := some a }
  | .replyTo a => .ok { m with replyTo := some a }
  | .addressees list => .ok { m with addressees := list }
  | .cc list => .ok { m with cc := list }
  | .bcc list => .ok { m with bcc := list }
  | .plain text => .ok (m.setPlain (.literal text))
  | .plainTemplate source => do .ok (m.setPlain (← Content.ofSource source .plain))
  | .html text related => .ok (m.setHtml (.literal text) related)
  | .htmlTemplate source related => do .ok (m.setHtml (← Content.ofSource source .markup) related)
  | .part contentType encoding body related =>
    .ok (m.addPart (.other contentType encoding body related))
  | .attach paths => .ok (paths.foldl (fun m path ↦ m.attach (.ofFile "" "" path)) m)
  | .attachFile name contentType path => .ok (m.attach (.ofFile name contentType path))
  | .attachObject name contentType data => .ok (m.attach ⟨name, contentType, .memory data⟩)
  | .invalidate => .ok m.invalidate

end MimeMail
