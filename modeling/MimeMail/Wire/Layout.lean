import MimeMail.Address.Header
import MimeMail.Encoding.Base64
import MimeMail.Encoding.QuotedPrintable
import MimeMail.Html.Pass
import MimeMail.Message.Prepare
import MimeMail.Wire.Entity

namespace MimeMail

open Encoding Wire

def Wire.encodingField (encoding : String) : Field :=
  ⟨"Content-Transfer-Encoding", encoding.toList⟩

def Wire.typeField (contentType : String) : Field :=
  ⟨"Content-Type", contentType.toList⟩

namespace Attachment

/-- The column of the first character of a file name behind its parameter. -/
def nameColumn : Nat := 11

/-- The name as a quoted parameter; other than printable text is in encoded words inside it. -/
def quotedName (name : String) : List Char :=
  if (Text.utf8 name.toList).all EncodedWord.isPrintable then QuotedString.encode name.toList
  else QuotedString.encode (EncodedWord.encode (Text.utf8 name.toList) nameColumn).text

def entity (a : Attachment) : Entity :=
  .leaf
    [typeField a.contentType,
      ⟨"Content-Disposition", "attachment;\r\n\tfilename=".toList ++ quotedName a.name⟩,
      encodingField "base64"]
    (Base64.encode (a.payload.data?.getD []))

end Attachment

def Related.entity (r : Related) : Entity :=
  .leaf
    [typeField r.contentType, ⟨"Content-ID", '<' :: r.id.toList ++ ['>']⟩, encodingField "base64"]
    (Base64.encode (r.payload.data?.getD []))

section

variable [Backend]

namespace Part

def leaf (p : Part) : Entity :=
  match p.encoding with
  | .base64 => .leaf [typeField p.contentType, encodingField "base64"] (Base64.encode p.body)
  | .auto | .quotedPrintable =>
    .leaf [typeField p.contentType, encodingField "quoted-printable"]
      (QuotedPrintable.encode p.body)

def entity (index : Nat) (p : Part) : Entity :=
  if p.related.isEmpty then p.leaf
  else .container (.related index) (p.leaf :: p.related.map Related.entity)

end Part

namespace Message

/-- The plain body that is made from the markup one, if there is a markup one and no plain one. -/
def synthesized? (m : Message) : Option Entity := do
  let html ← m.parts.find? Part.isHtml
  let body ← html.content?
  if m.parts.any Part.isPlain then none
  else
    let text := Html.plainText body.text.toList
    some (.leaf [typeField ContentType.textPlain, encodingField "quoted-printable"]
      (QuotedPrintable.encode (Text.utf8 text)))

def entries (m : Message) : List Entity :=
  m.synthesized?.toList ++ m.parts.zipIdx.map fun (p, i) ↦ p.entity i

def isAlternative (m : Message) : Bool :=
  m.parts.any Part.isHtml || 1 < m.parts.length

def bodyEntity (m : Message) : Entity :=
  match m.isAlternative, m.entries with
  | false, [e] => e
  | _, es => .container .alternative es

def entity (m : Message) : Entity :=
  if m.attachments.isEmpty then m.bodyEntity
  else .container .mixed (m.bodyEntity :: m.attachments.map Attachment.entity)

end Message

end

structure Stamp where
  date : String
  token : String
  deriving DecidableEq, Repr

namespace Message

variable [Backend]

/-- The header fields before those of the body. A message to nobody is to its author; Reply-To is
left out where it repeats the author. -/
def fields (m : Message) (author : Address) (stamp : Stamp) : List Field :=
  let domain := m.domain.getD author.domain
  let replyTo := m.replyTo.toList.filter (·.addr != author.addr)
  let addressees := if m.addressees.isEmpty then [author] else m.addressees
  [⟨"Message-ID", '<' :: stamp.token.toList ++ '@' :: domain.toList ++ ['>']⟩,
    ⟨"Date", stamp.date.toList⟩,
    ⟨"Subject", EncodedWord.encodeIfNeeded (Text.utf8 m.subject.text.toList) 9⟩,
    ⟨"From", (author.encode 6).text⟩] ++
  replyTo.map (fun a ↦ ⟨"Reply-To", (a.encode 10).text⟩) ++
  [⟨"To", Address.encodeList addressees 4⟩] ++
  (if m.cc.isEmpty then [] else [⟨"Cc", Address.encodeList m.cc 4⟩]) ++
  [⟨"MIME-Version", "1.0".toList⟩]

def write (m : Message) (author : Address) (stamp : Stamp) : List Char :=
  writeFields (m.fields author stamp) ++ m.entity.write stamp.token.toList

end Message

end MimeMail
