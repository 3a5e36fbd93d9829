import MimeMail.Message.Basic

namespace MimeMail

variable [Backend]

inductive ComposeError where
  | noAuthor
  | subjectTemplate (e : Backend.Fault)
  | partTemplate (index : Nat) (e : Backend.Fault)
  | noParts
  | payload (failure : ReadFailure)
  deriving DecidableEq

def ComposeError.message : ComposeError → String
  | .noAuthor => "No From address"
  | .subjectTemplate e => "Failed to render subject template: " ++ Backend.describe e
  | .partTemplate index e =>
    "Failed to render template of part " ++ toString index ++ ": " ++ Backend.describe e
  | .noParts => "Message has no parts"
  | .payload failure => "Cannot read file " ++ failure.path ++ ": " ++ failure.error.message

def ComposeError.summary (errors : List ComposeError) : String :=
  "failed to compose message: " ++ "; ".intercalate (errors.map message)

namespace Message

def load (read : FileReader) (fresh : Bool) (m : Message) : Message × List ReadFailure :=
  if m.prepared && !fresh then (m, [])
  else
    let (parts, failures) := collect (m.parts.map (·.load read fresh))
    let (attachments, failures') := collect (m.attachments.map (·.load read fresh))
    let all := failures ++ failures'
    ({ m with parts := parts, attachments := attachments, prepared := all.isEmpty }, all)

def render (data : Backend.Data) (m : Message) : Message × List ComposeError :=
  let (subject, errors) := m.subject.render data
  let (parts, errors') := collect <| m.parts.zipIdx.map fun (p, i) ↦
    let (p, es) := p.render data
    (p, es.map (.partTemplate i))
  ({ m with subject := subject, parts := parts }, errors.map .subjectTemplate ++ errors')

/-- The address that the message is from: its own, its sender's, or that of the default sender. -/
def resolveAuthor (m : Message) (registry : Option Registry) : Option Address :=
  m.author <|> (m.sender.bind (·.address)) <|>
    ((registry.bind (·.default?)).bind (·.address))

end Message

def distinct : List String → List String
  | [] => []
  | x :: xs => x :: (distinct xs).filter (· != x)

/-- All who receive the message: To, or the author if To is empty, then Cc and Bcc. -/
def Message.recipients (m : Message) (registry : Option Registry) : List String :=
  let first := if m.addressees.isEmpty then (m.resolveAuthor registry).toList else m.addressees
  distinct ((first ++ m.cc ++ m.bcc).map (·.addr))

end MimeMail
