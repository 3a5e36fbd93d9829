import MimeMail.Compose

namespace MimeMail

variable [Backend]

structure Delivery where
  sender : Sender
  author : String
  recipients : List String
  body : List Char

inductive TransportError where
  | connection (reason : String)
  | authentication (reason : String)
  | rejected (reason : String)
  deriving DecidableEq, Repr

def TransportError.message : TransportError → String
  | .connection reason => "Connection failed: " ++ reason
  | .authentication reason => "Authentication failed: " ++ reason
  | .rejected reason => "Send failed: " ++ reason

inductive SendError where
  | noDefaultSender
  | compose (errors : List ComposeError)
  | transport (e : TransportError)
  deriving DecidableEq

def SendError.message : SendError → String
  | .noDefaultSender => "No default sender"
  | .compose errors => ComposeError.summary errors
  | .transport e => "Transport error: " ++ e.message

abbrev Transport (σ : Type) := Delivery → σ → Except TransportError Unit × σ

structure Sent (σ : Type) where
  message : Message
  answer : Except SendError Unit
  state : σ

/-- Composes a message and hands it to the transport. The message remembers the sender, so that it
is from the sender's address if it names no author. The registry is looked at three times, by
composing and then for the author and for the recipients, and is taken to be the same each time. -/
def Sender.send {σ : Type} (s : Sender) (c : Composer) (read : FileReader) (data : Backend.Data)
    (transport : Transport σ) (m : Message) (state : σ) : Sent σ :=
  match c.compose read data { m with sender := some s } with
  | (m, .error errors) => ⟨m, .error (.compose errors), state⟩
  | (m, .ok body) =>
    let author := ((m.resolveAuthor c.registry).map (·.addr)).getD ""
    let (answer, state) := transport ⟨s, author, m.recipients c.registry, body⟩ state
    ⟨m, answer.mapError .transport, state⟩

def Registry.send {σ : Type} (r : Registry) (c : Composer) (read : FileReader) (data : Backend.Data)
    (transport : Transport σ) (m : Message) (state : σ) : Sent σ :=
  match r.default? with
  | none => ⟨m, .error .noDefaultSender, state⟩
  | some s => s.send c read data transport m state

end MimeMail
