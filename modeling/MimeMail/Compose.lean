import MimeMail.Calendar
import MimeMail.Wire.Layout

namespace MimeMail

variable [Backend]

inductive TokenSource where
  | fixed (token : String)
  | hashed
  deriving DecidableEq, Repr

namespace TokenSource

/-- The length of a digest in Base64 without its padding. -/
def hashLength : Nat := 43

def hash (date : String) (subject : Bytes) : List Char :=
  (Encoding.Base64.encode (Backend.digest (Text.utf8 date.toList ++ subject))).take hashLength

def token (source : TokenSource) (date : String) (subject : Bytes) : String :=
  match source with
  | .fixed token => token
  | .hashed => String.ofList (hash date subject)

end TokenSource

structure Composer where
  clock : Int
  tokens : TokenSource
  registry : Option Registry

/-- The stamp of a message with the given subject, when `tokens` makes the token from the date and
the bytes of the subject. -/
def Stamp.at (clock : Int) (tokens : String → Bytes → String) (subject : String) : Stamp :=
  let date := (Date.ofSeconds clock).text
  ⟨date, tokens date (Text.utf8 subject.toList)⟩

def Composer.stamp (c : Composer) : String → Stamp :=
  .at c.clock c.tokens.token

namespace Message

def resolve (read : FileReader) (data : Backend.Data) (m : Message) : Message × List ComposeError :=
  let (m, errors) := m.render data
  let missing := if m.parts.isEmpty then [.noParts] else []
  let (m, failures) := m.load read false
  (m, errors ++ missing ++ failures.map .payload)

/-- Composes a message; `stamp` makes the stamp from its subject. -/
def compose (registry : Option Registry) (stamp : String → Stamp) (read : FileReader)
    (data : Backend.Data) (m : Message) : Message × Except (List ComposeError) (List Char) :=
  match m.resolveAuthor registry with
  | none => (m, .error [.noAuthor])
  | some author =>
    let (m, errors) := m.resolve read data
    if errors.isEmpty then (m, .ok (m.write author (stamp m.subject.text)))
    else (m, .error errors)

end Message

def Composer.compose (c : Composer) (read : FileReader) (data : Backend.Data) (m : Message) :
    Message × Except (List ComposeError) (List Char) :=
  m.compose c.registry c.stamp read data

end MimeMail
