import MimeMail.Text.Basic

namespace MimeMail

inductive Escaping where
  | plain
  | markup
  deriving DecidableEq, Repr

/-- What messages rest on and is not about mail: an engine for templates, with its own data and
its own findings about a template, a digest, and the content types that paths suggest. Data that the
engine cannot take at all is data that no template renders with. -/
class Backend where
  Template : Type
  Data : Type
  Fault : Type
  faultDecidableEq : DecidableEq Fault
  parse : String → Escaping → Except Fault Template
  render : Template → Data → Except Fault String
  describe : Fault → String
  digest : Bytes → Bytes
  length_digest (s : Bytes) : (digest s).length = 32
  typeOf : String → String

instance [Backend] : DecidableEq Backend.Fault :=
  Backend.faultDecidableEq

end MimeMail
