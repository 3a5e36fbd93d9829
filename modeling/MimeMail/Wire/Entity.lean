
namespace MimeMail

structure Field where
  name : String
  value : List Char
  deriving DecidableEq, Repr

namespace Wire

def lineBreak : List Char := "\r\n".toList

/-- The kinds of containers. Each part may have one of its own for the items that belong to it. -/
inductive Kind where
  | mixed
  | alternative
  | related (index : Nat)
  deriving DecidableEq, Repr

def Kind.subtype : Kind → String
  | .mixed => "mixed"
  | .alternative => "alternative"
  | .related _ => "related"

/-- The boundary of a container in a message with the given token. -/
def Kind.boundary (token : List Char) : Kind → List Char
  | .mixed => "=_m".toList ++ token
  | .alternative => "=_a".toList ++ token
  | .related index => "=_r".toList ++ (toString index).toList ++ token

inductive Entity where
  | leaf (fields : List Field) (body : List Char)
  | container (kind : Kind) (children : List Entity)

end Wire

def Field.write (f : Field) : List Char :=
  f.name.toList ++ ": ".toList ++ f.value ++ Wire.lineBreak

namespace Wire

def writeFields (fields : List Field) : List Char :=
  fields.flatMap Field.write

def containerField (token : List Char) (kind : Kind) : Field where
  name := "Content-Type"
  value :=
    "multipart/".toList ++ kind.subtype.toList ++ ";\r\n\tboundary=\"".toList ++
      kind.boundary token ++ ['"']

def delimiter (token : List Char) (kind : Kind) : List Char :=
  lineBreak ++ "--".toList ++ kind.boundary token ++ lineBreak

def closing (token : List Char) (kind : Kind) : List Char :=
  lineBreak ++ "--".toList ++ kind.boundary token ++ "--".toList ++ lineBreak

mutual

def Entity.write (token : List Char) : Entity → List Char
  | .leaf fields body => writeFields fields ++ lineBreak ++ body ++ lineBreak
  | .container kind children =>
    (containerField token kind).write ++ writeChildren token kind children ++ closing token kind

def writeChildren (token : List Char) (kind : Kind) : List Entity → List Char
  | [] => []
  | e :: es => delimiter token kind ++ e.write token ++ writeChildren token kind es

end

end Wire

end MimeMail
