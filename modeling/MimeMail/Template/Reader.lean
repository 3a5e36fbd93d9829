import MimeMail.Text.Replace

namespace MimeMail.Template

abbrev Reader (α : Type) := List Char → Option (α × List Char)

def isBlankOrBreak (c : Char) : Bool :=
  c == ' ' || c == '\t' || c == '\n' || c == '\r'

def isNameChar (c : Char) : Bool :=
  c.isAlphanum || c == '-' || c == '_' || c == '$' || c == ':' || 0x80 ≤ c.toNat

def skipBlank (s : List Char) : List Char :=
  s.dropWhile isBlankOrBreak

def token {α : Type} (r : Reader α) : Reader α := fun s ↦
  r (skipBlank s)

def optional {α : Type} (r : Reader α) (s : List Char) : Option α × List Char :=
  match r s with
  | some (a, rest) => (some a, rest)
  | none => (none, s)

def dropText? : List Char → List Char → Option (List Char)
  | [], s => some s
  | w :: ws, c :: s => if w == c then dropText? ws s else none
  | _ :: _, [] => none

def dropThrough? (closing : List Char) : List Char → Option (List Char)
  | [] => none
  | c :: s => dropText? closing (c :: s) <|> dropThrough? closing s

def word (w : String) : Reader Unit := fun s ↦
  (dropText? w.toList s).map ((), ·)

/-- The mark, if it stands there, that removes white space beside a tag. -/
def trimMark (s : List Char) : Bool × List Char :=
  match token (word "~") s with
  | some (_, s) => (true, s)
  | none => (false, s)

def name : Reader String := fun s ↦
  match s.takeWhile isNameChar with
  | [] => none
  | cs => some (String.ofList cs, s.drop cs.length)

def startsName (s : List Char) : Bool :=
  s.head?.any isNameChar

end MimeMail.Template
