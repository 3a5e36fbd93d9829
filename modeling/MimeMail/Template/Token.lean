import MimeMail.Template.Tag

namespace MimeMail.Template

/-- A piece of the text of a template. `verbatim` is what stands in a block of plain text. -/
inductive Token where
  | text (s : List Char)
  | verbatim (s : List Char)
  | tag (t : Tag)

def opens (opening s : List Char) : Bool :=
  (dropText? opening s).isSome

/-- What a backslash before `s` does: whether it is dropped, and how many characters of `s` are then
plain text. It keeps two or four braces behind it from opening a tag. Several backslashes before
braces keep only themselves, one less of them. -/
def escapeBefore (s : List Char) : Bool × Nat :=
  let more := (s.takeWhile (· == '\\')).length
  if opens "\x7b\x7b".toList (s.drop more) then
    (true, if 0 < more then more else if opens "\x7b\x7b\x7b\x7b".toList s then 4 else 2)
  else (false, more)

def leadingText (opening : List Char) : Nat → List Char → List Char × List Char
  | _, [] => ([], [])
  | plain + 1, c :: s =>
    let (text, rest) := leadingText opening plain s
    (c :: text, rest)
  | 0, c :: s =>
    if opens opening (c :: s) then ([], c :: s)
    else
      let (dropped, plain) := if c == '\\' then escapeBefore s else (false, 0)
      let (text, rest) := leadingText opening plain s
      (if dropped then text else c :: text, rest)

namespace Token

def verbatimBlock : Reader (List Token) := fun s ↦ do
  let (first, s) ← verbatimStart s
  let (inner, s) := leadingText "\x7b\x7b\x7b\x7b".toList 0 s
  let s ← dropText? "\x7b\x7b\x7b\x7b".toList s
  let (last, s) ← verbatimEnd s
  some ([.tag first, .verbatim inner, .tag last], s)

/-- Cuts a template into text and tags; each step takes one unit of `fuel`. -/
def scan : Nat → List Char → Option (List Token)
  | 0, _ => none
  | fuel + 1, s =>
    match leadingText "\x7b\x7b".toList 0 s with
    | ([], []) => some []
    | ([], rest) =>
      match dropText? "\x7b\x7b\x7b\x7b".toList rest with
      | some s => do
        let (tokens, s) ← verbatimBlock s
        (scan fuel s).map (tokens ++ ·)
      | none => do
        let (t, s) ← Template.tag (← dropText? "\x7b\x7b".toList rest)
        (scan fuel s).map (.tag t :: ·)
    | (s, rest) => (scan fuel rest).map (.text s :: ·)

end Token

end MimeMail.Template
