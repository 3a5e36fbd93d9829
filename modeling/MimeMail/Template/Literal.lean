import MimeMail.Data.Json
import MimeMail.Template.Reader

namespace MimeMail.Template

open Data

/-- What is left of a text behind a literal at its head, if there is one. -/
abbrev Outline := List Char → Option (List Char)

def isHexDigit (c : Char) : Bool :=
  (Text.hexValue? c).isSome

def quotedRest? (quote : Char) : Outline
  | [] => none
  | '\\' :: 'u' :: a :: b :: c :: d :: s =>
    if [a, b, c, d].all isHexDigit then quotedRest? quote s else none
  | '\\' :: e :: s =>
    if e == quote || "\\/bfnrt".toList.contains e then quotedRest? quote s else none
  | c :: s =>
    if c == quote then some s else if c == '\\' then none else quotedRest? quote s

def stringRest? : Outline
  | '"' :: s => quotedRest? '"' s
  | '\x27' :: s => quotedRest? '\x27' s
  | _ => none

def dropExponent (s : List Char) : List Char :=
  match s with
  | 'E' :: s' =>
    let digits := (dropText? ['-'] s').getD s'
    if digits.head?.any Char.isDigit then digits.dropWhile Char.isDigit else s
  | s => s

def numberRest? : Outline := fun s ↦
  let s := (dropText? ['-'] s).getD s
  if s.head?.any Char.isDigit then
    let s := s.dropWhile Char.isDigit
    let s := dropExponent (((dropText? ['.'] s).getD s).dropWhile Char.isDigit)
    if startsName s then none else some s
  else none

def wordRest? (w : String) : Outline := fun s ↦ do
  let s ← dropText? w.toList s
  if startsName s then none else some s

mutual

def literalRest? : Nat → Outline
  | 0, _ => none
  | fuel + 1, '[' :: s =>
    let s := skipBlank s
    entriesRest? fuel false ((entryRest? fuel false s).getD s)
  | fuel + 1, '\x7b' :: s =>
    let s := skipBlank s
    entriesRest? fuel true ((entryRest? fuel true s).getD s)
  | _ + 1, s =>
    stringRest? s <|> numberRest? s <|> wordRest? "null" s <|> wordRest? "true" s <|>
      wordRest? "false" s

def entryRest? : Nat → Bool → Outline
  | 0, _, _ => none
  | fuel + 1, false, s => literalRest? fuel s
  | fuel + 1, true, s => do
    match skipBlank (← stringRest? s) with
    | ':' :: s => literalRest? fuel (skipBlank s)
    | _ => none

def entriesRest? : Nat → Bool → Outline
  | 0, _, _ => none
  | fuel + 1, fields, s =>
    match fields, skipBlank s with
    | _, ',' :: s => do entriesRest? fuel fields (← entryRest? fuel fields (skipBlank s))
    | false, ']' :: s => some s
    | true, '\x7d' :: s => some s
    | _, _ => none

end

/-- The value that the text of a literal stands for, if it has one. -/
def literalValue? (s : List Char) : Option Value :=
  match s with
  | '\x27' :: _ => (Json.quoted? '\x27' s).map fun (text, _) ↦ .string text
  | s => Json.parse? s

def literal? : Reader (Option Value) := fun s ↦
  (literalRest? (4 * s.length + 4) s).map fun rest ↦
    (literalValue? (Text.consumed s rest), rest)

end MimeMail.Template
