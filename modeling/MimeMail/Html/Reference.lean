import MimeMail.Html.ReferenceNames
import MimeMail.Text.Basic
import MimeMail.Text.Replace

namespace MimeMail.Html.Reference

open Text

/-- The control characters that a number may stand for. -/
def isWrittenControl (n : Nat) : Bool :=
  n == 9 || n == 10 || n == 12 || n == 13

def scalar? (n : Nat) : Option Char :=
  if h : n.isValidChar then
    if n < 32 && !isWrittenControl n then none else some (Char.ofNatAux n h)
  else none

def body? : List Char → Option Char
  | '#' :: 'x' :: digits => digitsValue? 16 digits >>= scalar?
  | '#' :: 'X' :: digits => digitsValue? 16 digits >>= scalar?
  | '#' :: digits => digitsValue? 10 digits >>= scalar?
  | name => named? name

def inBody (c : Char) : Bool :=
  c != ';' && c != '&'

def reference : Rule := fun s ↦
  match s with
  | '&' :: s' =>
    match s'.dropWhile inBody with
    | ';' :: rest => do
      let c ← body? (s'.takeWhile inBody)
      Match.of? _ [c] rest
    | _ => none
  | _ => none

def decode : List Char → List Char :=
  reference.apply

end MimeMail.Html.Reference
