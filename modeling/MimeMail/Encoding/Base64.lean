import MimeMail.Text.Basic

namespace MimeMail.Encoding.Base64

def lineLength : Nat := 76

def digit (n : Nat) : Char :=
  if n < 26 then Char.ofNat (65 + n)
  else if n < 52 then Char.ofNat (71 + n)
  else if n < 62 then Char.ofNat (n - 4)
  else if n = 62 then '+'
  else '/'

def group1 (a : UInt8) : List Char :=
  [digit (a.toNat / 4), digit (a.toNat % 4 * 16), '=', '=']

def group2 (a b : UInt8) : List Char :=
  [digit (a.toNat / 4), digit (a.toNat % 4 * 16 + b.toNat / 16), digit (b.toNat % 16 * 4), '=']

def group3 (a b c : UInt8) : List Char :=
  [digit (a.toNat / 4), digit (a.toNat % 4 * 16 + b.toNat / 16),
    digit (b.toNat % 16 * 4 + c.toNat / 64), digit (c.toNat % 64)]

def groups : Bytes → List (List Char)
  | a :: b :: c :: s => group3 a b c :: groups s
  | [a, b] => [group2 a b]
  | [a] => [group1 a]
  | [] => []

def plain (s : Bytes) : List Char :=
  (groups s).flatten

def lineBreak : List Char := "\r\n".toList

/-- Writes groups of four on lines, with `room` columns left on the current one. -/
def wrapped (room : Nat) : List (List Char) → List Char
  | [] => []
  | g :: gs =>
    if 4 ≤ room then g ++ wrapped (room - 4) gs
    else g.take room ++ lineBreak ++ g.drop room ++ wrapped (lineLength - (4 - room)) gs

def encode (s : Bytes) : List Char :=
  wrapped lineLength (groups s)

def encodedLength (n : Nat) : Nat :=
  if n = 0 then 0
  else
    let chars := (n + 2) / 3 * 4
    chars + (chars - 1) / lineLength * 2

end MimeMail.Encoding.Base64
