import MimeMail.Address.Basic
import MimeMail.Encoding.EncodedWord
import MimeMail.Text.Basic

namespace MimeMail.Address

open Encoding Text

/-- The last column that an addr-spec may end on, which leaves room for its angle brackets. -/
def maxColumn : Nat := 74

/-- The name, and the column behind the space that follows a name. -/
def encodeName (a : Address) (offset : Nat) : Segment :=
  let name := a.name.toList
  if name.isEmpty then ⟨[], offset⟩
  else if (utf8 name).all EncodedWord.isPrintable then
    let quoted := QuotedString.encode name
    ⟨quoted, offset + quoted.length + 1⟩
  else
    let words := EncodedWord.encode (utf8 name) offset
    ⟨words.text, words.column + 1⟩

/-- Writes an address from column `offset` on, the number of characters that are on the line. As in
encoded words no sum of columns overflows. -/
def encode (a : Address) (offset : Nat) : Segment :=
  let name := a.encodeName offset
  let addr := a.addr.toList
  let space := if a.name.toList.isEmpty then [] else [' ']
  if name.column + addr.length ≤ maxColumn then
    ⟨name.text ++ space ++ '<' :: addr ++ ['>'], name.column + addr.length + 2⟩
  else ⟨name.text ++ fold ++ '<' :: addr ++ ['>'], 1 + addr.length + 2⟩

/-- What separates two addresses, the first of which ends before `column`. -/
def separator (column : Nat) : Segment :=
  if column < 75 then ⟨", ".toList, column + 2⟩
  else if column = 75 then ⟨",\r\n ".toList, 1⟩
  else ⟨"\r\n , ".toList, 3⟩

def encodeRest (column : Nat) : List Address → Segment
  | [] => ⟨[], column⟩
  | a :: as =>
    let sep := separator column
    let item := a.encode sep.column
    let rest := encodeRest item.column as
    ⟨sep.text ++ item.text ++ rest.text, rest.column⟩

def encodeList (list : List Address) (offset : Nat) : List Char :=
  match list with
  | [] => []
  | a :: as =>
    let item := a.encode offset
    item.text ++ (encodeRest item.column as).text

end MimeMail.Address
