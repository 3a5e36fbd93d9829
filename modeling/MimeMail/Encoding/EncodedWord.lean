import MimeMail.Encoding.QuotedPrintable

namespace MimeMail.Encoding

/-- Header text together with the column at which the line goes on. -/
structure Segment where
  text : List Char
  column : Nat
  deriving DecidableEq, Repr

def fold : List Char := "\r\n ".toList

namespace EncodedWord

/-- The last column that a unit may reach, which leaves room for `?=`. -/
def maxColumn : Nat := 74

def opening : List Char := "=?utf-8?q?".toList

def closing : List Char := "?=".toList

/-- Goes on in an open word, the next unit of which would stand at `column`. -/
def goOn (column : Nat) : List (List Char) → Segment
  | [] => ⟨closing, column + closing.length⟩
  | u :: us =>
    if column + u.length ≤ maxColumn then
      let s := goOn (column + u.length) us
      ⟨u ++ s.text, s.column⟩
    else
      let s := goOn (1 + opening.length + u.length) us
      ⟨closing ++ fold ++ opening ++ u ++ s.text, s.column⟩

/-- Writes encoded units from column `offset` on, the number of characters that are on the line. So
columns are bounded by the length of a text in memory, and no sum of them overflows. No word opens
at column 0, where it would be one character too long; one whose first unit does not fit opens on
the next line. -/
def words (offset : Nat) : List (List Char) → Segment
  | [] => ⟨[], offset⟩
  | u :: us =>
    let column := max offset 1 + opening.length + u.length
    if column ≤ maxColumn then
      let s := goOn column us
      ⟨opening ++ u ++ s.text, s.column⟩
    else
      let s := goOn (1 + opening.length + u.length) us
      ⟨fold ++ opening ++ u ++ s.text, s.column⟩

def encode (s : Bytes) (offset : Nat) : Segment :=
  words offset (Place.header.encode s)

def isPrintable (b : UInt8) : Bool :=
  32 ≤ b && b ≤ 126

/-- Printable text stays as it is; anything else becomes encoded words. -/
def encodeIfNeeded (s : Bytes) (offset : Nat) : List Char :=
  if s.all isPrintable then s.map fun b ↦ Char.ofNat b.toNat
  else (encode s offset).text

end EncodedWord

namespace QuotedString

def escape : List Char → List Char
  | [] => []
  | c :: s => if c == '"' || c == '\\' then '\\' :: c :: escape s else c :: escape s

def encode (s : List Char) : List Char :=
  '"' :: escape s ++ ['"']

end QuotedString

end MimeMail.Encoding
