import MimeMail.Text.Basic

namespace MimeMail.Encoding

def isLead (b : UInt8) : Bool :=
  0xC0 ≤ b

def isContinuation (b : UInt8) : Bool :=
  0x80 ≤ b && b < 0xC0

theorem length_dropWhile_le (p : UInt8 → Bool) (s : Bytes) : (s.dropWhile p).length ≤ s.length :=
  (List.dropWhile_sublist p).length_le

def units : Bytes → List Bytes
  | [] => []
  | b :: s =>
    if isLead b then (b :: s.takeWhile isContinuation) :: units (s.dropWhile isContinuation)
    else [b] :: units s
termination_by s => s.length
decreasing_by
  · exact Nat.lt_succ_of_le (length_dropWhile_le ..)
  · simp

def hexDigit (n : UInt8) : Char :=
  Char.ofNat (if n < 10 then n.toNat + 48 else n.toNat + 55)

def escaped (b : UInt8) : List Char :=
  ['=', hexDigit (b >>> 4), hexDigit (b &&& 0x0F)]

/-- Where encoded bytes stand: in the body of a part, or in a word of a header. -/
inductive Place where
  | body
  | header
  deriving DecidableEq, Repr

/-- The character that stands for a byte that needs no escape. A header writes its spaces as `_`. -/
def Place.literal? : Place → UInt8 → Option Char
  | .body, b =>
    if b == 9 || (32 ≤ b && b ≤ 126 && b != 61) then some (Char.ofNat b.toNat) else none
  | .header, b =>
    if b == 32 then some '_'
    else if 33 ≤ b && b ≤ 126 && b != 61 && b != 63 && b != 95 then some (Char.ofNat b.toNat)
    else none

def Place.byte (p : Place) (b : UInt8) : List Char :=
  match p.literal? b with
  | some c => [c]
  | none => escaped b

def Place.unit (p : Place) (u : Bytes) : List Char :=
  u.flatMap p.byte

def Place.encode (p : Place) (s : Bytes) : List (List Char) :=
  (units s).map p.unit

namespace QuotedPrintable

/-- The last column that a unit may reach, which leaves room for `=`. -/
def maxColumn : Nat := 75

def softBreak : List Char := "=\r\n".toList

def lines (column : Nat) : List (List Char) → List Char
  | [] => []
  | u :: us =>
    if column + u.length ≤ maxColumn then u ++ lines (column + u.length) us
    else softBreak ++ u ++ lines u.length us

def endsInBlank (s : Bytes) : Bool :=
  s.getLast?.any fun b ↦ b == 9 || b == 32

def encode (s : Bytes) : List Char :=
  lines 0 (Place.body.encode s) ++ if endsInBlank s then ['='] else []

end QuotedPrintable

end MimeMail.Encoding
