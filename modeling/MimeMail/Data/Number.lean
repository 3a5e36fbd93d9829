import MimeMail.Decimal.Shortest

namespace MimeMail.Data

inductive Number where
  | int (value : Int)
  | float (value : Float)

namespace Number

def toFloat : Number → Float
  | .int i => Float.ofInt i
  | .float x => x

/-- Equality of numbers of one kind. A whole number differs from every double. -/
def beq : Number → Number → Bool
  | .int a, .int b => a == b
  | .float a, .float b => a == b
  | _, _ => false

/-- The exact value `m · 2^e` of a number, as `(m, e)`. -/
def binary : Number → Int × Int
  | .int i => (i, 0)
  | .float x =>
    let b := Decimal.Binary.ofBits x.toBits
    (if x.toBits.toNat < Nat.pow 2 63 then b.mantissa else -(b.mantissa : Int), b.exponent)

/-- The order of two numbers by their exact values, also of a whole number and a double. -/
def order (a b : Number) : Ordering :=
  let (m, d) := a.binary
  let (n, e) := b.binary
  let least := min d e
  compare (m * (Nat.pow 2 (d - least).toNat : Nat)) (n * (Nat.pow 2 (e - least).toNat : Nat))

/-- Where the decimal point of a double stands: positional writing is used from `10^(-5)` to
`10^16`. -/
def leastPoint : Int := -5

def greatestPoint : Int := 16

def zeros (n : Int) : String :=
  String.ofList (List.replicate n.toNat '0')

def exponentText (e : Int) : String :=
  (if 0 ≤ e then "e+" else "e-") ++ toString e.natAbs

def scaledText (d : Decimal.Scaled) : String :=
  let digits := toString d.digits
  let chars := digits.toList
  let point := chars.length + d.exponent
  if 0 ≤ d.exponent && point ≤ greatestPoint then digits ++ zeros d.exponent ++ ".0"
  else if 0 < point && point ≤ greatestPoint then
    String.ofList (chars.take point.toNat) ++ "." ++ String.ofList (chars.drop point.toNat)
  else if leastPoint < point && point ≤ 0 then "0." ++ zeros (-point) ++ digits
  else
    let tail := if chars.length = 1 then "" else "." ++ String.ofList (chars.drop 1)
    String.ofList (chars.take 1) ++ tail ++ exponentText (point - 1)

def floatText (x : Float) : String :=
  let sign := if x.toBits.toNat < Nat.pow 2 63 then "" else "-"
  let b := Decimal.Binary.ofBits x.toBits
  sign ++ if b.mantissa = 0 then "0.0" else scaledText b.shortest

def text : Number → String
  | .int i => toString i
  | .float x => floatText x

/-- Whether the number counts as true: every number of full precision other than zero. -/
def isTrue (n : Number) : Bool :=
  let x := n.toFloat.abs
  2.2250738585072014e-308 ≤ x

end Number

end MimeMail.Data
