import MimeMail.Data.Value
import MimeMail.Text.Basic

namespace MimeMail.Data.Json

open Text

def isBlank (c : Char) : Bool :=
  c == ' ' || c == '\n' || c == '\t' || c == '\r'

def skipBlank (s : List Char) : List Char :=
  s.dropWhile isBlank

def codeUnit? : List Char → Option (Nat × List Char)
  | a :: b :: c :: d :: s => do
    let n ← digitsValue? 16 [a, b, c, d]
    some (n, s)
  | _ => none

def escape? : Char → Option Char
  | '"' => some '"'
  | '\\' => some '\\'
  | '/' => some '/'
  | 'b' => some '\x08'
  | 'f' => some '\x0c'
  | 'n' => some '\n'
  | 'r' => some '\r'
  | 't' => some '\t'
  | _ => none

/-- A character written by its code unit, or by a pair of surrogates. -/
def escapedUnit? (s : List Char) : Option (Char × List Char) := do
  let (n, s) ← codeUnit? s
  if 0xD800 ≤ n ∧ n < 0xDC00 then
    match s with
    | '\\' :: 'u' :: s =>
      let (m, s) ← codeUnit? s
      if 0xDC00 ≤ m ∧ m < 0xE000 then
        some (Char.ofNat (0x10000 + (n - 0xD800) * 0x400 + (m - 0xDC00)), s)
      else none
    | _ => none
  else if 0xDC00 ≤ n ∧ n < 0xE000 then none
  else some (Char.ofNat n, s)

def stringRest? (close : Char) : Nat → List Char → Option (List Char × List Char)
  | 0, _ => none
  | _ + 1, [] => none
  | fuel + 1, c :: s =>
    if c == close then some ([], s)
    else if c == '\\' then
      match s with
      | 'u' :: s => do
        let (c, s) ← escapedUnit? s
        let (cs, s) ← stringRest? close fuel s
        some (c :: cs, s)
      | e :: s => do
        let c ← if e == close then some e else escape? e
        let (cs, s) ← stringRest? close fuel s
        some (c :: cs, s)
      | [] => none
    else if c.toNat < 32 then none
    else do
      let (cs, s) ← stringRest? close fuel s
      some (c :: cs, s)

def quoted? (quote : Char) : List Char → Option (String × List Char)
  | c :: s =>
    if c == quote then do
      let (cs, s) ← stringRest? quote (s.length + 1) s
      some (String.ofList cs, s)
    else none
  | [] => none

def digitValue (c : Char) : Nat :=
  c.toNat - 48

/-- The digits of a number, as far as they fit into 64 bits, and the power of ten to scale by.
`full` tells that a digit did not fit. -/
structure Digits where
  significand : Nat
  exponent : Int
  full : Bool := false

/-- Reads one more digit; `shift` tells that it stands behind the point. -/
def Digits.push (shift : Bool) (d : Digits) (c : Char) : Digits :=
  let n := d.significand * 10 + digitValue c
  if d.full || Nat.pow 2 64 ≤ n then
    { d with full := true, exponent := if shift then d.exponent else d.exponent + 1 }
  else { d with significand := n, exponent := if shift then d.exponent - 1 else d.exponent }

def Digits.ofWhole (s : List Char) : Digits :=
  s.foldl (Digits.push false) ⟨0, 0, false⟩

/-- Reads the digits behind the point. They are tried anew: those that fit are kept, also when some
before the point were not. -/
def Digits.pushPlaces (d : Digits) (s : List Char) : Digits :=
  s.foldl (Digits.push true) { d with full := false }

/-- The double `significand · 10^exponent`, scaled once. -/
def Digits.toFloat? (d : Digits) : Option Float :=
  let x := d.significand.toUInt64.toFloat
  let power := fun n ↦ Float.ofScientific 1 false n
  if 0 ≤ d.exponent then
    if d.exponent ≤ 308 then
      let y := x * power d.exponent.toNat
      if y.isInf then none else some y
    else if x == 0 then some 0 else none
  else if -308 ≤ d.exponent then some (x / power (-d.exponent).toNat)
  else if -616 ≤ d.exponent then some (x / power 308 / power (-d.exponent - 308).toNat)
  else some 0

def exponent? : List Char → Option (Int × List Char)
  | s =>
    let (negative, s) := match s with
      | '+' :: s => (false, s)
      | '-' :: s => (true, s)
      | s => (false, s)
    let digits := s.takeWhile Char.isDigit
    (digitsValue? 10 digits).map fun n ↦
      (if negative then -(n : Int) else n, s.drop digits.length)

def number? (s : List Char) : Option (Number × List Char) := do
  let (negative, s) := match s with
    | '-' :: s => (true, s)
    | s => (false, s)
  let whole := s.takeWhile Char.isDigit
  if whole.isEmpty || (1 < whole.length && whole.head? == some '0') then none
  let s := s.drop whole.length
  let d := Digits.ofWhole whole
  let (d, s, pointed) ← match s with
    | '.' :: s =>
      let places := s.takeWhile Char.isDigit
      if places.isEmpty then none
      else some (d.pushPlaces places, s.drop places.length, true)
    | s => some (d, s, false)
  let (d, s, scaled) ← match s with
    | 'e' :: s => (exponent? s).map fun (e, s) ↦ ({ d with exponent := d.exponent + e }, s, true)
    | 'E' :: s => (exponent? s).map fun (e, s) ↦ ({ d with exponent := d.exponent + e }, s, true)
    | s => some (d, s, pointed)
  if scaled || d.full then
    let x ← d.toFloat?
    some (.float (if negative then -x else x), s)
  else if !negative then some (.int d.significand, s)
  else if d.significand = 0 || Nat.pow 2 63 < d.significand then
    some (.float (-d.significand.toUInt64.toFloat), s)
  else some (.int (-(d.significand : Int)), s)

def nestingLimit : Nat := 127

mutual

/-- Reads a value whose arrays and objects are nested at most `depth` deep; each nested value takes
one unit of `fuel`. -/
def value? : Nat → Nat → List Char → Option (Value × List Char)
  | 0, _, _ => none
  | fuel + 1, depth, s =>
    match skipBlank s with
    | 'n' :: 'u' :: 'l' :: 'l' :: s => some (.null, s)
    | 't' :: 'r' :: 'u' :: 'e' :: s => some (.bool true, s)
    | 'f' :: 'a' :: 'l' :: 's' :: 'e' :: s => some (.bool false, s)
    | '"' :: s => (quoted? '"' ('"' :: s)).map fun (text, s) ↦ (.string text, s)
    | '[' :: s =>
      match depth, skipBlank s with
      | 0, _ => none
      | _, ']' :: s => some (.array [], s)
      | depth + 1, s => (items? fuel depth s).map fun (vs, s) ↦ (.array vs, s)
    | '\x7b' :: s =>
      match depth, skipBlank s with
      | 0, _ => none
      | _, '\x7d' :: s => some (.object [], s)
      | depth + 1, s => (fields? fuel depth s).map fun (fs, s) ↦ (.ofFields fs, s)
    | s => (number? s).map fun (n, s) ↦ (.number n, s)

def items? : Nat → Nat → List Char → Option (List Value × List Char)
  | 0, _, _ => none
  | fuel + 1, depth, s => do
    let (v, s) ← value? fuel depth s
    match skipBlank s with
    | ',' :: s => (items? fuel depth s).map fun (vs, s) ↦ (v :: vs, s)
    | ']' :: s => some ([v], s)
    | _ => none

def fields? : Nat → Nat → List Char → Option (List (String × Value) × List Char)
  | 0, _, _ => none
  | fuel + 1, depth, s => do
    let (name, s) ← quoted? '"' (skipBlank s)
    match skipBlank s with
    | ':' :: s =>
      let (v, s) ← value? fuel depth s
      match skipBlank s with
      | ',' :: s => (fields? fuel depth s).map fun (fs, s) ↦ ((name, v) :: fs, s)
      | '\x7d' :: s => some ([(name, v)], s)
      | _ => none
    | _ => none

end

def parse? (s : List Char) : Option Value := do
  let (v, rest) ← value? (2 * s.length + 2) nestingLimit s
  if (skipBlank rest).isEmpty then some v else none

end MimeMail.Data.Json
