import MimeMail.Encoding.EncodedWord
import MimeMail.Text.Basic

namespace MimeMail

open Encoding Text

namespace AddrSpec

/-- What the scan has seen: whether it is behind the `@`, and there a label, a dot behind a label,
and a character of a label behind such a dot. -/
structure Scan where
  inDomain : Bool := false
  label : Bool := false
  dot : Bool := false
  top : Bool := false
  deriving DecidableEq, Repr

def isBracket (c : Char) : Bool :=
  c == '[' || c == ']' || c == '\\'

def isGraphic (c : Char) : Bool :=
  '!' ≤ c && c ≤ '~'

/-- Reads one more character. Every dot starts a new last label. -/
def Scan.step (s : Scan) (c : Char) : Option Scan :=
  if c == '@' then if s.inDomain then none else some { s with inDomain := true }
  else if !isGraphic c then none
  else if !s.inDomain then some s
  else if c == '.' then some { s with dot := s.dot || s.label, top := false }
  else if isBracket c then none
  else some { s with label := true, top := s.dot }

def isValid (addr : List Char) : Bool :=
  (addr.foldlM Scan.step {}).any Scan.top

end AddrSpec

structure Address where
  name : String
  addr : String
  valid : AddrSpec.isValid addr.toList = true
  deriving DecidableEq

inductive AddressError where
  | invalidAddress (addr : String)
  | invalidMailbox (text : String)
  deriving DecidableEq, Repr

def AddressError.message : AddressError → String
  | .invalidAddress addr => "Invalid email address: " ++ addr
  | .invalidMailbox text => "Invalid mailbox: " ++ text

def splitLast (c : Char) : List Char → Option (List Char × List Char)
  | [] => none
  | d :: s =>
    match splitLast c s with
    | some (before, after) => some (d :: before, after)
    | none => if d == c then some ([], s) else none

namespace Address

def ofParts (name addr : String) : Except AddressError Address :=
  if h : AddrSpec.isValid addr.toList = true then .ok ⟨name, addr, h⟩
  else .error (.invalidAddress addr)

def bare (addr : String) : Except AddressError Address :=
  ofParts "" addr

def domain (a : Address) : String :=
  match splitLast '@' a.addr.toList with
  | some (_, d) => String.ofList d
  | none => ""

def unquote : List Char → List Char
  | '"' :: s => if s.getLast? = some '"' then s.dropLast else '"' :: s
  | s => s

/-- Reads a mailbox. The last `<` opens the addr-spec, which then goes to the end of the text. -/
def parse (text : String) : Except AddressError Address :=
  let s := trim text.toList
  match splitLast '<' s with
  | none => bare (String.ofList s)
  | some (name, rest) =>
    if rest.getLast? = some '>' then
      ofParts (String.ofList (unquote (trim name))) (String.ofList (trim rest.dropLast))
    else .error (.invalidMailbox (String.ofList s))

def display (a : Address) : String :=
  let addr := '<' :: a.addr.toList ++ ['>']
  String.ofList <|
    if a.name.isEmpty then addr else QuotedString.encode a.name.toList ++ ' ' :: addr

end Address

end MimeMail
