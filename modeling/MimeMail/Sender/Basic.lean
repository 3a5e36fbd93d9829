import MimeMail.Address.Basic
import MimeMail.Text.Basic
import MimeMail.Text.Visible

namespace MimeMail

inductive ConfigError where
  | emptyHost
  | invalidPort (text : String)
  | emptyUsername
  | emptyPassword
  | invalidAddress (e : AddressError)
  deriving DecidableEq, Repr

def ConfigError.message : ConfigError → String
  | .emptyHost => "SMTP host is required"
  | .invalidPort text => "Invalid port number: " ++ text
  | .emptyUsername => "SMTP username is required"
  | .emptyPassword => "SMTP password is required"
  | .invalidAddress e => "Invalid sender address: " ++ e.message

structure Sender where
  host : String
  port : Nat
  username : String
  password : String
  address : Option Address
  deriving DecidableEq

namespace Sender

def defaultPort : Nat := 25

def greatestPort : Nat := 65535

/-- The number that the text behind the colon gives; 0 if there is none. -/
def portNumber? (digits : List Char) : Option Nat :=
  if digits.isEmpty then some 0
  else if digits.all Char.isDigit then
    (Text.digitsValue? 10 digits).bind fun n ↦ if n ≤ greatestPort then some n else none
  else none

def parseHost (host : String) : Except ConfigError (String × Nat) :=
  let name := host.toList.takeWhile (· != ':')
  match portNumber? (host.toList.drop (name.length + 1)) with
  | none => .error (.invalidPort host)
  | some port =>
    if name.isEmpty then .error .emptyHost
    else .ok (String.ofList name, if port = 0 then defaultPort else port)

def new (host username password : String) : Except ConfigError Sender := do
  let (name, port) ← parseHost host
  if username.isEmpty then .error .emptyUsername
  else if password.isEmpty then .error .emptyPassword
  else .ok ⟨name, port, username, password, none⟩

def withAddress (s : Sender) (a : Address) : Sender :=
  { s with address := some a }

/-- How a character is written inside a described text: one that is not visible by its number. -/
def describedChar (c : Char) : List Char :=
  match c with
  | '"' => ['\\', '"']
  | '\\' => ['\\', '\\']
  | '\t' => ['\\', 't']
  | '\n' => ['\\', 'n']
  | '\r' => ['\\', 'r']
  | '\x00' => ['\\', '0']
  | c =>
    if Text.isVisible c then [c]
    else "\\u\x7b".toList ++ Nat.toDigits 16 c.toNat ++ ['\x7d']

def describedText (s : String) : String :=
  "\"" ++ String.ofList (s.toList.flatMap describedChar) ++ "\""

def describedAddress : Option Address → String
  | none => "None"
  | some a =>
    "Some(Address \x7b name: " ++ describedText a.name ++ ", addr: " ++ describedText a.addr ++
      " \x7d)"

def describe (s : Sender) : String :=
  "Sender \x7b host: " ++ describedText s.host ++ ", port: " ++ toString s.port ++
    ", username: " ++ describedText s.username ++ ", password: \"<redacted>\", address: " ++
    describedAddress s.address ++ " \x7d"

end Sender

structure Registry where
  default? : Option Sender
  deriving DecidableEq

end MimeMail
