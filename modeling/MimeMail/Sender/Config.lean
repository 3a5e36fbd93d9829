import MimeMail.Data.Value
import MimeMail.Sender.Basic

namespace MimeMail

structure SenderConfig where
  host : String
  port : Option Nat
  username : String
  password : String
  address : Option String
  deriving DecidableEq, Repr

namespace SenderConfig

open Data

def optional? {α : Type} (read : Value → Option α) (name : String) (v : Value) :
    Option (Option α) :=
  match v.field? name with
  | none | some .null => some none
  | some w => (read w).map some

def port? (v : Value) : Option Nat :=
  v.nat?.bind fun n ↦ if n ≤ Sender.greatestPort then some n else none

def ofValue? (v : Value) : Option SenderConfig := do
  let text := fun name ↦ (v.field? name).bind Value.string?
  let host ← text "host"
  let port ← optional? port? "port" v
  let username ← text "username"
  let password ← text "password"
  let address ← optional? Value.string? "address" v
  some ⟨host, port, username, password, address⟩

end SenderConfig

namespace Sender

/-- The port that the settings give over that of the host. -/
def configuredPort (port : Nat) : Option Nat → Except ConfigError Nat
  | none => .ok port
  | some p => if p = 0 then .error (.invalidPort "0") else .ok p

def configuredAddress : Option String → Except ConfigError (Option Address)
  | none => .ok none
  | some text =>
    match Address.parse text with
    | .ok a => .ok (some a)
    | .error e => .error (.invalidAddress e)

def ofConfig (c : SenderConfig) : Except ConfigError Sender := do
  let s ← new c.host c.username c.password
  let port ← configuredPort s.port c.port
  let address ← configuredAddress c.address
  .ok { s with port := port, address := address }

end Sender

end MimeMail
