import MimeMail.Delivery
import MimeMail.Sender.Config

namespace MimeMail

variable [Backend]

/-- An address as it is given: the text of a mailbox, or a name and an addr-spec. -/
inductive AddressInput where
  | mailbox (text : String)
  | parts (name : Option String) (addr : String)
  deriving DecidableEq, Repr

def AddressInput.resolve : AddressInput → Except AddressError Address
  | .mailbox text => Address.parse text
  | .parts none addr => Address.bare addr
  | .parts (some name) addr => Address.ofParts name addr

structure SenderInput where
  host : String
  username : String
  password : String
  address : Option AddressInput
  deriving DecidableEq, Repr

namespace Session

inductive Failure where
  | address (e : AddressError)
  | config (e : ConfigError)
  | settings
  | template (e : Backend.Fault)
  | compose (errors : List ComposeError)
  | prepare (errors : List ComposeError)
  | send (e : SendError)
  | unknownSender

end Session

/-- The server first, then the address. -/
def SenderInput.resolve (s : SenderInput) : Except Session.Failure Sender := do
  let sender ← (Sender.new s.host s.username s.password).mapError .config
  match s.address with
  | none => .ok sender
  | some a => do
    let a ← a.resolve.mapError .address
    .ok (sender.withAddress a)

def SenderConfig.resolve (v : Data.Value) : Except Session.Failure (SenderConfig × Sender) :=
  match SenderConfig.ofValue? v with
  | none => .error .settings
  | some c => do
    let s ← (Sender.ofConfig c).mapError .config
    .ok (c, s)

namespace Session

inductive AddressRole where
  | author
  | replyTo
  deriving DecidableEq, Repr

inductive ListRole where
  | addressees
  | cc
  | bcc
  deriving DecidableEq, Repr

inductive Step where
  | writeFile (path : String) (data : Bytes)
  | makeDirectory (path : String)
  | removeFile (path : String)
  | newSender (name : String) (s : SenderInput)
  | configureSender (name : String) (config : Data.Value)
  | setDefault (sender : String)
  | clearDefault
  | getDefault
  | composer (clock : Int) (tokens : TokenSource) (registered : Bool)
  | transport (failure : Option TransportError)
  | new (name : String)
  | quick (name subject : String) (text html : Option String)
  | snapshot (name copy : String)
  | share (name handle : String)
  | state (name : String)
  | author (name : String) (registered : Bool)
  | recipients (name : String) (registered : Bool)
  | edit (name : String) (e : Edit)
  | setSender (name sender : String)
  | setAddress (name : String) (role : AddressRole) (a : AddressInput)
  | setList (name : String) (role : ListRole) (list : List AddressInput)
  | prepare (name : String) (fresh : Bool)
  | compose (name : String) (data : Backend.Data)
  | composeUnstamped (name : String) (data : Backend.Data)
  | send (name sender : String) (data : Backend.Data)
  | sendDefault (name : String) (data : Backend.Data)

inductive Answer where
  | done
  | sender (s : Sender)
  | defaultSender (s : Option Sender)
  | composer (registered : Bool)
  | message (m : Message)
  | author (addr : Option String)
  | recipients (addrs : List String)
  | composed (text : List Char)
  | delivered (d : Delivery)

end Session

end MimeMail
