import MimeMail.Backend.Standard
import MimeMail.Session.Step

namespace MimeMail

variable [Backend]

/-- The state between two steps. A name stands for a slot, so that two names may share a message. -/
structure Session where
  names : List (String × Nat)
  slots : List Message
  senders : List (String × Sender)
  registry : Registry
  files : Files
  clock : Int
  tokens : TokenSource
  registered : Bool
  failure : Option TransportError

namespace Session

def initial : Session where
  names := []
  slots := []
  senders := []
  registry := ⟨none⟩
  files := .empty
  clock := 1377853811
  tokens := .fixed "TOKEN"
  registered := false
  failure := none

def registry? (s : Session) (used : Bool) : Option Registry :=
  if used then some s.registry else none

def currentComposer (s : Session) : Composer :=
  ⟨s.clock, s.tokens, s.registry? s.registered⟩

def add (s : Session) (name : String) (m : Message) : Session :=
  { s with names := (name, s.slots.length) :: s.names, slots := s.slots ++ [m] }

def slot (s : Session) (name : String) : Session × Nat :=
  match s.names.lookup name with
  | some i => (s, i)
  | none => (s.add name .empty, s.slots.length)

def messageAt (s : Session) (i : Nat) : Message :=
  (s.slots[i]?).getD .empty

def update (s : Session) (name : String) (m : Message) : Session :=
  let (s, i) := s.slot name
  { s with slots := s.slots.set i m }

def message (s : Session) (name : String) : Message :=
  let (s, i) := s.slot name
  s.messageAt i

/-- Accepts every delivery, or refuses every one, and keeps the last. -/
def recorder (failure : Option TransportError) : Transport (Option Delivery) := fun d _ ↦
  match failure with
  | none => (.ok (), some d)
  | some e => (.error e, some d)

def keepSender (s : Session) (name : String) (result : Except Failure Sender) :
    Session × Except Failure Answer :=
  match result with
  | .ok sender => ({ s with senders := (name, sender) :: s.senders }, .ok (.sender sender))
  | .error e => (s, .error e)

def edited (s : Session) (name : String) (e : Except Failure Edit) :
    Session × Except Failure Answer :=
  match e.bind fun e ↦ ((s.message name).edit e).mapError .template with
  | .ok m => (s.update name m, .ok (.message m))
  | .error e => (s, .error e)

def afterSend (s : Session) (name : String) (sent : Sent (Option Delivery)) :
    Session × Except Failure Answer :=
  let s := s.update name sent.message
  match sent.answer, sent.state with
  | .ok (), some d => (s, .ok (.delivered d))
  | .ok (), none => (s, .ok .done)
  | .error e, _ => (s, .error (.send e))

def AddressRole.edit : AddressRole → Address → Edit
  | .author => .author
  | .replyTo => .replyTo

def ListRole.edit : ListRole → List Address → Edit
  | .addressees => .addressees
  | .cc => .cc
  | .bcc => .bcc

/-- The composer that stamps with the words `DATE` and `TOKEN`. -/
def unstamped (_ : String) : Stamp :=
  ⟨"DATE", "TOKEN"⟩

def step (s : Session) : Step → Session × Except Failure Answer
  | .writeFile path data => ({ s with files := s.files.write path data }, .ok .done)
  | .makeDirectory path => ({ s with files := s.files.makeDirectory path }, .ok .done)
  | .removeFile path => ({ s with files := s.files.remove path }, .ok .done)
  | .newSender name sender => s.keepSender name sender.resolve
  | .configureSender name config =>
    s.keepSender name ((SenderConfig.resolve config).map (·.2))
  | .setDefault name =>
    match s.senders.lookup name with
    | some sender => ({ s with registry := ⟨some sender⟩ }, .ok (.sender sender))
    | none => (s, .error .unknownSender)
  | .clearDefault => ({ s with registry := ⟨none⟩ }, .ok .done)
  | .getDefault => (s, .ok (.defaultSender s.registry.default?))
  | .composer clock tokens registered =>
    ({ s with clock := clock, tokens := tokens, registered := registered },
      .ok (.composer registered))
  | .transport failure => ({ s with failure := failure }, .ok .done)
  | .new name => (s.add name .empty, .ok .done)
  | .quick name subject text html =>
    let m := Message.quick subject text html
    (s.add name m, .ok (.message m))
  | .snapshot name copy =>
    let m := (s.message name).copy
    ((s.slot name).1.add copy m, .ok (.message m))
  | .share name handle =>
    let (s, i) := s.slot name
    ({ s with names := (handle, i) :: s.names }, .ok .done)
  | .state name => (s, .ok (.message (s.message name)))
  | .author name registered =>
    let addr := (s.message name).resolveAuthor (s.registry? registered)
    (s, .ok (.author (addr.map (·.addr))))
  | .recipients name registered =>
    (s, .ok (.recipients ((s.message name).recipients (s.registry? registered))))
  | .edit name e => s.edited name (.ok e)
  | .setSender name sender =>
    match s.senders.lookup sender with
    | some sender => s.edited name (.ok (.sender sender))
    | none => (s, .error .unknownSender)
  | .setAddress name role a => s.edited name ((a.resolve.map role.edit).mapError .address)
  | .setList name role list =>
    s.edited name (((list.mapM AddressInput.resolve).map role.edit).mapError .address)
  | .prepare name fresh =>
    let (m, failures) := (s.message name).load s.files.read fresh
    (s.update name m,
      if failures.isEmpty then .ok (.message m) else .error (.prepare (failures.map .payload)))
  | .compose name data =>
    let (m, result) := s.currentComposer.compose s.files.read data (s.message name)
    (s.update name m, (result.map .composed).mapError .compose)
  | .composeUnstamped name data =>
    let (m, result) := (s.message name).compose none unstamped s.files.read data
    (s.update name m, (result.map .composed).mapError .compose)
  | .send name sender data =>
    match s.senders.lookup sender with
    | none => (s, .error .unknownSender)
    | some sender =>
      s.afterSend name <|
        sender.send s.currentComposer s.files.read data (recorder s.failure) (s.message name) none
  | .sendDefault name data =>
    s.afterSend name <|
      s.registry.send s.currentComposer s.files.read data (recorder s.failure) (s.message name) none

def run (s : Session) : List Step → List (Except Failure Answer)
  | [] => []
  | step :: steps =>
    let (s, answer) := s.step step
    answer :: s.run steps

end Session

end MimeMail
