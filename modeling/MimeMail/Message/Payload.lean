import MimeMail.Backend
import MimeMail.Files

namespace MimeMail

inductive Payload where
  | file (path : String) (cache : Option Bytes)
  | memory (data : Bytes)
  deriving DecidableEq, Repr

structure ReadFailure where
  path : String
  error : ReadError
  deriving DecidableEq, Repr

namespace Payload

def data? : Payload → Option Bytes
  | .file _ cache => cache
  | .memory data => some data

def path? : Payload → Option String
  | .file path _ => some path
  | .memory _ => none

def isFile : Payload → Bool
  | .file _ _ => true
  | .memory _ => false

/-- Reads a file that has not been read, or any file if `fresh`. A failure keeps what was read
before. -/
def load (read : FileReader) (fresh : Bool) : Payload → Payload × List ReadFailure
  | .memory data => (.memory data, [])
  | .file path cache =>
    if cache.isSome && !fresh then (.file path cache, [])
    else
      match read path with
      | .ok data => (.file path (some data), [])
      | .error e => (.file path cache, [⟨path, e⟩])

def forget : Payload → Payload
  | .file path _ => .file path none
  | .memory data => .memory data

def copy : Payload → Payload
  | .file path _ => .file path none
  | p => p

end Payload

/-- An object that a part refers to, such as an image, under a content id. -/
structure Related where
  id : String
  contentType : String
  payload : Payload
  deriving DecidableEq, Repr

structure Attachment where
  name : String
  contentType : String
  payload : Payload
  deriving DecidableEq, Repr

/-- An attached file. Without a name it has that of the file, and without a type the one that the
extension suggests. -/
def Attachment.ofFile [Backend] (name contentType path : String) : Attachment where
  name := if name.isEmpty then String.ofList ((Path.fileName? path).getD []) else name
  contentType := if contentType.isEmpty then Backend.typeOf path else contentType
  payload := .file path none

def collect {α ε : Type} (steps : List (α × List ε)) : List α × List ε :=
  (steps.map Prod.fst, steps.flatMap Prod.snd)

def Related.load (read : FileReader) (fresh : Bool) (r : Related) : Related × List ReadFailure :=
  let (payload, failures) := r.payload.load read fresh
  ({ r with payload := payload }, failures)

def Attachment.load (read : FileReader) (fresh : Bool) (a : Attachment) :
    Attachment × List ReadFailure :=
  let (payload, failures) := a.payload.load read fresh
  ({ a with payload := payload }, failures)

end MimeMail
