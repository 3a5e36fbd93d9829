import MimeMail.Text.Basic

namespace MimeMail

namespace Path

/-- The components of a path. Empty ones and `.` lead nowhere and are left out. -/
def components (path : String) : List (List Char) :=
  (path.toList.splitOn '/').filter fun c ↦ c != [] && c != ['.']

def upwards : List Char := ['.', '.']

/-- The name of the file: the last component, unless it leads upwards. -/
def fileName? (path : String) : Option (List Char) :=
  match (components path).getLast? with
  | some c => if c == upwards then none else some c
  | none => none

/-- The part of a name behind its last dot. A dot at the start begins no extension. -/
def extension (name : List Char) : List Char :=
  let tail := (name.reverse.takeWhile (· != '.')).reverse
  if tail.length + 1 < name.length then tail else []

end Path

inductive ReadError where
  | notFound
  | notDirectory
  | isDirectory
  | other (text : String)
  deriving DecidableEq, Repr

def ReadError.message : ReadError → String
  | .notFound => "No such file or directory (os error 2)"
  | .notDirectory => "Not a directory (os error 20)"
  | .isDirectory => "Is a directory (os error 21)"
  | .other text => text

/-- What reading a file by its path gives at one moment. A path is text; an error that is none of
the known ones is `other`, with its own message. -/
abbrev FileReader := String → Except ReadError Bytes

abbrev Way := List (List Char)

/-- Where a path leads: into the tree, or to some directory outside of it. -/
inductive Place where
  | inside (way : Way)
  | outside
  deriving DecidableEq, Repr

def Place.up : Place → Place
  | .inside [] | .outside => .outside
  | .inside way => .inside way.dropLast

def Place.start (path : String) : Place :=
  if path.toList.head? == some '/' then .outside else .inside []

structure Files where
  contents : List (Way × Bytes)
  directories : List Way

namespace Files

def empty : Files := ⟨[], []⟩

def isDirectory (fs : Files) : Place → Bool
  | .inside way => way.isEmpty || fs.directories.contains way
  | .outside => true

/-- Walks along components from a place. Only a directory has anything below it, and one outside of
the tree nothing known. -/
def walk (fs : Files) : Place → List (List Char) → Except ReadError Place
  | p, [] => .ok p
  | .outside, c :: cs => if c == Path.upwards then fs.walk .outside cs else .error .notFound
  | .inside way, c :: cs =>
    if fs.isDirectory (.inside way) then
      fs.walk (if c == Path.upwards then (Place.inside way).up else .inside (way ++ [c])) cs
    else if (fs.contents.lookup way).isSome then .error .notDirectory
    else .error .notFound

def endsInSlash (path : String) : Bool :=
  path.toList.getLast? == some '/' || path.toList.drop (path.length - 2) == ['/', '.']

def read (fs : Files) : FileReader := fun path ↦ do
  if path.isEmpty then .error .notFound
  else
    match ← fs.walk (.start path) (Path.components path) with
    | .outside => .error .isDirectory
    | .inside way =>
      if fs.isDirectory (.inside way) then .error .isDirectory
      else
        match fs.contents.lookup way with
        | some data => if endsInSlash path then .error .notDirectory else .ok data
        | none => .error .notFound

def addDirectories (fs : Files) : Place → List (List Char) → Files × Place
  | p, [] => (fs, p)
  | .outside, _ :: cs => fs.addDirectories .outside cs
  | .inside way, c :: cs =>
    if c == Path.upwards then fs.addDirectories (Place.inside way).up cs
    else
      let way := way ++ [c]
      { fs with directories := way :: fs.directories }.addDirectories (.inside way) cs

def makeDirectory (fs : Files) (path : String) : Files :=
  (fs.addDirectories (.start path) (Path.components path)).1

def write (fs : Files) (path : String) (data : Bytes) : Files :=
  let cs := Path.components path
  let (fs, p) := fs.addDirectories (.start path) cs.dropLast
  match p, cs.getLast? with
  | .inside way, some name =>
    let way := way ++ [name]
    { fs with contents := (way, data) :: fs.contents.filter (·.1 != way) }
  | _, _ => fs

def remove (fs : Files) (path : String) : Files :=
  match fs.walk (.start path) (Path.components path) with
  | .ok (.inside way) => { fs with contents := fs.contents.filter (·.1 != way) }
  | _ => fs

end Files

end MimeMail
