import MimeMail.Template.Basic
import MimeMail.Template.Reader

namespace MimeMail.Template

/-- One step of a path: a name, or anything between square brackets. -/
def step : Reader String := fun s ↦
  match s with
  | '[' :: s =>
    let inner := s.takeWhile (· != ']')
    match s.drop inner.length with
    | _ :: rest => some (String.ofList inner, rest)
    | [] => none
  | s => name s

def isSeparator (c : Char) : Bool :=
  c == '.' || c == '/'

def furtherSteps : Nat → List Char → List String × List Char
  | 0, s => ([], s)
  | fuel + 1, c :: s =>
    if isSeparator c then
      match step s with
      | some (x, rest) =>
        let (xs, rest) := furtherSteps fuel rest
        (x :: xs, rest)
      | none => ([], c :: s)
    else ([], c :: s)
  | _ + 1, [] => ([], [])

def ups : List Char → Nat × List Char
  | '.' :: '.' :: c :: s =>
    if isSeparator c then
      let (n, rest) := ups s
      (n + 1, rest)
    else (0, '.' :: '.' :: c :: s)
  | s => (0, s)

def dropRoot (w : String) (s : List Char) : Option (List Char) :=
  match dropText? w.toList s with
  | some (c :: rest) => if isSeparator c then some rest else none
  | _ => none

/-- A path, or a variable of an iteration. An iteration without a variable is the value that the
innermost block is about. -/
def reference : Reader Expr := fun s ↦ do
  let s := (dropRoot "this" s <|> dropText? "./".toList s).getD s
  let (fromRoot, s) := match dropRoot "@root" s with
    | some rest => (true, rest)
    | none => (false, s)
  let (iterating, s) := match s with
    | '@' :: rest => (true, rest)
    | s => (false, s)
  let (up, s) := ups s
  let (first, s) ← step s
  let (others, s) := furtherSteps s.length s
  let steps := (first :: others).filter (· != "this")
  match iterating && !fromRoot, steps with
  | true, variableName :: _ => some (.iteration up variableName, s)
  | true, [] => some (.path ⟨false, 0, []⟩, s)
  | false, steps => some (.path ⟨fromRoot, up, steps⟩, s)

end MimeMail.Template
