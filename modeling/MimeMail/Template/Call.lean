import MimeMail.Template.Helper
import MimeMail.Template.Literal
import MimeMail.Template.Reference

namespace MimeMail.Template

abbrev Arguments := List Expr × List (String × Expr)

def Arguments.isEmpty (a : Arguments) : Bool :=
  a.1.isEmpty && a.2.isEmpty

def Arguments.pushFirst (e : Expr) (a : Arguments) : Arguments :=
  (e :: a.1, a.2)

/-- Puts an option in front of others. Of two options of one name the last counts. -/
def Arguments.pushOption (o : String × Expr) (a : Arguments) : Arguments :=
  if a.2.any (·.1 == o.1) then a else (a.1, o :: a.2)

def startsReserved (s : List Char) : Bool :=
  ["as", "else"].any fun w ↦ (dropText? w.toList s).any fun rest ↦ !startsName (skipBlank rest)

mutual

def argument : Nat → Reader Expr
  | 0, _ => none
  | fuel + 1, s =>
    if startsReserved s then none
    else
      match literal? s with
      | some (v, rest) => v.map (.literal ·, rest)
      | none => reference s <|> nested fuel s

def nested : Nat → Reader Expr
  | 0, _ => none
  | fuel + 1, s => do
    let (_, s) ← word "(" s
    let s := skipBlank s
    let (e, rest) ← called fuel s <|> do
      let (_, rest) ← reference s
      some (.call (String.ofList (Text.consumed s rest)) [] [], rest)
    let (_, rest) ← token (word ")") rest
    some (e, rest)

def called : Nat → Reader Expr
  | 0, _ => none
  | fuel + 1, s => do
    let (helper, s) ← name s
    let (a, s) := arguments fuel s
    if a.isEmpty then none else some (.call helper a.1 a.2, s)

def arguments : Nat → List Char → Arguments × List Char
  | 0, s => (([], []), s)
  | fuel + 1, s =>
    match token (option fuel) s with
    | some (o, rest) =>
      let (a, rest) := arguments fuel rest
      (a.pushOption o, rest)
    | none =>
      match token (argument fuel) s with
      | some (e, rest) =>
        let (a, rest) := arguments fuel rest
        (a.pushFirst e, rest)
      | none => (([], []), s)

def option : Nat → Reader (String × Expr)
  | 0, _ => none
  | fuel + 1, s => do
    let (key, s) ← name s
    let (_, s) ← token (word "=") s
    let (e, s) ← token (argument fuel) s
    some ((key, e), s)

end

def callDepth (s : List Char) : Nat :=
  4 * s.length + 4

/-- The names that a block gives: `as |item|` or `as |item key|`. -/
def blockNames : Reader (List String) := fun s ↦ do
  let (_, s) ← token (word "as") s
  let (_, s) ← token (word "|") s
  let (first, s) ← token name s
  let (others, s) := match token name s with
    | some (second, s) => ([second], s)
    | none => ([], s)
  let (_, s) ← token (word "|") s
  some (first :: others, s)

def head : Reader Head := fun s ↦ do
  let (helper, s) ← token name s
  let (a, s) := arguments (callDepth s) s
  let (names, s) := (blockNames s).getD ([], s)
  some (⟨helper, a.1, a.2, names⟩, s)

/-- What a tag inserts by a name: a call in parentheses, whose text may be the name of a helper, or
a reference. A reference that is the name of a helper calls it. -/
def named (escape : Bool) : Reader Node := fun s ↦
  let s := skipBlank s
  match nested (callDepth s) s with
  | some (e, rest) => some (.indirect e escape, rest)
  | none => do
    let (e, rest) ← reference s
    let text := String.ofList (Text.consumed s rest)
    let e := if (Helper.ofName? text).isSome then .call text [] [] else e
    some (.value e escape, rest)

def inserted (escape : Bool) : Reader Node := fun s ↦
  (token (called (callDepth s)) s).map (fun (e, s) ↦ (.value e escape, s)) <|> named escape s

end MimeMail.Template
