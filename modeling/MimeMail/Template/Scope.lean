import MimeMail.Template.Helper

namespace MimeMail.Template

open Data

/-- What a block is about, with the variables of its iteration and the values that it names. -/
structure Scope where
  value : Value
  iteration : List (String × Value) := []
  named : List (String × Value) := []

structure Context where
  root : Value
  scopes : List Scope

def index? (step : String) : Option Nat := do
  let digits := match step.toList with
    | '+' :: s => s
    | s => s
  let n ← Text.digitsValue? 10 digits
  if n < Nat.pow 2 64 then some n else none

/-- Follows the steps of a path. What is not there is `none`; a step into an array that is no index
fails. -/
def follow : List String → Value → Option (Option Value)
  | [], v => some (some v)
  | step :: steps, .array items => do
    match items[← index? step]? with
    | some v => follow steps v
    | none => some none
  | step :: steps, .object fields =>
    match fields.lookup step with
    | some v => follow steps v
    | none => some none
  | _ :: _, _ => some none

namespace Context

/-- The scope `up` levels out; the innermost one if there are not so many. -/
def scope? (c : Context) (up : Nat) : Option Scope :=
  (c.scopes[up]?).or c.scopes.head?

def named? (c : Context) (name : String) : Option Value :=
  c.scopes.findSome? (·.named.lookup name)

def value (c : Context) (up : Nat) : Value :=
  ((c.scope? up).map (·.value)).getD c.root

def path (c : Context) (p : Path) : Option (Option Value) :=
  if p.fromRoot then follow p.steps c.root
  else
    match p.steps.head?.bind c.named? with
    | some v => follow p.steps.tail v
    | none => follow p.steps (c.value p.up)

def iteration (c : Context) (up : Nat) (name : String) : Option Value :=
  (c.scopes[up]?).bind (·.iteration.lookup name)

def currentIteration (c : Context) : List (String × Value) :=
  (c.scopes.head?.map (·.iteration)).getD []

def enter (c : Context) (s : Scope) : Context :=
  { c with scopes := s :: c.scopes }

/-- The context of a fragment: with an argument it is about that, and with options it is about an
object with these as fields. Then it has no scope but its own. -/
def enterFragment (c : Context) (args : List Value) (options : List (String × Value)) : Context :=
  if args.isEmpty && options.isEmpty then c
  else
    let v := args.headD (c.value 0)
    { c with scopes := [{ value := if options.isEmpty then v else v.withFields options }] }

end Context

mutual

/-- The value of an expression; `none` if it fails. What is not there counts as null. -/
def Expr.value? (c : Context) : Expr → Option Value
  | .literal v => some v
  | .path p => (c.path p).map (·.getD .null)
  | .iteration up name => some ((c.iteration up name).getD .null)
  | .call helper args options => do
    let args ← values? c args
    let options ← optionValues? c options
    (← Helper.ofName? helper).value? args options

def values? (c : Context) : List Expr → Option (List Value)
  | [] => some []
  | e :: es => do
    let v ← e.value? c
    let vs ← values? c es
    some (v :: vs)

def optionValues? (c : Context) : List (String × Expr) → Option (List (String × Value))
  | [] => some []
  | (name, e) :: es => do
    let v ← e.value? c
    let vs ← optionValues? c es
    some ((name, v) :: vs)

end

end MimeMail.Template
