import MimeMail.Backend
import MimeMail.Data.Value

namespace MimeMail

/-- What is wrong with a template. The detail of the finding is written as `<engine>`; a backend
that knows it has faults that carry it. -/
inductive TemplateError where
  | malformed
  | unrenderable
  deriving DecidableEq, Repr

def TemplateError.message : TemplateError → String
  | .malformed => "Invalid template: <engine>"
  | .unrenderable => "Template rendering failed: <engine>"

namespace Template

/-- A path into the data: from the root, or from the value that the current block is about, or from
that of a block `up` levels further out. -/
structure Path where
  fromRoot : Bool
  up : Nat
  steps : List String
  deriving DecidableEq, Repr

inductive Expr where
  | literal (v : Data.Value)
  | path (p : Path)
  | iteration (up : Nat) (name : String)
  | call (helper : String) (args : List Expr) (options : List (String × Expr))

/-- A helper with its arguments, as it stands at the head of a block, and the names that the block
gives to what it is about. -/
structure Head where
  helper : String
  args : List Expr
  options : List (String × Expr)
  names : List String

structure FragmentCall where
  name : Expr
  args : List Expr
  options : List (String × Expr)

/-- How a tag stands on its line: whether it takes the whole line with it, and the blanks before it,
which a fragment puts before each of its lines. -/
structure Placement where
  alone : Bool
  indent : List Char

/-- A piece of a template. `indirect` calls the helper whose name `e` gives, without arguments; if
there is none, it inserts that name itself. `define` gives a name to the fragment `body`. `fragment`
inserts the fragment that is called for; one with a body hands it on, and inserts it if there is no
such fragment. `invalid` cannot be rendered. -/
inductive Node where
  | text (s : List Char)
  | value (e : Expr) (escape : Bool)
  | indirect (e : Expr) (escape : Bool)
  | block (head : Head) (alone : Bool) (body inverse : List Node)
  | define (head : Head) (body : List Node)
  | fragment (call : FragmentCall) (place : Placement) (body : Option (List Node))
  | invalid

end Template

structure Template where
  source : String
  escaping : Escaping
  nodes : List Template.Node

end MimeMail
