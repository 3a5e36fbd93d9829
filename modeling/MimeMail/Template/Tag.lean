import MimeMail.Template.Call

namespace MimeMail.Template

/-- The kinds of tags. `define` and `frame` start the blocks that define a fragment and that call
for one with a body. The end of a block has the name of the block, or none. -/
inductive TagKind where
  | insert (n : Node)
  | fragment (call : FragmentCall)
  | start (h : Head)
  | define (h : Head)
  | frame (call : FragmentCall)
  | otherwise (chain : Option Head)
  | finish (name : Option String)
  | comment

structure Tag where
  kind : TagKind
  trimBefore : Bool
  trimBehind : Bool

def tagEnd (closing : String) : Reader Bool := fun s ↦
  let (trim, s) := trimMark s
  (token (word closing) s).map fun (_, s) ↦ (trim, s)

def close (trim : Bool) (kind : TagKind) : Reader Tag := fun s ↦
  (tagEnd "\x7d\x7d" s).map fun (trim', s) ↦ (⟨kind, trim, trim'⟩, s)

/-- A comment. One that starts with `--` ends with it too, and may hold braces. -/
def comment : Reader Tag := fun s ↦ do
  let s ← dropText? ['!'] s
  let long := (dropText? "--".toList (skipBlank s)).bind (dropThrough? "--\x7d\x7d".toList)
  let rest ← long <|> dropThrough? "\x7d\x7d".toList s
  some (⟨.comment, false, false⟩, rest)

def branch : Reader Tag := fun s ↦ do
  let (trim, s) := trimMark s
  let (_, s) ← token (word "else") s <|> token (word "^") s
  (do
    let (h, s) ← head s
    close trim (.otherwise (some h)) s) <|> close trim (.otherwise none) s

def unescaped : Reader Tag := fun s ↦ do
  let (_, s) ← word "\x7b" s
  let (trim, s) := trimMark s
  let (n, s) ← inserted false s
  let (trim', s) ← tagEnd "\x7d\x7d\x7d" s
  some (⟨.insert n, trim, trim'⟩, s)

def isFragmentNameChar (c : Char) : Bool :=
  isNameChar c || c == '/' || c == '.' || c == '@'

def quotedNameRest? : List Char → Option (List Char)
  | '\\' :: '\x27' :: s => quotedNameRest? s
  | '\x27' :: s => some s
  | _ :: s => quotedNameRest? s
  | [] => none

/-- The name of a fragment as it is written, or anything between single quotes, which belong to the
name. -/
def plainFragmentName : Reader String := fun s ↦
  match s.takeWhile isFragmentNameChar, s with
  | [], '\x27' :: rest => do
    if rest.head? == some '\x27' then none
    let rest ← quotedNameRest? rest
    some (String.ofList (Text.consumed s rest), rest)
  | [], _ => none
  | cs, s => some (String.ofList cs, s.drop cs.length)

def fragmentName : Reader Expr := fun s ↦
  match plainFragmentName s with
  | some (n, rest) => some (.literal (.string n), rest)
  | none => nested (callDepth s) s <|> do
    let (_, rest) ← reference s
    some (.literal (.string (String.ofList (Text.consumed s rest))), rest)

def fragmentCall : Reader FragmentCall := fun s ↦ do
  let (n, s) ← token fragmentName s
  let (a, s) := arguments (callDepth s) s
  some (⟨n, a.1, a.2⟩, s)

def blockStart (trim : Bool) : Reader Tag := fun s ↦
  match skipBlank s with
  | '>' :: s => do
    let (call, s) ← fragmentCall s
    close trim (.frame call) s
  | '*' :: s => do
    let (h, s) ← head s
    close trim (.define h) s
  | s => do
    let (h, s) ← head s
    close trim (.start h) s

def marked : Reader Tag := fun s ↦
  let (trim, s) := trimMark s
  match skipBlank s with
  | '\x7b' :: s => do
    let (n, s) ← inserted false s
    let (_, s) ← token (word "\x7d") s
    close trim (.insert n) s
  | '&' :: s => do
    let (n, s) ← named false s
    close trim (.insert n) s
  | '#' :: s => blockStart trim s
  | '/' :: s =>
    let (n, s) := optional (token plainFragmentName) s
    close trim (.finish n) s
  | '>' :: s => do
    let (call, s) ← fragmentCall s
    close trim (.fragment call) s
  | '*' :: s => do
    let (_, s) ← head s
    close trim (.insert .invalid) s
  | _ => none

def escaped : Reader Tag := fun s ↦ do
  let (trim, s) := trimMark s
  let (n, s) ← inserted true s
  close trim (.insert n) s

def verbatimStart : Reader Tag := fun s ↦ do
  let (trim, s) := trimMark s
  let (h, s) ← head s
  let (trim', s) ← tagEnd "\x7d\x7d\x7d\x7d" s
  some (⟨.start h, trim, trim'⟩, s)

def verbatimEnd : Reader Tag := fun s ↦ do
  let (trim, s) := trimMark s
  let (_, s) ← token (word "/") s
  let (n, s) ← token name s
  let (trim', s) ← tagEnd "\x7d\x7d\x7d\x7d" s
  some (⟨.finish (some n), trim, trim'⟩, s)

/-- Reads a tag behind its `{{`. What reads as a branch is nothing else. -/
def tag : Reader Tag := fun s ↦
  branch s <|> escaped s <|> unescaped s <|> marked s <|> comment s

end MimeMail.Template
