import MimeMail.Template.Token
import MimeMail.Text.Basic

namespace MimeMail.Template

inductive Piece where
  | text (s : List Char)
  | tag (kind : TagKind) (place : Placement)

def isBlank (c : Char) : Bool :=
  c == ' ' || c == '\t'

def isLineEnd (c : Char) : Bool :=
  c == '\n' || c == '\r'

def TagKind.ownsLine : TagKind → Bool
  | .insert _ => false
  | _ => true

/-- What stands before a tag: whether its line holds only blanks so far, and the blanks next to
it. -/
structure Preceding where
  startsLine : Bool
  blanks : List Char

def Preceding.afterText (p : Preceding) (s : List Char) : Preceding :=
  let body := Text.dropTail isBlank s
  ⟨match body.getLast? with
    | none => p.startsLine
    | some c => isLineEnd c,
    s.drop body.length⟩

def Preceding.afterTag : Preceding := ⟨false, []⟩

def Preceding.atStart : Preceding := ⟨true, []⟩

def endsLine : List Token → Bool
  | .text s :: _ | .verbatim s :: _ => (s.dropWhile isBlank).head?.any isLineEnd
  | .tag _ :: _ => false
  | [] => true

/-- How a tag stands on its line. The mark that removes the blanks before it leaves none to put
before lines. -/
def placement (p : Preceding) (t : Tag) (rest : List Token) : Placement :=
  { alone := t.kind.ownsLine && p.startsLine && endsLine rest
    indent := if t.trimBefore then [] else p.blanks }

/-- What tags leave to be removed from the text behind them: all leading white space, or else the
rest of a line. -/
structure Pending where
  space : Bool
  line : Bool

def dropLineEnd (s : List Char) : List Char :=
  match s.dropWhile isBlank with
  | '\r' :: '\n' :: s => s
  | '\n' :: s => s
  | s => s

def Pending.apply (p : Pending) (s : List Char) : List Char :=
  if p.space then Text.trimStart s else if p.line then dropLineEnd s else s

/-- What is left to be removed behind a text. White space alone, removed as such, leaves the line to
be removed. -/
def Pending.afterText (p : Pending) (s : List Char) : Pending :=
  if p.space && s.all isBlankOrBreak then p else { p with line := false }

/-- What is left to be removed behind a tag; `alone` tells whether it stands alone on its line. A
comment leaves the white space to be removed that the tag before it does. -/
def Pending.afterTag (p : Pending) (t : Tag) (alone : Bool) : Pending :=
  match t.kind with
  | .insert _ => { p with space := t.trimBehind }
  | .comment => { p with line := alone }
  | _ => ⟨t.trimBehind, alone⟩

def cutBefore (p : Preceding) (rest : List Token) (s : List Char) : List Char :=
  match rest with
  | .tag t :: rest =>
    if t.trimBefore then Text.trimEnd s
    else if (placement p t rest).alone then Text.dropTail isBlank s
    else s
  | _ => s

/-- Removes white space beside tags; `before` is what stands before the tokens. Of a block of plain
text the white space at its start is removed. -/
def Piece.ofTokens (before : Preceding) (p : Pending) : List Token → List Piece
  | [] => []
  | .text s :: rest =>
    let before := before.afterText s
    .text (cutBefore before rest (p.apply s)) :: ofTokens before (p.afterText s) rest
  | .verbatim s :: rest =>
    let before := before.afterText s
    .text (cutBefore before rest (p.apply (skipBlank s))) :: ofTokens before p rest
  | .tag t :: rest =>
    let place := placement before t rest
    let kept := { place with alone := place.alone && !t.trimBefore }
    .tag t.kind kept :: ofTokens .afterTag (p.afterTag t place.alone) rest

end MimeMail.Template
