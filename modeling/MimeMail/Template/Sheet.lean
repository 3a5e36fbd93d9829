import MimeMail.Template.Spacing

namespace MimeMail.Template

/-- The texts written so far, the last one first, and the fragments defined so far. `lineEnded`
tells that the last text ended a line, `indentDue` that the next one is to be indented at its start,
and `written` that the block or fragment that is being rendered has written something. -/
structure Sheet where
  texts : List (List Char) := []
  fragments : List (String × List Node) := []
  lineEnded : Bool := false
  indentDue : Bool := false
  written : Bool := false

def indentLines (indent : List Char) : List Char → List Char
  | '\n' :: c :: s => '\n' :: indent ++ indentLines indent (c :: s)
  | c :: s => c :: indentLines indent s
  | [] => []

namespace Sheet

/-- Writes a text with its lines indented. An empty text changes nothing. -/
def write (indent s : List Char) (sheet : Sheet) : Sheet :=
  match s with
  | [] => sheet
  | c :: _ =>
    let lead := if sheet.indentDue && !isLineEnd c then indent else []
    let ended := s.getLast?.any isLineEnd
    { sheet with
      texts := (lead ++ indentLines indent s) :: sheet.texts
      lineEnded := ended
      indentDue := ended
      written := true }

def define (name : String) (body : List Node) (sheet : Sheet) : Sheet :=
  { sheet with fragments := (name, body) :: sheet.fragments }

/-- Renders a block or a fragment; `due` tells that its first text is to be indented. If it writes
nothing, what comes behind it is indented as if it were not there. -/
def within (due : Bool) (render : Sheet → Option Sheet) (sheet : Sheet) : Option Sheet :=
  let indentDue := sheet.indentDue
  let written := sheet.written
  (render { sheet with indentDue := due, written := false }).map fun sheet ↦
    if sheet.written then { sheet with indentDue := sheet.lineEnded }
    else { sheet with indentDue := indentDue, written := written }

def text (sheet : Sheet) : List Char :=
  sheet.texts.reverse.flatten

end Sheet

end MimeMail.Template
