import MimeMail.Template.Parse
import MimeMail.Template.Scope
import MimeMail.Template.Sheet

namespace MimeMail.Template

open Data

def markupChar (c : Char) : List Char :=
  match c with
  | '<' => "&lt;".toList
  | '>' => "&gt;".toList
  | '"' => "&quot;".toList
  | '&' => "&amp;".toList
  | '\'' => "&#x27;".toList
  | '\x60' => "&#x60;".toList
  | '=' => "&#x3D;".toList
  | c => [c]

def escapedText (escaping : Escaping) (escape : Bool) (v : Value) : List Char :=
  let text := v.text.toList
  if escape && escaping == .markup then text.flatMap markupChar else text

def entries : Value → List (Value × Value)
  | .array items => items.zipIdx.map fun (v, i) ↦ (.number (.int i), v)
  | .object fields => fields.map fun (k, v) ↦ (.string k, v)
  | _ => []

def itemVariables (key : Value) (place count : Nat) : List (String × Value) :=
  [("first", .bool (place == 0)), ("last", .bool (place + 1 == count)),
    ("index", .number (.int place))] ++
    match key with
    | .string _ => [("key", key)]
    | _ => []

/-- The scope of one item. If a block gives one name to the item and its key, the key has it. -/
def itemScope (names : List String) (key v : Value) (place count : Nat) : Scope :=
  { value := v
    iteration := itemVariables key place count
    named := (names.zip [v, key]).reverse }

def condition (v : Value) (options : List (String × Value)) : Bool :=
  match v, options.lookup "includeZero" with
  | .number n, some (.bool true) => !n.toFloat.isNaN
  | v, _ => v.isTrue

/-- Where a node is rendered: in which scopes, with its lines indented by what, and with which
bodies of calls for fragments around it, the innermost first. The first `passed` of these bodies are
those that are being rendered themselves. -/
structure Frame where
  escaping : Escaping
  context : Context
  indent : List Char := []
  bodies : List (List Node) := []
  passed : Nat := 0

def bodyName : String := "@partial-block"

namespace Frame

def find? (f : Frame) (name : String) (sheet : Sheet) : Option (List Node) :=
  if name == bodyName then f.bodies[f.passed]? else sheet.fragments.lookup name

def enter (f : Frame) (name : String) (args : List Value) (options : List (String × Value))
    (indent : List Char) (body : Option (List Node)) : Frame :=
  { f with
    context := f.context.enterFragment args options
    indent := f.indent ++ indent
    bodies := body.toList ++ f.bodies
    passed := if name == bodyName then f.passed + 1 else f.passed - 1 }

def enterScope (f : Frame) (s : Scope) : Frame :=
  { f with context := f.context.enter s }

def write (f : Frame) (escape : Bool) (v : Value) (sheet : Sheet) : Sheet :=
  sheet.write f.indent (escapedText f.escaping escape v)

end Frame

def definedName? (c : Context) (h : Head) : Option String := do
  let args ← values? c h.args
  let _ ← optionValues? c h.options
  match h.helper, args with
  | "inline", .string name :: _ => some name
  | _, _ => none

def defineAll (c : Context) : List Node → Sheet → Option Sheet
  | [], sheet => some sheet
  | .define h body :: ns, sheet => do defineAll c ns (sheet.define (← definedName? c h) body)
  | .invalid :: _, _ => none
  | _ :: ns, sheet => defineAll c ns sheet

abbrev Renderer := Frame → List Node → Sheet → Option Sheet

mutual

/-- Renders a node; `expand` renders the fragments that it inserts. It fails where a helper or a
fragment is missing, or an argument. -/
def Node.render (expand : Renderer) (f : Frame) : Node → Sheet → Option Sheet
  | .text s, sheet => some (sheet.write f.indent s)
  | .value e escape, sheet => do
    let v ← e.value? f.context
    some (f.write escape v sheet)
  | .indirect e escape, sheet => do
    let v ← e.value? f.context
    match Helper.ofName? v.text with
    | some h => some (f.write escape (← h.value? [] []) sheet)
    | none => some (f.write escape v sheet)
  | .block h alone body inverse, sheet =>
    sheet.within (sheet.indentDue || (alone && sheet.lineEnded)) fun sheet ↦ do
      let args ← values? f.context h.args
      let options ← optionValues? f.context h.options
      match ← Helper.ofName? h.helper, args with
      | .conditional positive, v :: _ =>
        if condition v options == positive then renderAll expand f body sheet
        else renderAll expand f inverse sheet
      | .enter, v :: _ =>
        if v.isTrue then
          let named := match h.names with
            | [name] => [(name, v)]
            | _ => []
          let s := { value := v, iteration := f.context.currentIteration, named := named }
          renderAll expand (f.enterScope s) body sheet
        else renderAll expand f inverse sheet
      | .iterate, v :: _ =>
        match entries v with
        | [] => renderAll expand f inverse sheet
        | items =>
          items.zipIdx.foldlM (fun sheet ((key, v), i) ↦
            renderAll expand (f.enterScope (itemScope h.names key v i items.length)) body sheet)
            sheet
      | .verbatim, _ => renderAll expand f body sheet
      | .test t, args =>
        if ← t.holds? args then renderAll expand f body sheet
        else renderAll expand f inverse sheet
      | helper, args => some (f.write true (← helper.value? args options) sheet)
  | .define h body, sheet => do some (sheet.define (← definedName? f.context h) body)
  | .fragment call place body, sheet =>
    sheet.within (place.alone && (sheet.lineEnded || !place.indent.isEmpty)) fun sheet ↦ do
      let name := (← call.name.value? f.context).text
      let args ← values? f.context call.args
      let options ← optionValues? f.context call.options
      let sheet ← defineAll f.context (body.getD []) sheet
      let nodes ← (f.find? name sheet).or body
      expand (f.enter name args options place.indent body) nodes sheet
  | .invalid, _ => none

def renderAll (expand : Renderer) (f : Frame) : List Node → Sheet → Option Sheet
  | [], sheet => some sheet
  | n :: ns, sheet => do renderAll expand f ns (← n.render expand f sheet)

end

def renderNested : Nat → Renderer
  | 0 => fun _ _ _ ↦ none
  | depth + 1 => renderAll (renderNested depth)

/-- How deep fragments may be nested. One that always inserts itself is never rendered. -/
def fragmentDepth : Nat := 1000

end Template

def Template.render (t : Template) (data : Data.Value) : Except TemplateError String :=
  let frame := { escaping := t.escaping, context := ⟨data, [{ value := data }]⟩ }
  match Template.renderNested Template.fragmentDepth frame t.nodes {} with
  | some sheet => .ok (String.ofList sheet.text)
  | none => .error .unrenderable

end MimeMail
