import MimeMail.Template.Spacing

namespace MimeMail.Template

def firstTag? : List Piece → Option (TagKind × Placement × List Piece)
  | .tag kind place :: rest => some (kind, place, rest)
  | _ => none

def behindFinish? (closes : Option String → Bool) (s : List Piece) : Option (List Piece) := do
  match ← firstTag? s with
  | (.finish name, _, rest) => if closes name then some rest else none
  | _ => none

def closesBlock (helper : String) (closing : Option String) : Bool :=
  closing == some helper

def closesFragment (name closing : Option String) : Bool :=
  closing.isNone || closing == name

def FragmentCall.plainName? (call : FragmentCall) : Option String :=
  match call.name with
  | .literal (.string name) => some name
  | _ => none

mutual

/-- The nodes up to a tag that ends or divides a block, and the pieces from that tag on. Each piece
and each block takes one unit of `fuel`. -/
def sequence? : Nat → List Piece → Option (List Node × List Piece)
  | 0, _ => none
  | _ + 1, [] => some ([], [])
  | fuel + 1, .text s :: rest => do
    let (ns, rest) ← sequence? fuel rest
    some (.text s :: ns, rest)
  | fuel + 1, .tag kind place :: rest =>
    match kind with
    | .insert n => do
      let (ns, rest) ← sequence? fuel rest
      some (n :: ns, rest)
    | .fragment call => do
      let (ns, rest) ← sequence? fuel rest
      some (.fragment call place none :: ns, rest)
    | .comment => sequence? fuel rest
    | .start h => do
      let (block, rest) ← branches? fuel h.helper h place rest
      let (ns, rest) ← sequence? fuel rest
      some (block :: ns, rest)
    | .define h => do
      let (body, rest) ← sequence? fuel rest
      let rest ← behindFinish? (closesFragment h.helper) rest
      let (ns, rest) ← sequence? fuel rest
      some (.define h body :: ns, rest)
    | .frame call => do
      let (body, rest) ← sequence? fuel rest
      let rest ← behindFinish? (closesFragment call.plainName?) rest
      let (ns, rest) ← sequence? fuel rest
      some (.fragment call { place with indent := [] } (some body) :: ns, rest)
    | .otherwise _ | .finish _ => some ([], .tag kind place :: rest)

def branches? : Nat → String → Head → Placement → List Piece → Option (Node × List Piece)
  | 0, _, _, _, _ => none
  | fuel + 1, helper, h, place, s => do
    let (body, rest) ← sequence? fuel s
    match ← firstTag? rest with
    | (.otherwise (some h'), place', rest) =>
      let (inverse, rest) ← branches? fuel helper h' place' rest
      some (.block h place.alone body [inverse], rest)
    | (.otherwise none, _, rest) =>
      let (inverse, rest) ← sequence? fuel rest
      let rest ← behindFinish? (closesBlock helper) rest
      some (.block h place.alone body inverse, rest)
    | _ =>
      let rest ← behindFinish? (closesBlock helper) rest
      some (.block h place.alone body [], rest)

end

def nodesOf? (s : List Char) : Option (List Node) := do
  let pieces := Piece.ofTokens .atStart ⟨false, false⟩ (← Token.scan (s.length + 1) s)
  let (ns, rest) ← sequence? (2 * pieces.length + 2) pieces
  if rest.isEmpty then some ns else none

def parse (source : String) (escaping : Escaping) : Except TemplateError Template :=
  match nodesOf? source.toList with
  | some ns => .ok ⟨source, escaping, ns⟩
  | none => .error .malformed

end MimeMail.Template
