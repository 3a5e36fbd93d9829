import MimeMail.Proofs.Encoding.Base64
import MimeMail.Proofs.Encoding.QuotedPrintable
import MimeMail.Proofs.Wire.Header

namespace MimeMail.Wire

open Encoding Text

/-- An entity as it is read, with unfolded fields and decoded content. -/
inductive Tree where
  | leaf (fields : List Field) (content : Bytes)
  | container (fields : List Field) (kind : Kind) (children : List Tree)

def Tree.behind (fields : List Field) : Tree → Tree
  | .leaf own content => .leaf (fields ++ own) content
  | .container own kind children => .container (fields ++ own) kind children

theorem Tree.behind_nil (t : Tree) : t.behind [] = t := by
  cases t <;> rfl

def isEncodingField (f : Field) : Bool :=
  f.name == "Content-Transfer-Encoding"

def decodeBody (fields : List Field) (body : List Char) : Option Bytes := do
  let f ← fields.find? isEncodingField
  if f.value = "base64".toList then Base64.decode body
  else if f.value = "quoted-printable".toList then QuotedPrintable.decode body
  else none

def bodyLines? (ls : List Line) : Option (List Line) :=
  (ls.dropWhile fun l ↦ !l.isEmpty).tail?

/-- Reads a leaf. The line break behind its body is not part of it. -/
def readLeaf (ls : List Line) : Option Tree := do
  let body ← bodyLines? ls
  if body.getLast? = some [] then
    (decodeBody (readFields ls) (unlines body.dropLast)).map (.leaf (readFields ls))
  else none

/-- What has been read of an entity: its lines, or a container that is closed and the lines behind
it. -/
inductive Pending where
  | text (ls : List Line)
  | closed (t : Tree) (ls : List Line)

def Pending.add (ls : List Line) : Pending → Pending
  | .text ks => .text (ks ++ ls)
  | .closed t ks => .closed t (ks ++ ls)

def Pending.entity? : Pending → Option Tree
  | .text ls => readLeaf ls
  | .closed t ls => if ls = [[]] then some t else none

structure Frame where
  fields : List Field
  kind : Kind
  children : List Tree

structure Reader where
  stack : List Frame
  pending : Pending

def Reader.open (kind : Kind) (r : Reader) : Option Reader :=
  match r.pending with
  | .text ls =>
    if bodyLines? ls = some [] then some ⟨⟨readFields ls, kind, []⟩ :: r.stack, .text []⟩ else none
  | .closed _ _ => none

def Reader.step (token : List Char) (r : Reader) (l : Line) : Option Reader :=
  match mark token l, r.stack with
  | .text, _ => some { r with pending := r.pending.add [l] }
  | .delimiter kind, frame :: stack =>
    if frame.kind = kind then
      r.pending.entity?.map fun t ↦
        ⟨{ frame with children := frame.children ++ [t] } :: stack, .text []⟩
    else r.open kind
  | .delimiter kind, [] => r.open kind
  | .closing kind, frame :: stack =>
    if frame.kind = kind then
      r.pending.entity?.map fun t ↦
        ⟨stack, .closed (.container frame.fields kind (frame.children ++ [t])) []⟩
    else none
  | .closing _, [] => none

def readTree (token : List Char) (s : List Char) : Option Tree := do
  let r ← (lines s).foldlM (Reader.step token) ⟨[], .text []⟩
  if r.stack.isEmpty then r.pending.entity? else none

def Entity.kind? : Entity → Option Kind
  | .leaf _ _ => none
  | .container kind _ => some kind

/-- The bodies that carry some content under the name of their encoding. -/
inductive Encodes (content : Bytes) : String → List Char → Prop
  | base64 : Encodes content "base64" (Base64.encode content)
  | quoted : Encodes content "quoted-printable" (QuotedPrintable.encode content)

theorem Encodes.broken {content : Bytes} {encoding : String} {body : List Char}
    (h : Encodes content encoding body) : Broken Plain body := by
  cases h with
  | base64 => exact (Base64.broken_encode content).mono fun _ hc ↦ hc.plain
  | quoted => exact (QuotedPrintable.quoted_encode content).broken

theorem Encodes.name {content : Bytes} {encoding : String} {body : List Char}
    (h : Encodes content encoding body) : ∀ c ∈ encoding.toList, Printable c := by
  cases h with
  | base64 => decide
  | quoted => decide

theorem Encodes.not_boundaryMark {content : Bytes} {encoding : String} {body : List Char}
    (h : Encodes content encoding body) : ∀ l ∈ lines body, ¬ boundaryMark <+: l := by
  rintro l hl ⟨s, rfl⟩
  cases h with
  | base64 =>
    have hdash : '-' ∈ Base64.encode content := mem_of_mem_lines hl List.mem_cons_self
    rcases (Base64.broken_encode content).mem hdash with h | h | h <;> exact absurd h (by decide)
  | quoted =>
    exact QuotedPrintable.not_quoted_delimiter s
      ((QuotedPrintable.quoted_encode content).of_mem_lines _ hl)

theorem Encodes.decodeBody {content : Bytes} {encoding : String} {body : List Char}
    (h : Encodes content encoding body) {fields : List Field}
    (hf : ∀ f ∈ fields, isEncodingField f = false) :
    decodeBody (fields ++ [encodingField encoding]) body = some content := by
  have hnone : fields.find? isEncodingField = none := by
    rw [List.find?_eq_none]
    exact fun f hf' ↦ by rw [hf f hf']; exact Bool.false_ne_true
  have hfind : (fields ++ [encodingField encoding]).find? isEncodingField =
      some (encodingField encoding) := by
    rw [List.find?_append, hnone]
    rfl
  rw [Wire.decodeBody, hfind]
  cases h with
  | base64 => exact Base64.decode_encode content
  | quoted => exact QuotedPrintable.decode_encode content

/-- An entity that carries a tree, with folded fields of characters of `p`. No container stands
directly in one of its own kind, and only leaves name an encoding. -/
inductive Carries (p : Char → Prop) (token : List Char) : Entity → Tree → Prop
  | leaf (fields : List Field) {content : Bytes} {encoding : String} {body : List Char} :
      (∀ f ∈ fields, f.Sound p ∧ isEncodingField f = false) → Encodes content encoding body →
      Carries p token (.leaf (fields ++ [encodingField encoding]) body)
        (.leaf ((fields ++ [encodingField encoding]).map Field.unfolded) content)
  | container {kind : Kind} {children : List (Entity × Tree)} :
      children ≠ [] → (∀ c ∈ children, Carries p token c.1 c.2) →
      (∀ c ∈ children, c.1.kind? ≠ some kind) →
      Carries p token (.container kind (children.map Prod.fst))
        (.container [(containerField token kind).unfolded] kind (children.map Prod.snd))

end MimeMail.Wire
