import MimeMail.Proofs.Message.Fields
import MimeMail.Proofs.Wire.Reading

namespace MimeMail

open Encoding Text Wire

def Wire.containerTree (token : List Char) (kind : Kind) (children : List Tree) : Tree :=
  .container [⟨"Content-Type", "multipart/".toList ++ kind.subtype.toList ++
    ";\tboundary=\"".toList ++ kind.boundary token ++ ['"']⟩] kind children

def Wire.bodyLeaf (contentType encoding : String) (content : Bytes) : Tree :=
  .leaf [⟨"Content-Type", contentType.toList⟩, ⟨"Content-Transfer-Encoding", encoding.toList⟩]
    content

theorem Wire.unfolded_containerField {token : List Char} (ht : ∀ c ∈ token, InLine c)
    (kind : Kind) :
    (containerField token kind).unfolded = ⟨"Content-Type", "multipart/".toList ++
      kind.subtype.toList ++ ";\tboundary=\"".toList ++ kind.boundary token ++ ['"']⟩ := by
  have hsubtype : ∀ c ∈ "multipart/".toList ++ kind.subtype.toList ++ [';'], InLine c := by
    cases kind with
    | mixed => decide
    | alternative => decide
    | related index =>
      change ∀ c ∈ "multipart/".toList ++ "related".toList ++ [';'], InLine c
      decide
  have hparameter : ∀ c ∈ "\tboundary=\"".toList ++ kind.boundary token ++ ['"'], InLine c := by
    simp only [List.forall_mem_append]
    exact ⟨⟨by decide, forall_mem_boundary (fun _ h ↦ h.inLine) ht kind⟩, by decide⟩
  have hbreak := deleteBreaks_break hsubtype hparameter []
  simp only [List.append_assoc, List.append_nil, deleteBreaks] at hbreak
  rw [Field.unfolded, containerField]
  simp only [List.append_assoc]
  exact congrArg (Field.mk "Content-Type") hbreak

theorem Wire.carries_container {p : Char → Prop} {token : List Char} (ht : ∀ c ∈ token, InLine c)
    (kind : Kind) (children : List (Entity × Tree)) (hne : children ≠ [])
    (h : ∀ c ∈ children, Carries p token c.1 c.2) (hk : ∀ c ∈ children, c.1.kind? ≠ some kind) :
    Carries p token (.container kind (children.map Prod.fst))
      (containerTree token kind (children.map Prod.snd)) := by
  rw [containerTree, ← unfolded_containerField ht]
  exact .container hne h hk

theorem Wire.carries_body {p : Char → Prop} (hline : ∀ c, p c → InLine c) {token : List Char}
    {contentType encoding : String} {content : Bytes} {body : List Char}
    (htype : ∀ c ∈ contentType.toList, p c) (he : Encodes content encoding body) :
    Carries p token (.leaf [typeField contentType, encodingField encoding] body)
      (bodyLeaf contentType encoding content) := by
  have h : Carries p token _ _ := .leaf [typeField contentType]
    (by simpa using ⟨sound_typeField htype, rfl⟩) he
  rw [List.map_append, List.map_singleton, List.map_singleton,
    unfolded_encodingField fun c hc ↦ (he.name c hc).inLine,
    Field.unfolded_of_inLine fun c hc ↦ hline c (htype c hc)] at h
  exact h

variable [Backend]

/-- The text that a content goes out with: a literal, or what its template gives for the data. -/
inductive Content.Renders (data : Backend.Data) : Content → String → Prop
  | literal (text : String) : Renders data (.literal text) text
  | template {t : Backend.Template} {text : String} (output : String) :
      Backend.render t data = .ok text → Renders data (.template t output) text

/-- The bytes that a payload goes out with: those in memory, or those of its file, which is read if
it has not been. -/
inductive Payload.Gives (read : FileReader) : Payload → Bytes → Prop
  | memory (data : Bytes) : Gives read (.memory data) data
  | kept (path : String) (data : Bytes) : Gives read (.file path (some data)) data
  | read {path : String} {data : Bytes} : read path = .ok data → Gives read (.file path none) data

/-- What the texts and the payloads of a message come to. -/
structure Contents where
  text : Content → String
  bytes : Payload → Bytes

/-- What is in a message at the moment: the last output of its templates, and what has been read. -/
def Contents.held : Contents where
  text := Content.text
  bytes p := p.data?.getD []

/-- The contents of a message are those that it is to go out with. -/
structure Contents.Given (c : Contents) (read : FileReader) (data : Backend.Data) (m : Message) :
    Prop where
  subject : m.subject.Renders data (c.text m.subject)
  plain : ∀ body, .plain body ∈ m.parts → body.Renders data (c.text body)
  html : ∀ body related, .html body related ∈ m.parts →
    body.Renders data (c.text body) ∧ ∀ r ∈ related, r.payload.Gives read (c.bytes r.payload)
  other : ∀ contentType encoding body related, .other contentType encoding body related ∈ m.parts →
    ∀ r ∈ related, r.payload.Gives read (c.bytes r.payload)
  attachments : ∀ a ∈ m.attachments, a.payload.Gives read (c.bytes a.payload)

section

variable (c : Contents)

def Related.tree (r : Related) : Tree :=
  .leaf [⟨"Content-Type", r.contentType.toList⟩, ⟨"Content-ID", '<' :: r.id.toList ++ ['>']⟩,
    ⟨"Content-Transfer-Encoding", "base64".toList⟩] (c.bytes r.payload)

def Attachment.tree (a : Attachment) : Tree :=
  .leaf [⟨"Content-Type", a.contentType.toList⟩,
    ⟨"Content-Disposition", "attachment;\tfilename=".toList ++ deleteBreaks (quotedName a.name)⟩,
    ⟨"Content-Transfer-Encoding", "base64".toList⟩] (c.bytes a.payload)

namespace Part

def leafTree : Part → Tree
  | .plain body =>
    bodyLeaf "text/plain; charset=utf-8" "quoted-printable" (utf8 (c.text body).toList)
  | .html body _ =>
    bodyLeaf "text/html; charset=utf-8" "quoted-printable" (utf8 (c.text body).toList)
  | .other contentType .base64 body _ => bodyLeaf contentType "base64" body
  | .other contentType .quotedPrintable body _ | .other contentType .auto body _ =>
    bodyLeaf contentType "quoted-printable" body

def tree (token : List Char) (index : Nat) (q : Part) : Tree :=
  match q with
  | .plain _ | .html _ [] | .other _ _ _ [] => q.leafTree c
  | .html _ related | .other _ _ _ related =>
    containerTree token (.related index) (q.leafTree c :: related.map (Related.tree c))

end Part

def Part.htmlBody? : List Part → Option Content
  | [] => none
  | .html body _ :: _ => some body
  | .plain _ :: qs | .other _ _ _ _ :: qs => htmlBody? qs

def Part.plainBody? : List Part → Option Content
  | [] => none
  | .plain body :: _ => some body
  | .html _ _ :: qs | .other _ _ _ _ :: qs => plainBody? qs

namespace Message

/-- The plain body that is made from a markup one where there is no other. -/
def plainTree? (m : Message) : Option Tree :=
  match Part.htmlBody? m.parts, Part.plainBody? m.parts with
  | some body, none =>
    some (bodyLeaf "text/plain; charset=utf-8" "quoted-printable"
      (utf8 (Html.plainText (c.text body).toList)))
  | _, _ => none

def entryTrees (m : Message) (token : List Char) : List Tree :=
  (m.plainTree? c).toList ++ m.parts.zipIdx.map fun (q, i) ↦ q.tree c token i

def bodyTree (m : Message) (token : List Char) : Tree :=
  match Part.htmlBody? m.parts, m.entryTrees c token with
  | none, [t] => t
  | _, ts => containerTree token .alternative ts

def tree (m : Message) (token : List Char) : Tree :=
  match m.attachments with
  | [] => m.bodyTree c token
  | as => containerTree token .mixed (m.bodyTree c token :: as.map (Attachment.tree c))

end Message

end

theorem Part.htmlBody?_eq (ps : List Part) :
    htmlBody? ps = (ps.find? isHtml).bind content? := by
  induction ps with
  | nil => rfl
  | cons q qs ih =>
    cases q with
    | plain body => exact ih
    | html body related => rfl
    | other contentType encoding body related => exact ih

theorem Part.isSome_htmlBody? (ps : List Part) : (htmlBody? ps).isSome = ps.any isHtml := by
  induction ps with
  | nil => rfl
  | cons q qs ih =>
    cases q with
    | plain body => exact ih
    | html body related => rfl
    | other contentType encoding body related => exact ih

theorem Part.isSome_plainBody? (ps : List Part) : (plainBody? ps).isSome = ps.any isPlain := by
  induction ps with
  | nil => rfl
  | cons q qs ih =>
    cases q with
    | plain body => rfl
    | html body related => exact ih
    | other contentType encoding body related => exact ih

theorem Part.tree_eq (c : Contents) (token : List Char) (index : Nat) (q : Part) :
    q.tree c token index = if q.related.isEmpty then q.leafTree c else
      containerTree token (.related index) (q.leafTree c :: q.related.map (Related.tree c)) := by
  cases q with
  | plain body => rfl
  | html body related => cases related <;> rfl
  | other contentType encoding body related => cases related <;> rfl

theorem Message.tree_eq (c : Contents) (token : List Char) (m : Message) :
    m.tree c token = if m.attachments.isEmpty then m.bodyTree c token else
      containerTree token .mixed (m.bodyTree c token :: m.attachments.map (Attachment.tree c)) := by
  rw [tree]
  cases m.attachments <;> rfl

theorem Message.bodyTree_eq (c : Contents) (token : List Char) (m : Message) :
    m.bodyTree c token =
      match m.parts.any Part.isHtml, m.entryTrees c token with
      | false, [t] => t
      | _, ts => containerTree token .alternative ts := by
  rw [bodyTree, ← Part.isSome_htmlBody?]
  cases Part.htmlBody? m.parts with
  | none => rcases m.entryTrees c token with _ | ⟨t, _ | ⟨t', ts⟩⟩ <;> rfl
  | some body => rfl

theorem Part.kind?_leaf (q : Part) : q.leaf.kind? = none := by
  rw [leaf]
  cases q.encoding <;> rfl

theorem Part.kind?_entity (q : Part) (index : Nat) :
    (q.entity index).kind? = none ∨ (q.entity index).kind? = some (.related index) := by
  rw [entity]
  split
  · exact .inl q.kind?_leaf
  · exact .inr rfl

section

variable {p : Char → Prop} (hp : ∀ c, Printable c → p c) (hline : ∀ c, p c → InLine c)
  {token : List Char}

include hp hline

theorem Related.carries_tree {r : Related} (htype : ∀ c ∈ r.contentType.toList, p c)
    (hid : ∀ c ∈ r.id.toList, p c) : Carries p token r.entity (r.tree .held) := by
  have h : Carries p token _ _ := .leaf
    [typeField r.contentType, ⟨"Content-ID", '<' :: r.id.toList ++ ['>']⟩]
    (by simpa using ⟨⟨sound_typeField htype, rfl⟩, Related.sound_contentId hp hid, rfl⟩)
    (@Encodes.base64 (r.payload.data?.getD []))
  have hids : ∀ c ∈ '<' :: r.id.toList ++ ['>'], InLine c := by
    simp only [List.forall_mem_append, List.forall_mem_cons]
    exact ⟨⟨by decide, fun c hc ↦ hline c (hid c hc)⟩, by decide⟩
  rw [List.map_append, List.map_singleton, unfolded_encodingField (by decide), List.map_cons,
    List.map_singleton, Field.unfolded_of_inLine fun c hc ↦ hline c (htype c hc),
    Field.unfolded_of_inLine hids] at h
  exact h

theorem Attachment.carries_tree {a : Attachment} (htype : ∀ c ∈ a.contentType.toList, p c) :
    Carries p token a.entity (a.tree .held) := by
  have h : Carries p token _ _ := .leaf
    [typeField a.contentType,
      ⟨"Content-Disposition", "attachment;\r\n\tfilename=".toList ++ quotedName a.name⟩]
    (by simpa using ⟨⟨sound_typeField htype, rfl⟩, sound_disposition hp a.name, rfl⟩)
    (@Encodes.base64 (a.payload.data?.getD []))
  have hname : deleteBreaks ("attachment;\r\n\tfilename=".toList ++ quotedName a.name) =
      "attachment;\tfilename=".toList ++ deleteBreaks (quotedName a.name) :=
    deleteBreaks_break (s := "attachment;".toList) (u := "\tfilename=".toList) (by decide)
      (by decide) (quotedName a.name)
  rw [List.map_append, List.map_singleton, unfolded_encodingField (by decide), List.map_cons,
    List.map_singleton, Field.unfolded_of_inLine fun c hc ↦ hline c (htype c hc), Field.unfolded,
    hname] at h
  exact h

omit hp in
theorem Part.carries_leafTree {q : Part} (htype : ∀ c ∈ q.contentType.toList, p c) :
    Carries p token q.leaf (q.leafTree .held) := by
  cases q with
  | plain body => exact carries_body hline htype .quoted
  | html body related => exact carries_body hline htype .quoted
  | other contentType encoding body related =>
    cases encoding with
    | auto => exact carries_body hline htype .quoted
    | quotedPrintable => exact carries_body hline htype .quoted
    | base64 => exact carries_body hline htype .base64

theorem Part.carries_tree (ht : ∀ c ∈ token, InLine c) {q : Part}
    (htype : ∀ c ∈ q.contentType.toList, p c)
    (hrelated : ∀ r ∈ q.related, (∀ c ∈ r.contentType.toList, p c) ∧ ∀ c ∈ r.id.toList, p c)
    (index : Nat) : Carries p token (q.entity index) (q.tree .held token index) := by
  rw [entity, tree_eq]
  split
  · exact q.carries_leafTree hline htype
  · have h := carries_container (p := p) ht (.related index)
      ((q.leaf, q.leafTree .held) :: q.related.map fun r ↦ (r.entity, r.tree .held)) (by simp) ?_ ?_
    · rw [List.map_cons, List.map_map, List.map_cons, List.map_map] at h
      exact h
    · simp only [List.forall_mem_cons, List.forall_mem_map]
      exact ⟨q.carries_leafTree hline htype, fun r hr ↦
        r.carries_tree hp hline (hrelated r hr).1 (hrelated r hr).2⟩
    · simp only [List.forall_mem_cons, List.forall_mem_map]
      rw [q.kind?_leaf]
      exact ⟨(Option.some_ne_none _).symm, fun r _ ↦ (Option.some_ne_none _).symm⟩

theorem Message.carries_plainTree (token : List Char) (m : Message) :
    (m.synthesized? = none ∧ m.plainTree? .held = none) ∨
      ∃ e t, m.synthesized? = some e ∧ m.plainTree? .held = some t ∧ Carries p token e t ∧
        e.kind? = none := by
  have he : m.synthesized? = (Part.htmlBody? m.parts).bind fun body ↦
      if (Part.plainBody? m.parts).isSome then none
      else some (.leaf [typeField ContentType.textPlain, encodingField "quoted-printable"]
        (QuotedPrintable.encode (utf8 (Html.plainText body.text.toList)))) := by
    rw [Part.htmlBody?_eq, Option.bind_assoc, Part.isSome_plainBody?]
    rfl
  rw [he, plainTree?]
  cases Part.htmlBody? m.parts with
  | none => exact .inl ⟨rfl, rfl⟩
  | some body =>
    cases Part.plainBody? m.parts with
    | some plain => exact .inl ⟨rfl, rfl⟩
    | none =>
      have htype : ∀ c ∈ ContentType.textPlain.toList, Printable c := by decide
      exact .inr ⟨_, _, rfl, rfl, carries_body hline (fun c hc ↦ hp c (htype c hc)) .quoted, rfl⟩

theorem Message.carries_entryTrees (ht : ∀ c ∈ token, InLine c) {m : Message} (hm : m.Clean p) :
    ∃ entries : List (Entity × Tree), entries.map Prod.fst = m.entries ∧
      entries.map Prod.snd = m.entryTrees .held token ∧
      ∀ c ∈ entries, Carries p token c.1 c.2 ∧ c.1.kind? ≠ some .alternative ∧
        c.1.kind? ≠ some .mixed := by
  have hparts : ∀ x ∈ m.parts.zipIdx,
      Carries p token (x.1.entity x.2) (x.1.tree .held token x.2) ∧
      (x.1.entity x.2).kind? ≠ some .alternative ∧ (x.1.entity x.2).kind? ≠ some .mixed := by
    rintro ⟨q, i⟩ hq
    have hq := List.fst_mem_of_mem_zipIdx hq
    refine ⟨q.carries_tree hp hline ht (hm.parts q hq) (hm.related q hq) i, ?_⟩
    rcases q.kind?_entity i with h | h <;> simp [h]
  rcases carries_plainTree hp hline token m with
    ⟨he, ht⟩ | ⟨e, t, he, ht, hcarries, hkind⟩
  · refine ⟨m.parts.zipIdx.map fun x ↦ (x.1.entity x.2, x.1.tree .held token x.2), ?_, ?_, ?_⟩
    · rw [entries, he, List.map_map]
      rfl
    · rw [entryTrees, ht, List.map_map]
      rfl
    · simpa only [List.forall_mem_map] using hparts
  · refine ⟨(e, t) :: m.parts.zipIdx.map fun x ↦ (x.1.entity x.2, x.1.tree .held token x.2),
      ?_, ?_, ?_⟩
    · rw [entries, he, List.map_cons, List.map_map]
      rfl
    · rw [entryTrees, ht, List.map_cons, List.map_map]
      rfl
    · simp only [List.forall_mem_cons, List.forall_mem_map]
      exact ⟨⟨hcarries, by simp [hkind]⟩, hparts⟩

theorem Message.carries_bodyTree (ht : ∀ c ∈ token, InLine c) {m : Message} (hm : m.Clean p)
    (hparts : m.parts ≠ []) :
    Carries p token m.bodyEntity (m.bodyTree .held token) ∧ m.bodyEntity.kind? ≠ some .mixed := by
  obtain ⟨entries, hfst, hsnd, hcarries⟩ := carries_entryTrees hp hline ht hm
  have hlength : m.parts.length ≤ m.entries.length := by simp [Message.entries]
  have halternative (hne : entries ≠ []) : Carries p token (.container .alternative m.entries)
      (containerTree token .alternative (m.entryTrees .held token)) := by
    rw [← hfst, ← hsnd]
    exact carries_container ht .alternative entries hne (fun c hc ↦ (hcarries c hc).1)
      fun c hc ↦ (hcarries c hc).2.1
  rw [bodyTree_eq, bodyEntity, isAlternative]
  rw [← hfst] at hlength halternative ⊢
  rw [← hsnd] at halternative ⊢
  rcases entries with _ | ⟨c, _ | ⟨d, entries⟩⟩
  · exact absurd (List.length_eq_zero_iff.mp (Nat.le_zero.mp hlength)) hparts
  -- One entry stands alone, unless it is markup.
  · cases m.parts.any Part.isHtml with
    | true => exact ⟨halternative (List.cons_ne_nil _ _), fun h ↦ by cases h⟩
    | false =>
      have hsingle : decide (1 < m.parts.length) = false :=
        decide_eq_false (Nat.not_lt.mpr hlength)
      rw [hsingle]
      exact (hcarries c List.mem_cons_self).imp id And.right
  · have hcontainer := halternative (List.cons_ne_nil _ _)
    cases m.parts.any Part.isHtml <;> cases decide (1 < m.parts.length) <;>
      exact ⟨hcontainer, fun h ↦ by cases h⟩

theorem Message.carries_tree (ht : ∀ c ∈ token, InLine c) {m : Message} (hm : m.Clean p)
    (hparts : m.parts ≠ []) : Carries p token m.entity (m.tree .held token) := by
  obtain ⟨hbody, hkind⟩ := carries_bodyTree hp hline ht hm hparts
  rw [entity, tree_eq]
  split
  · exact hbody
  · have h := carries_container (p := p) ht .mixed
      ((m.bodyEntity, m.bodyTree .held token) ::
        m.attachments.map fun a ↦ (a.entity, a.tree .held)) (by simp) ?_ ?_
    · rw [List.map_cons, List.map_map, List.map_cons, List.map_map] at h
      exact h
    · simp only [List.forall_mem_cons, List.forall_mem_map]
      exact ⟨hbody, fun a ha ↦ a.carries_tree hp hline (hm.attachments a ha)⟩
    · simp only [List.forall_mem_cons, List.forall_mem_map]
      exact ⟨hkind, fun a _ ↦ (Option.some_ne_none _).symm⟩

end

theorem Message.isEncodingField_fields (m : Message) (author : Address) (stamp : Stamp) :
    ∀ f ∈ m.fields author stamp, isEncodingField f = false := by
  intro f hf
  have hname := List.mem_map_of_mem (f := Field.name) hf
  rw [names_fields] at hname
  refine decide_eq_false fun h ↦ ?_
  rw [h] at hname
  revert hname
  split <;> split <;> decide

end MimeMail
