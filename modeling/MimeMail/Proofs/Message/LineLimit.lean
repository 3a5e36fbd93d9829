import MimeMail.Proofs.Encoding.LineLimit
import MimeMail.Proofs.Message.Composed
import MimeMail.Proofs.Message.Run
import MimeMail.Proofs.Wire.Entity

namespace MimeMail

open Encoding Wire

namespace Wire

mutual

/-- The encoded bodies of the leaves. -/
def Entity.bodies : Entity → List (List Char)
  | .leaf _ body => [body]
  | .container _ children => childBodies children

def childBodies : List Entity → List (List Char)
  | [] => []
  | e :: es => e.bodies ++ childBodies es

end

theorem childBodies_eq (es : List Entity) : childBodies es = es.flatMap Entity.bodies := by
  induction es with
  | nil => rfl
  | cons e es ih => rw [childBodies, ih, List.flatMap_cons]

theorem Entity.write_body_isInfix {token : List Char} {body : List Char} {e : Entity}
    (h : body ∈ e.bodies) : ∃ fields, (Entity.leaf fields body).write token <:+: e.write token := by
  match e with
  | .leaf fields body' =>
    obtain rfl := List.mem_singleton.mp h
    exact ⟨fields, List.infix_rfl⟩
  | .container kind children =>
    rw [Entity.bodies, childBodies_eq] at h
    obtain ⟨e, he, hbody⟩ := List.mem_flatMap.mp h
    obtain ⟨fields, hwritten⟩ := e.write_body_isInfix hbody
    exact ⟨fields, hwritten.trans (write_child_isInfix he)⟩

theorem lines_body_isInfix {token body out : List Char} {fields : List Field}
    (h : (Entity.leaf fields body).write token <:+: out) : Text.lines body <:+: Text.lines out := by
  obtain ⟨before, after, rfl⟩ := h
  have hout : before ++ (Entity.leaf fields body).write token ++ after =
      (before ++ writeFields fields) ++ '\r' :: '\n' :: (body ++ '\r' :: '\n' :: after) := by
    simp [Entity.write, lineBreak]
  rw [hout]
  exact Text.lines_isInfix _ body after

end Wire

def Payload.encoded (q : Payload) : List Char :=
  Base64.encode (q.data?.getD [])

section

variable [Backend]

namespace Part

def encoded (p : Part) : List Char :=
  if p.encoding = .base64 then Base64.encode p.body else QuotedPrintable.encode p.body

/-- Whether a part is written in quoted-printable and has a unit that does not fit on a line. -/
def IsOverlong : Part → Prop
  | .other _ encoding body _ => encoding ≠ .base64 ∧ Overlong body
  | .plain _ | .html _ _ => False

theorem withinLimit_encoded (p : Part) : WithinLimit p.encoded ↔ ¬ p.IsOverlong := by
  have htext (body : Content) :
      WithinLimit (QuotedPrintable.encode (Text.utf8 body.text.toList)) :=
    QuotedPrintable.withinLimit_encode.mpr (not_overlong_utf8 _)
  cases p with
  | plain body => exact iff_of_true (htext body) id
  | html body related => exact iff_of_true (htext body) id
  | other contentType encoding body related =>
    by_cases hbase : encoding = .base64
    · have hencoded : (other contentType encoding body related).encoded = Base64.encode body :=
        if_pos hbase
      rw [hencoded]
      exact iff_of_true (Base64.withinLimit_encode body) fun h ↦ h.1 hbase
    · have hencoded : (other contentType encoding body related).encoded =
          QuotedPrintable.encode body := if_neg hbase
      rw [hencoded, QuotedPrintable.withinLimit_encode]
      exact not_congr ⟨fun h ↦ ⟨hbase, h⟩, And.right⟩

theorem isOverlong_of_source_eq {p q : Part} (h : q.source = p.source) (hq : q.IsOverlong) :
    p.IsOverlong ∧ q.encoded = p.encoded := by
  cases q with
  | plain | html => exact hq.elim
  | other contentType encoding body related =>
    cases p with
    | plain | html => cases h
    | other contentType' encoding' body' related' =>
      obtain ⟨-, rfl, rfl, -⟩ := Part.other.inj h
      exact ⟨hq, rfl⟩

theorem bodies_leaf (p : Part) : p.leaf.bodies = [p.encoded] := by
  rw [leaf, encoded]
  cases p.encoding <;> rfl

theorem bodies_entity (p : Part) (index : Nat) :
    (p.entity index).bodies = p.encoded :: p.related.map fun r ↦ r.payload.encoded := by
  rw [entity]
  split
  · rename_i h
    rw [bodies_leaf, List.isEmpty_iff.mp h, List.map_nil]
  · have hrelated : (p.related.map Related.entity).flatMap Entity.bodies =
        p.related.map fun r ↦ r.payload.encoded := by
      rw [List.flatMap_map, List.map_eq_flatMap]
      rfl
    rw [Entity.bodies, childBodies_eq, List.flatMap_cons, bodies_leaf, hrelated,
      List.singleton_append]

end Part

namespace Message

theorem bodies_bodyEntity (m : Message) :
    m.bodyEntity.bodies = m.entries.flatMap Entity.bodies := by
  rw [bodyEntity]
  split
  · rename_i h
    rw [h, List.flatMap_singleton]
  · rw [Entity.bodies, childBodies_eq]

theorem bodies_entity (m : Message) : m.entity.bodies =
    m.synthesized?.toList.flatMap Entity.bodies ++
      (m.parts.flatMap fun p ↦ p.encoded :: p.related.map fun r ↦ r.payload.encoded) ++
      m.attachments.map fun a ↦ a.payload.encoded := by
  have hentries : m.entries =
      m.synthesized?.toList ++ m.parts.zipIdx.map fun x ↦ x.1.entity x.2 := rfl
  have hparts : (m.parts.zipIdx.map fun x ↦ x.1.entity x.2).flatMap Entity.bodies =
      m.parts.flatMap fun p ↦ p.encoded :: p.related.map fun r ↦ r.payload.encoded := by
    conv_rhs => rw [← List.zipIdx_map_fst 0 m.parts]
    rw [List.flatMap_map, List.flatMap_map]
    exact List.flatMap_congr fun x _ ↦ x.1.bodies_entity x.2
  have hattachments : (m.attachments.map Attachment.entity).flatMap Entity.bodies =
      m.attachments.map fun a ↦ a.payload.encoded := by
    rw [List.flatMap_map, List.map_eq_flatMap]
    rfl
  rw [entity]
  split
  · rename_i h
    rw [bodies_bodyEntity, hentries, List.flatMap_append, hparts, List.isEmpty_iff.mp h,
      List.map_nil, List.append_nil]
  · rw [Entity.bodies, childBodies_eq, List.flatMap_cons, bodies_bodyEntity, hentries,
      List.flatMap_append, hparts, hattachments]

theorem withinLimit_synthesized {m : Message} {e : Entity} (he : m.synthesized? = some e) :
    ∀ body ∈ e.bodies, WithinLimit body := by
  obtain ⟨html, -, he⟩ := Option.bind_eq_some_iff.mp he
  obtain ⟨content, -, he⟩ := Option.bind_eq_some_iff.mp he
  obtain ⟨-, he⟩ := Option.ite_none_left_eq_some.mp he
  obtain rfl := Option.some.inj he
  intro body hbody
  rw [List.mem_singleton.mp hbody]
  exact QuotedPrintable.withinLimit_encode.mpr (not_overlong_utf8 _)

variable {m m' : Message} {registry : Option Registry} {stamp : String → Stamp} {read : FileReader}
  {data : Backend.Data} {out : List Char}

theorem withinLimit_body {body : List Char} (h : body ∈ m.entity.bodies) :
    WithinLimit body ∨ ∃ p ∈ m.parts, p.IsOverlong ∧ body = p.encoded := by
  rw [bodies_entity, List.mem_append, List.mem_append] at h
  obtain (h | h) | h := h
  · obtain ⟨e, he, hbody⟩ := List.mem_flatMap.mp h
    exact .inl (withinLimit_synthesized (Option.mem_toList.mp he) body hbody)
  · obtain ⟨p, hp, hbody⟩ := List.mem_flatMap.mp h
    rcases List.mem_cons.mp hbody with rfl | hbody
    · by_cases hlong : p.IsOverlong
      · exact .inr ⟨p, hp, hlong, rfl⟩
      · exact .inl (p.withinLimit_encoded.mpr hlong)
    · obtain ⟨r, -, rfl⟩ := List.mem_map.mp hbody
      exact .inl (Base64.withinLimit_encode _)
  · obtain ⟨a, -, rfl⟩ := List.mem_map.mp h
    exact .inl (Base64.withinLimit_encode _)

theorem encoded_mem_bodies {p : Part} (hp : p ∈ m.parts) : p.encoded ∈ m.entity.bodies := by
  rw [bodies_entity]
  refine List.mem_append_left _ (List.mem_append_right _ (List.mem_flatMap.mpr ⟨p, hp, ?_⟩))
  exact List.mem_cons_self

theorem exists_overlong_of_source_eq (h : m'.source = m.source) {p : Part} (hp : p ∈ m'.parts)
    (hlong : p.IsOverlong) : ∃ q ∈ m.parts, q.IsOverlong ∧ p.encoded = q.encoded := by
  have hparts : m'.parts.map Part.source = m.parts.map Part.source := congrArg Message.parts h
  have hsource : p.source ∈ m.parts.map Part.source := hparts ▸ List.mem_map_of_mem hp
  obtain ⟨q, hq, hqp⟩ := List.mem_map.mp hsource
  exact ⟨q, hq, Part.isOverlong_of_source_eq hqp.symm hlong⟩

/-- Every body of a composed message is in the output line by line, and its lines have at most 76
characters unless it is that of an overlong part. So all lines of all bodies are within the limit
exactly if no part is overlong. -/
theorem body_lines_limited (hc : m.compose registry stamp read data = (m', .ok out)) :
    (∀ body ∈ m'.entity.bodies, Text.lines body <:+: Text.lines out ∧
      ((∀ l ∈ Text.lines body, l.length ≤ 76) ∨
        ∃ p ∈ m.parts, p.IsOverlong ∧ body = p.encoded)) ∧
    ((∀ body ∈ m'.entity.bodies, ∀ l ∈ Text.lines body, l.length ≤ 76) ↔
      ∀ p ∈ m.parts, ¬ p.IsOverlong) := by
  have hsource := source_compose hc
  obtain ⟨author, -, -, rfl⟩ := compose_ok hc
  refine ⟨fun body hbody ↦ ⟨?_, ?_⟩, fun h p hp hlong ↦ ?_, fun h body hbody ↦ ?_⟩
  · obtain ⟨fields, hwritten⟩ := Entity.write_body_isInfix hbody
    exact lines_body_isInfix (hwritten.trans (List.suffix_append ..).isInfix)
  · refine (withinLimit_body hbody).imp_right fun ⟨p, hp, hlong, hpb⟩ ↦ ?_
    obtain ⟨q, hq, hqlong, he⟩ := exists_overlong_of_source_eq hsource hp hlong
    exact ⟨q, hq, hqlong, hpb.trans he⟩
  · obtain ⟨q, hq, hqlong, -⟩ := exists_overlong_of_source_eq hsource.symm hp hlong
    exact q.withinLimit_encoded.mp (h _ (encoded_mem_bodies hq)) hqlong
  · obtain hlimit | ⟨p, hp, hlong, -⟩ := withinLimit_body hbody
    · exact hlimit
    · obtain ⟨q, hq, hqlong, -⟩ := exists_overlong_of_source_eq hsource hp hlong
      exact absurd hqlong (h q hq)

end Message

end

namespace Message

theorem letter_body_lines_limited :
    readLetter.entity.bodies.length = 4 ∧
    ∀ body ∈ readLetter.entity.bodies, ∀ l ∈ Text.lines body, l.length ≤ 76 := by
  obtain ⟨-, hlimit⟩ := body_lines_limited (compose_letter fun _ ↦ ⟨"", "T"⟩)
  refine ⟨rfl, hlimit.mpr fun p hp ↦ ?_⟩
  obtain rfl : p = .html (.literal "<p>Hi</p>") [⟨"i", "image/png", .memory [0x89]⟩] :=
    List.mem_singleton.mp hp
  exact id

/-- A lead byte that would begin two bytes, with 25 continuation bytes behind it. -/
def malformedBytes : Bytes :=
  0xC0 :: List.replicate 25 0x80

def malformed (author : Address) : Message :=
  (Message.empty.after (.edit (.author author))).after
    (.edit (.part "text/plain" .auto malformedBytes []))

theorem reachable_malformed (author : Address) : (malformed author).Reachable := by
  have hrun := (Run.empty.step (.edit (.author author)) ?_).step
    (.edit (.part "text/plain" .auto malformedBytes [])) ?_
  · exact ⟨_, hrun⟩
  all_goals simp [Event.Unread, Edit.related]

theorem malformed_exceeds_limit :
    (malformed ⟨"Ann", "a@b.c", by decide⟩).Reachable ∧
    ∃ m' out, (malformed ⟨"Ann", "a@b.c", by decide⟩).compose none
        (.at 1377853811 fun _ _ ↦ "TOKEN") (fun _ ↦ .error .notFound) Data.Value.null =
          (m', .ok out) ∧
      ∃ body ∈ m'.entity.bodies, ∃ l ∈ Text.lines body, 76 < l.length := by
  have hpart (author : Address) :
      Part.other "text/plain" .auto malformedBytes [] ∈ (malformed author).parts :=
    List.mem_singleton_self _
  have hrun : ∀ b ∈ List.replicate 25 (0x80 : UInt8), isContinuation b = true := fun b hb ↦ by
    rw [List.eq_of_mem_replicate hb]
    rfl
  have hoverlong : Part.IsOverlong (.other "text/plain" .auto malformedBytes []) :=
    ⟨TransferEncoding.noConfusion, [], 0xC0, _, [], rfl, rfl, hrun, List.length_replicate⟩
  have hexceeds := mt (Part.withinLimit_encoded _).mp (not_not.mpr hoverlong)
  refine ⟨reachable_malformed _, _, _, rfl, _, encoded_mem_bodies (hpart _), ?_⟩
  simpa [WithinLimit, lineLimit] using hexceeds

end Message

end MimeMail
