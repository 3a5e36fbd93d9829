import MimeMail.Proofs.Address.Header
import MimeMail.Proofs.Message.Composed
import MimeMail.Proofs.Stamp.Date
import MimeMail.Proofs.Wire.Header

namespace MimeMail

open Encoding Text

theorem QuotedString.folded_escape {s : List Char} (h : Folded Printable s) :
    Folded Printable (QuotedString.escape s) := by
  have hback : Printable '\\' := by decide
  induction h with
  | nil => exact .nil
  | char hc _ ih =>
    rw [QuotedString.escape]
    split
    · exact .char hback (.char hc ih)
    · exact .char hc ih
  | @fold b s hb _ ih =>
    have he : QuotedString.escape ('\r' :: '\n' :: b :: s) =
        '\r' :: '\n' :: b :: QuotedString.escape s := by
      rcases hb with rfl | rfl <;> rfl
    rw [he]
    exact .fold hb ih

theorem QuotedString.folded_encode {s : List Char} (h : Folded Printable s) :
    Folded Printable (QuotedString.encode s) :=
  .char (by decide) ((QuotedString.folded_escape h).append (.of_forall (by decide)))

theorem Attachment.folded_quotedName (name : String) : Folded Printable (quotedName name) := by
  rw [quotedName]
  split
  · rename_i h
    exact QuotedString.folded_encode (.of_forall (printable_of_utf8 h))
  · exact QuotedString.folded_encode (EncodedWord.folded_encode _ nameColumn)

theorem Attachment.sound_disposition {p : Char → Prop} (hp : ∀ c, Printable c → p c)
    (name : String) :
    (⟨"Content-Disposition", "attachment;\r\n\tfilename=".toList ++ quotedName name⟩ :
      Field).Sound p := by
  have hfold : Folded p "attachment;\r\n\tfilename=".toList := by
    refine Folded.append (s := "attachment;".toList) (.of_forall fun c hc ↦ hp c ?_)
      (.fold (.inr rfl) (.of_forall fun c hc ↦ hp c ?_))
    · have hlit : ∀ c ∈ "attachment;".toList, Printable c := by decide
      exact hlit c hc
    · have hlit : ∀ c ∈ "filename=".toList, Printable c := by decide
      exact hlit c hc
  exact ⟨(by decide : Field.isName "Content-Disposition" = true),
    hfold.append ((folded_quotedName name).mono hp)⟩

theorem Related.sound_contentId {p : Char → Prop} (hp : ∀ c, Printable c → p c) {id : List Char}
    (h : ∀ c ∈ id, p c) : (⟨"Content-ID", '<' :: id ++ ['>']⟩ : Field).Sound p :=
  ⟨(by decide : Field.isName "Content-ID" = true),
    .char (hp _ (by decide)) ((Folded.of_forall h).append (.char (hp _ (by decide)) .nil))⟩

variable [Backend]

/-- What goes into header fields as it is consists of characters of `p`. -/
structure Message.Clean (p : Char → Prop) (m : Message) : Prop where
  domain : ∀ d ∈ m.domain, ∀ c ∈ d.toList, p c
  parts : ∀ q ∈ m.parts, ∀ c ∈ q.contentType.toList, p c
  related : ∀ q ∈ m.parts, ∀ r ∈ q.related,
    (∀ c ∈ r.contentType.toList, p c) ∧ ∀ c ∈ r.id.toList, p c
  attachments : ∀ a ∈ m.attachments, ∀ c ∈ a.contentType.toList, p c

theorem Part.contentType_source (q : Part) : q.source.contentType = q.contentType := by
  cases q <;> rfl

theorem Part.related_source (q : Part) : q.source.related = q.related.map Related.source := by
  cases q <;> rfl

theorem Message.clean_source {p : Char → Prop} {m : Message} : m.source.Clean p ↔ m.Clean p := by
  constructor
  · intro h
    refine ⟨h.domain, fun q hq ↦ ?_, fun q hq r hr ↦ ?_, fun a ha ↦ ?_⟩
    · have hs := h.parts q.source (List.mem_map_of_mem hq)
      rwa [q.contentType_source] at hs
    · refine h.related q.source (List.mem_map_of_mem hq) r.source ?_
      rw [q.related_source]
      exact List.mem_map_of_mem hr
    · exact h.attachments a.source (List.mem_map_of_mem ha)
  · intro h
    refine ⟨h.domain, fun q hq ↦ ?_, fun q hq r hr ↦ ?_, fun a ha ↦ ?_⟩
    · obtain ⟨q', hq', rfl⟩ := List.mem_map.mp hq
      rw [q'.contentType_source]
      exact h.parts q' hq'
    · obtain ⟨q', hq', rfl⟩ := List.mem_map.mp hq
      rw [q'.related_source] at hr
      obtain ⟨r', hr', rfl⟩ := List.mem_map.mp hr
      exact h.related q' hq' r' hr'
    · obtain ⟨a', ha', rfl⟩ := List.mem_map.mp ha
      exact h.attachments a' ha'

theorem Message.Clean.of_source_eq {p : Char → Prop} {m m' : Message} (h : m.Clean p)
    (hs : m'.source = m.source) : m'.Clean p := by
  rw [← clean_source, hs, clean_source]
  exact h

theorem Message.Clean.mono {p q : Char → Prop} {m : Message} (h : m.Clean p)
    (hpq : ∀ c, p c → q c) : m.Clean q :=
  ⟨fun d hd c hc ↦ hpq c (h.domain d hd c hc), fun x hx c hc ↦ hpq c (h.parts x hx c hc),
    fun x hx r hr ↦ (h.related x hx r hr).imp (fun h c hc ↦ hpq c (h c hc))
      fun h c hc ↦ hpq c (h c hc),
    fun a ha c hc ↦ hpq c (h.attachments a ha c hc)⟩

theorem Message.names_fields (m : Message) (author : Address) (stamp : Stamp) :
    (m.fields author stamp).map Field.name =
      ["Message-ID", "Date", "Subject", "From"] ++
      (if m.replyTo.any (·.addr != author.addr) then ["Reply-To"] else []) ++
      ["To"] ++
      (if m.cc.isEmpty then [] else ["Cc"]) ++
      ["MIME-Version"] := by
  have hreply : (m.replyTo.toList.filter (·.addr != author.addr)).map (fun _ ↦ "Reply-To") =
      if m.replyTo.any (·.addr != author.addr) then ["Reply-To"] else [] := by
    cases m.replyTo with
    | none => rfl
    | some a => by_cases h : (a.addr != author.addr) = true <;> simp [h]
  rw [← hreply, fields]
  simp only [List.map_append, List.map_map, List.map_cons, List.map_nil]
  split <;> rfl

theorem Message.sound_fields {p : Char → Prop} (hp : ∀ c, Printable c → p c) {m : Message}
    (hm : m.Clean p) (author : Address) {stamp : Stamp} (hdate : ∀ c ∈ stamp.date.toList, p c)
    (htoken : ∀ c ∈ stamp.token.toList, p c) : ∀ f ∈ m.fields author stamp, f.Sound p := by
  have hdomain : ∀ c ∈ (m.domain.getD author.domain).toList, p c := by
    cases hd : m.domain with
    | none => exact fun c hc ↦ hp c (author.domain_printable c hc)
    | some d => exact hm.domain d hd
  have hid : Folded p ('<' :: stamp.token.toList ++ '@' ::
      (m.domain.getD author.domain).toList ++ ['>']) := by
    refine .append (.append (.char (hp _ (by decide)) (.of_forall htoken)) ?_)
      (.char (hp _ (by decide)) .nil)
    exact .char (hp _ (by decide)) (.of_forall hdomain)
  intro f hf
  simp only [fields, List.mem_append, List.mem_cons, List.not_mem_nil, or_false] at hf
  rcases hf with (((((rfl | rfl | rfl | rfl) | hf) | rfl) | hf) | rfl)
  · exact ⟨(by decide : Field.isName "Message-ID" = true), by simpa using hid⟩
  · exact ⟨(by decide : Field.isName "Date" = true), .of_forall hdate⟩
  · exact ⟨(by decide : Field.isName "Subject" = true),
      (EncodedWord.folded_encodeIfNeeded _ 9).mono hp⟩
  · exact ⟨(by decide : Field.isName "From" = true), (author.folded_encode 6).mono hp⟩
  · obtain ⟨a, -, rfl⟩ := List.mem_map.mp hf
    exact ⟨(by decide : Field.isName "Reply-To" = true), (a.folded_encode 10).mono hp⟩
  · exact ⟨(by decide : Field.isName "To" = true), (Address.folded_encodeList _ 4).mono hp⟩
  · split at hf
    · cases hf
    · rw [List.mem_singleton.mp hf]
      exact ⟨(by decide : Field.isName "Cc" = true), (Address.folded_encodeList m.cc 4).mono hp⟩
  · exact ⟨(by decide : Field.isName "MIME-Version" = true),
      .of_forall fun c hc ↦ hp c (by revert c; decide)⟩

end MimeMail
