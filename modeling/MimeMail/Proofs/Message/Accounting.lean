import MimeMail.Proofs.Encoding.Base64
import MimeMail.Proofs.Message.Resolve
import MimeMail.Proofs.Wire.Entity

namespace MimeMail

open Encoding

namespace Log

theorem record_ok {log : Log} {reads : Slot → Option (Except ReadError Bytes)} {slot : Slot}
    {data : Bytes} (h : reads slot = some (.ok data)) : log.record reads slot = some data := by
  rw [record, h]

theorem record_of_not_ok {log : Log} {reads : Slot → Option (Except ReadError Bytes)} {slot : Slot}
    (h : ∀ data, reads slot ≠ some (.ok data)) : log.record reads slot = log slot := by
  rw [record]
  split
  · rename_i data hd
    exact absurd hd (h data)
  · rfl

theorem record_none (log : Log) : log.record (fun _ ↦ none) = log :=
  rfl

end Log

section

variable [Backend]

/-- What a run keeps up between a message and the log of its reads. -/
structure Accounted (m : Message) (log : Log) : Prop where
  loaded : m.prepared = true → ∀ slot q, m.payloadAt slot = some q → q.data?.isSome = true
  cached : ∀ slot path data, m.payloadAt slot = some (.file path (some data)) →
    log slot = some data

namespace Message

variable {m m' : Message} {log : Log}

theorem complete_of_prepared {read : FileReader} {fresh : Bool} {slot : Slot} {q : Payload}
    (hp : (m.load read fresh).1.prepared = true) (hm : (m.prepared && !fresh) = false)
    (hq : m.payloadAt slot = some q) : (q.load read fresh).2 = [] := by
  have hall : (m.parts.flatMap fun p ↦ p.related.flatMap fun r ↦ (r.load read fresh).2) ++
      (m.attachments.flatMap fun a ↦ (a.load read fresh).2) = [] := by
    simpa [load, hm, collect, Part.load, List.flatMap_map] using hp
  obtain ⟨hparts, hattachments⟩ := List.append_eq_nil_iff.mp hall
  cases slot with
  | item i j =>
    obtain ⟨p, hpi, r, hr, rfl⟩ := payloadAt_item.mp hq
    have hrelated := List.flatMap_eq_nil_iff.mp hparts p (List.mem_of_getElem? hpi)
    exact List.flatMap_eq_nil_iff.mp hrelated r (List.mem_of_getElem? hr)
  | attachment i =>
    obtain ⟨a, ha, rfl⟩ := payloadAt_attachment.mp hq
    exact List.flatMap_eq_nil_iff.mp hattachments a (List.mem_of_getElem? ha)

end Message

namespace Accounted

variable {m m' : Message} {log : Log}

theorem congr (h : Accounted m log) (hp : m'.payloadAt = m.payloadAt)
    (hm : m'.prepared = m.prepared) : Accounted m' log := by
  refine ⟨fun hm' ↦ ?_, ?_⟩
  · rw [hp]
    exact h.loaded (hm ▸ hm')
  · rw [hp]
    exact h.cached

theorem load (h : Accounted m log) (read : FileReader) (fresh : Bool) :
    Accounted (m.load read fresh).1 (log.record (m.readAt read fresh)) := by
  by_cases hm : (m.prepared && !fresh) = true
  -- A prepared message reads nothing, and keeps what it has.
  · have hr : m.readAt read fresh = fun _ ↦ none := funext fun slot ↦ if_pos hm
    rw [hr, Log.record_none, Message.load, if_pos hm]
    exact h
  · have hr : m.readAt read fresh = fun slot ↦
        (m.payloadAt slot).bind (Payload.attempt read fresh) := funext fun slot ↦ if_neg hm
    have hload : (m.load read fresh).1.payloadAt = fun slot ↦
        (m.payloadAt slot).map fun p ↦ (p.load read fresh).1 := by
      funext slot
      rw [Message.payloadAt_load, if_neg hm]
    refine ⟨fun hp slot q hq ↦ ?_, fun slot path data hq ↦ ?_⟩
    · rw [hload] at hq
      obtain ⟨p, hps, rfl⟩ := Option.map_eq_some_iff.mp hq
      exact Payload.load_complete
        (Message.complete_of_prepared hp (Bool.eq_false_iff.mpr hm) hps)
    · rw [hload] at hq
      obtain ⟨p, hps, hpl⟩ := Option.map_eq_some_iff.mp hq
      obtain ha | ⟨rfl, hn⟩ := Payload.load_cases hpl
      · exact Log.record_ok (by rw [hr]; simpa [hps] using ha)
      · rw [Log.record_of_not_ok fun d ↦ by rw [hr]; simpa [hps] using hn d]
        exact h.cached slot path data hps

theorem of_origin (renewed : Slot → Bool) (h : Accounted m log)
    (ho : ∀ slot q, m'.payloadAt slot = some q → Message.Origin m m' slot (renewed slot) q) :
    Accounted m' fun slot ↦ if renewed slot then none else log slot := by
  refine ⟨fun hp slot q hq ↦ ?_, fun slot path data hq ↦ ?_⟩
  · obtain ⟨-, hf⟩ | ⟨hq, -, hm⟩ := ho slot q hq
    · exact Payload.data?_isSome (hf hp)
    · exact h.loaded (hm hp) slot q hq
  · obtain ⟨hu, -⟩ | ⟨hq, hr, -⟩ := ho slot _ hq
    · cases hu rfl
    · rw [hr, if_neg Bool.false_ne_true]
      exact h.cached slot path data hq

theorem resolve (h : Accounted m log) (read : FileReader) (data : Backend.Data) :
    Accounted (m.resolve read data).1 (log.record (m.readAt read false)) := by
  have hr : (m.render data).1.readAt read false = m.readAt read false := by
    funext slot
    rw [Message.readAt, Message.payloadAt_render]
    rfl
  rw [← hr]
  exact (h.congr (Message.payloadAt_render data m) rfl).load read false

theorem compose (h : Accounted m log) (registry : Option Registry) (stamp : String → Stamp)
    (read : FileReader) (data : Backend.Data) :
    Accounted (m.compose registry stamp read data).1
      (log.record (m.composeReadAt registry read)) := by
  cases ha : m.resolveAuthor registry with
  | none =>
    have hr : m.composeReadAt registry read = fun _ ↦ none := by
      funext slot
      rw [Message.composeReadAt, ha]
      rfl
    rw [hr, Log.record_none, Message.compose, ha]
    exact h
  | some author =>
    have hr : m.composeReadAt registry read = m.readAt read false := by
      funext slot
      rw [Message.composeReadAt, ha]
      rfl
    rw [hr]
    have hm : (m.compose registry stamp read data).1 = (m.resolve read data).1 := by
      simp only [Message.compose, ha]
      split <;> rfl
    rw [hm]
    exact h.resolve read data

theorem send {σ : Type} (h : Accounted m log) (s : Sender) (c : Composer) (read : FileReader)
    (data : Backend.Data) (transport : Transport σ) (state : σ) :
    Accounted (s.send c read data transport m state).message
      (log.record (Message.composeReadAt { m with sender := some s } c.registry read)) := by
  rw [Sender.message_send]
  have hs : Accounted { m with sender := some s } log := h.congr rfl rfl
  exact hs.compose c.registry c.stamp read data

theorem step (h : Accounted m log) {ev : Event} (hu : ev.Unread) :
    Accounted (m.after ev) (log.after m ev) := by
  cases ev with
  | edit e =>
    rw [Message.after, Log.after]
    split
    · rename_i m' he
      exact h.of_origin (m.renews · (.edit e)) fun slot q hq ↦ Message.edit_origin he hu hq
    · rename_i err he
      have hn : (fun slot ↦ if m.renews slot (.edit e) then none else log slot) = log := by
        funext slot
        rw [Message.renews_of_error he, if_neg Bool.false_ne_true]
      rw [hn]
      exact h
  | prepare read fresh => exact h.load read fresh
  | compose registry stamp read data => exact h.compose registry stamp read data
  | send s c read data transport state => exact h.send s c read data transport state
  | sendDefault r c read data transport state =>
    cases hr : r.default? with
    | none =>
      simpa [Message.after, Log.after, Message.eventReadAt, Message.renews, Log.record_none,
        Registry.send, hr] using h
    | some s =>
      simpa [Message.after, Log.after, Message.eventReadAt, Message.renews, Registry.send, hr]
        using h.send s c read data transport state
  | copy => exact h.of_origin (fun _ ↦ true) fun slot q hq ↦ .inl (Message.copy_origin hq)

theorem empty : Accounted .empty fun _ ↦ none := by
  refine ⟨fun _ slot q hq ↦ ?_, fun slot path data hq ↦ ?_⟩
  · cases slot <;> simp [Message.payloadAt, Message.empty] at hq
  · cases slot <;> simp [Message.payloadAt, Message.empty] at hq

theorem setPlain (h : Accounted m log) (body : Content) : Accounted (m.setPlain body) log :=
  h.of_origin (fun _ ↦ false) fun _ _ hq ↦ Message.setPlain_origin hq

theorem setHtml (h : Accounted m fun _ ↦ none) (body : Content) :
    Accounted (m.setHtml body []) fun _ ↦ none := by
  have hhtml : Accounted (m.setHtml body []) _ := h.of_origin (·.isItemOf m.htmlSlot) fun _ _ hq ↦
    Message.setHtml_origin (fun _ hr ↦ absurd hr List.not_mem_nil) hq
  simpa only [ite_self] using hhtml

theorem quick (subject : String) (text html : Option String) :
    Accounted (.quick subject text html) fun _ ↦ none := by
  have hsubject : Accounted { Message.empty with subject := .literal subject } fun _ ↦ none :=
    empty.congr rfl rfl
  cases text with
  | none =>
    cases html with
    | none => exact hsubject
    | some html => exact hsubject.setHtml (.literal html)
  | some text =>
    cases html with
    | none => exact hsubject.setPlain (.literal text)
    | some html => exact (hsubject.setPlain (.literal text)).setHtml (.literal html)

end Accounted

theorem Run.accounted {m : Message} {log : Log} (h : Run m log) : Accounted m log := by
  induction h with
  | empty => exact .empty
  | quick subject text html => exact .quick subject text html
  | step ev h hu ih => exact ih.step hu

namespace Message

variable {m m' : Message} {registry : Option Registry} {stamp : String → Stamp} {read : FileReader}
  {data : Backend.Data} {out : List Char}

theorem prepared_of_compose (h : m.compose registry stamp read data = (m', .ok out)) :
    m'.prepared = true := by
  obtain ⟨author, -, hr, -⟩ := compose_ok h
  have hm : ((m.render data).1.load read false).1 = m' := congrArg Prod.fst hr
  have hf : ((m.render data).1.load read false).2 = [] := by
    have he := congrArg Prod.snd hr
    simp only [resolve] at he
    exact List.map_eq_nil_iff.mp (List.append_eq_nil_iff.mp he).2
  exact prepared_of_load (Prod.ext hm hf)

theorem payloadAt_compose (h : m.compose registry stamp read data = (m', .ok out)) {slot : Slot}
    {q : Payload} (hq : m.payloadAt slot = some q) :
    ∃ q', m'.payloadAt slot = some q' ∧ q'.forget = q.forget := by
  obtain ⟨author, -, hr, -⟩ := compose_ok h
  have hm : ((m.render data).1.load read false).1 = m' := congrArg Prod.fst hr
  rw [← hm, payloadAt_load, payloadAt_render, hq]
  split
  · exact ⟨q, rfl, rfl⟩
  · exact ⟨_, rfl, Payload.forget_load read false q⟩

theorem entityAt_of_payloadAt {slot : Slot} {q : Payload} {bytes : Bytes}
    (h : m.payloadAt slot = some q) (hb : q.data? = some bytes) :
    ∃ body fields, body = Base64.encode bytes ∧ Base64.decode body = some bytes ∧
      Wire.encodingField "base64" ∈ fields ∧ m.entityAt slot = some (.leaf fields body) := by
  have hentity : ∃ fields, Wire.encodingField "base64" ∈ fields ∧
      m.entityAt slot = some (.leaf fields (Base64.encode (q.data?.getD []))) := by
    cases slot with
    | item i j =>
      obtain ⟨p, hp, r, hr, rfl⟩ := payloadAt_item.mp h
      refine ⟨_, ?_, by rw [entityAt, hp, Option.bind_some, hr]; rfl⟩
      simp
    | attachment i =>
      obtain ⟨a, ha, rfl⟩ := payloadAt_attachment.mp h
      refine ⟨_, ?_, by rw [entityAt, ha]; rfl⟩
      simp
  obtain ⟨fields, hlabel, he⟩ := hentity
  rw [hb] at he
  exact ⟨_, fields, rfl, Base64.decode_encode bytes, hlabel, he⟩

theorem write_entityAt_isInfix {token : List Char} {slot : Slot} {e : Wire.Entity}
    (h : m.entityAt slot = some e) : e.write token <:+: m.entity.write token := by
  cases slot with
  | item i j =>
    obtain ⟨p, hp, he⟩ := Option.bind_eq_some_iff.mp h
    obtain ⟨r, hr, rfl⟩ := Option.map_eq_some_iff.mp he
    exact (p.write_item_isInfix i (List.mem_of_getElem? hr)).trans (write_part_isInfix hp)
  | attachment i =>
    obtain ⟨a, ha, rfl⟩ := Option.map_eq_some_iff.mp h
    exact write_attachment_isInfix (List.mem_of_getElem? ha)

end Message

theorem Run.accounted_compose {m m' : Message} {log : Log} (h : Run m log)
    {registry : Option Registry} {stamp : String → Stamp} {read : FileReader} {data : Backend.Data}
    {out : List Char} (hc : m.compose registry stamp read data = (m', .ok out)) :
    Accounted m' (log.after m (.compose registry stamp read data)) := by
  have hev : m.after (.compose registry stamp read data) = m' := congrArg Prod.fst hc
  rw [← hev]
  exact (h.step (.compose registry stamp read data) trivial).accounted

/-- No file is sent unread. A prepared message has the contents of all its files, and a message that
composing succeeds for is sent with what its payloads hold in memory, and with the bytes of the last
successful read of each file, in base64 bodies that decode to just these bytes. -/
theorem Run.sent_as_read {m : Message} {log : Log} (h : Run m log) :
    (m.prepared = true → ∀ slot q, m.payloadAt slot = some q → q.data?.isSome = true) ∧
    ∀ registry stamp read data m' out, m.compose registry stamp read data = (m', .ok out) →
      ∀ slot q, m.payloadAt slot = some q →
        ∃ bytes body fields,
          q.Supplies (log.after m (.compose registry stamp read data) slot) bytes ∧
          body = Base64.encode bytes ∧ Base64.decode body = some bytes ∧
          Wire.encodingField "base64" ∈ fields ∧ m'.entityAt slot = some (.leaf fields body) ∧
          (Wire.Entity.leaf fields body).write (stamp m'.subject.text).token.toList <:+: out := by
  refine ⟨h.accounted.loaded, fun registry stamp read data m' out hc slot q hq ↦ ?_⟩
  have hacc := h.accounted_compose hc
  obtain ⟨q', hq', hforget⟩ := Message.payloadAt_compose hc hq
  obtain ⟨bytes, hb⟩ := Option.isSome_iff_exists.mp
    (hacc.loaded (Message.prepared_of_compose hc) slot q' hq')
  obtain ⟨body, fields, hencode, hdecode, hlabel, he⟩ := Message.entityAt_of_payloadAt hq' hb
  obtain ⟨author, -, -, rfl⟩ := Message.compose_ok hc
  refine ⟨bytes, body, fields, ?_, hencode, hdecode, hlabel, he,
    (Message.write_entityAt_isInfix he).trans (List.suffix_append _ _).isInfix⟩
  cases q with
  | memory data =>
    cases q' with
    | memory data' =>
      obtain rfl := Payload.memory.inj hforget
      exact (Option.some.inj hb).symm
    | file path cache => cases hforget
  | file path cache =>
    cases q' with
    | memory data => cases hforget
    | file path' cache' =>
      obtain rfl : cache' = some bytes := hb
      exact hacc.cached slot path' bytes hq'

end

theorem letter_sent_as_read :
    (∀ slot q, Message.readLetter.payloadAt slot = some q → q.data?.isSome = true) ∧
    ∃ bytes body fields,
      (Payload.file "n.txt" none).Supplies
        (Log.after (fun _ ↦ none) .letter
          (.compose none (fun _ ↦ ⟨"", "T"⟩) (fun _ ↦ .ok [0x41]) Data.Value.null)
          (.attachment 0)) bytes ∧
      body = Base64.encode bytes ∧ Base64.decode body = some bytes ∧
      Wire.encodingField "base64" ∈ fields ∧
      Message.readLetter.entityAt (.attachment 0) = some (.leaf fields body) ∧
      (Wire.Entity.leaf fields body).write ['T'] <:+:
        Message.readLetter.write .zoe ⟨"", "T"⟩ := by
  have hread := run_letter.step
    (.compose none (fun _ ↦ ⟨"", "T"⟩) (fun _ ↦ .ok [0x41]) Data.Value.null) trivial
  refine ⟨hread.sent_as_read.1 rfl, ?_⟩
  exact run_letter.sent_as_read.2 none (fun _ ↦ ⟨"", "T"⟩) (fun _ ↦ .ok [0x41]) Data.Value.null _ _
    (compose_letter _) (.attachment 0) (.file "n.txt" none) rfl

end MimeMail
