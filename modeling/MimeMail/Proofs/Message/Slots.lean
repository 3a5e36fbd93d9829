import Mathlib.Data.List.Basic
import MimeMail.Proofs.Message.Composed
import MimeMail.Proofs.Message.Run

namespace MimeMail

theorem exists_of_bind_ok {ε α β : Type} {x : Except ε α} {f : α → Except ε β} {b : β}
    (h : (x >>= f) = .ok b) : ∃ a, x = .ok a ∧ f a = .ok b := by
  cases x with
  | error e => cases h
  | ok a => exact ⟨a, rfl, h⟩

theorem getElem?_concat_cases {α : Type} {l : List α} {a b : α} {i : Nat}
    (h : (l ++ [a])[i]? = some b) : l[i]? = some b ∨ b = a := by
  by_cases hi : i < l.length
  · rw [List.getElem?_append_left hi] at h
    exact .inl h
  · rw [List.getElem?_append_right (Nat.le_of_not_lt hi)] at h
    exact .inr (List.mem_singleton.mp (List.mem_of_getElem? h))

namespace Payload

theorem unread_forget (p : Payload) : p.forget.Unread := by
  cases p with
  | file path cache => exact fun _ ↦ rfl
  | memory data => exact fun h ↦ absurd h Bool.false_ne_true

theorem unread_copy (p : Payload) : p.copy.Unread := by
  cases p with
  | file path cache => exact fun _ ↦ rfl
  | memory data => exact fun h ↦ absurd h Bool.false_ne_true

theorem unread_memory (data : Bytes) : (memory data).Unread :=
  fun h ↦ absurd h Bool.false_ne_true

theorem isFile_forget (p : Payload) : p.forget.isFile = p.isFile := by
  cases p <;> rfl

theorem isFile_copy (p : Payload) : p.copy.isFile = p.isFile := by
  cases p <;> rfl

theorem data?_isSome {p : Payload} (h : p.isFile = false) : p.data?.isSome = true := by
  cases p with
  | file path cache => exact absurd h.symm Bool.false_ne_true
  | memory data => rfl

theorem load_cases {read : FileReader} {fresh : Bool} {p : Payload} {path : String} {data : Bytes}
    (h : (p.load read fresh).1 = .file path (some data)) :
    p.attempt read fresh = some (.ok data) ∨
      (p = .file path (some data) ∧ ∀ d, p.attempt read fresh ≠ some (.ok d)) := by
  cases p with
  | memory d => exact absurd h Payload.noConfusion
  | file path' cache =>
    by_cases hc : (cache.isSome && !fresh) = true
    · refine .inr ⟨?_, fun d hd ↦ ?_⟩
      · simpa only [load, if_pos hc] using h
      · rw [attempt, if_pos hc] at hd
        cases hd
    · rw [Bool.not_eq_true] at hc
      cases hr : read path' with
      | ok d =>
        have he : path' = path ∧ d = data := by simpa [load, hc, hr] using h
        exact .inl (by simp [attempt, hc, hr, he.2])
      | error e =>
        refine .inr ⟨?_, fun d hd ↦ ?_⟩
        · simpa [load, hc, hr] using h
        · simp [attempt, hc, hr] at hd

theorem load_complete {read : FileReader} {fresh : Bool} {p : Payload}
    (h : (p.load read fresh).2 = []) : (p.load read fresh).1.data?.isSome = true := by
  cases p with
  | memory data => rfl
  | file path cache =>
    by_cases hc : (cache.isSome && !fresh) = true
    · rw [load, if_pos hc]
      exact (Bool.and_eq_true_iff.mp hc).1
    · rw [Bool.not_eq_true] at hc
      cases hr : read path with
      | ok d => simp [load, hc, hr, data?]
      | error e => simp [load, hc, hr] at h

end Payload

variable [Backend]

theorem getElem?_putPart (kind : Part → Bool) (p : Part) (ps : List Part) (i : Nat) :
    (putPart kind p ps)[i]? = if i = (ps.findIdx? kind).getD ps.length then some p else ps[i]? := by
  induction ps generalizing i with
  | nil => cases i <;> simp [putPart]
  | cons q qs ih =>
    by_cases hq : kind q = true
    · cases i <;> simp [putPart, hq, List.findIdx?_cons]
    · have hk : ((q :: qs).findIdx? kind).getD (qs.length + 1) =
          (qs.findIdx? kind).getD qs.length + 1 := by
        cases h : qs.findIdx? kind <;> simp [List.findIdx?_cons, hq, h]
      rw [putPart, if_neg hq, List.length_cons, hk]
      cases i with
      | zero => simp
      | succ i => simp [ih]

theorem Part.related_withRelated {p : Part} {related : List Related}
    (h : p.related = [] → related = []) :
    (p.withRelated related).related = related := by
  cases p with
  | plain body => exact (h rfl).symm
  | html body rs => rfl
  | other contentType encoding body rs => rfl

theorem Part.related_load (read : FileReader) (fresh : Bool) (p : Part) :
    (p.load read fresh).1.related = p.related.map fun r ↦ (r.load read fresh).1 := by
  rw [load, collect, List.map_map]
  exact related_withRelated (by simp +contextual)

theorem Part.related_render (data : Backend.Data) (p : Part) :
    (p.render data).1.related = p.related := by
  cases p <;> rfl

namespace Message

variable {m m' : Message}

theorem payloadAt_item {i j : Nat} {q : Payload} :
    m.payloadAt (.item i j) = some q ↔
      ∃ p, m.parts[i]? = some p ∧ ∃ r, p.related[j]? = some r ∧ r.payload = q := by
  simp [payloadAt, Option.bind_eq_some_iff]

theorem payloadAt_attachment {i : Nat} {q : Payload} :
    m.payloadAt (.attachment i) = some q ↔ ∃ a, m.attachments[i]? = some a ∧ a.payload = q := by
  simp [payloadAt]

/-- A slot holds what becomes of its payload where every payload is changed in one way. -/
theorem payloadAt_map (m : Message) {f : Part → Part} {g : Payload → Payload}
    (hp : m'.parts = m.parts.map f)
    (hf : ∀ p, (f p).related.map Related.payload = p.related.map fun r ↦ g r.payload)
    (ha : m'.attachments.map Attachment.payload = m.attachments.map fun a ↦ g a.payload)
    (slot : Slot) : m'.payloadAt slot = (m.payloadAt slot).map g := by
  cases slot with
  | item i j =>
    cases hi : m.parts[i]? with
    | none => simp [payloadAt, hp, hi]
    | some p =>
      have hr := congrArg (·[j]?) (hf p)
      simp only [List.getElem?_map] at hr
      simp [payloadAt, hp, hi, hr, Option.map_map, Function.comp_def]
  | attachment i =>
    have hi := congrArg (·[i]?) ha
    simp only [List.getElem?_map] at hi
    simp [payloadAt, hi, Option.map_map, Function.comp_def]

theorem payloadAt_congr (hp : m'.parts = m.parts) (ha : m'.attachments = m.attachments) :
    m'.payloadAt = m.payloadAt := by
  funext slot
  cases slot <;> simp only [payloadAt, hp, ha]

theorem isFile_of_not_hasFiles (h : m.hasFiles = false) {slot : Slot} {q : Payload}
    (hq : m.payloadAt slot = some q) : q.isFile = false := by
  obtain ⟨hp, ha⟩ := Bool.or_eq_false_iff.mp h
  cases slot with
  | item i j =>
    obtain ⟨p, hpi, r, hr, rfl⟩ := payloadAt_item.mp hq
    have hpf := List.any_eq_false.mp hp p (List.mem_of_getElem? hpi)
    rw [Bool.not_eq_true] at hpf
    simpa using List.any_eq_false.mp hpf r (List.mem_of_getElem? hr)
  | attachment i =>
    obtain ⟨a, hai, rfl⟩ := payloadAt_attachment.mp hq
    simpa using List.any_eq_false.mp ha a (List.mem_of_getElem? hai)

def IsNew (m : Message) (q : Payload) : Prop :=
  q.Unread ∧ (m.prepared = true → q.isFile = false)

/-- Where a payload comes from that stands in a slot after a step. -/
def Origin (m m' : Message) (slot : Slot) (renewed : Bool) (q : Payload) : Prop :=
  m'.IsNew q ∨
    (m.payloadAt slot = some q ∧ renewed = false ∧ (m'.prepared = true → m.prepared = true))

theorem Origin.trans {m₁ m₂ m₃ : Message} {slot : Slot} {q : Payload}
    (h : m₂.payloadAt slot = some q → Origin m₁ m₂ slot false q)
    (h' : Origin m₂ m₃ slot false q) : Origin m₁ m₃ slot false q := by
  obtain hn | ⟨hq, -, hp⟩ := h'
  · exact .inl hn
  · obtain ⟨hu, hf⟩ | ⟨hq', -, hp'⟩ := h hq
    · exact .inl ⟨hu, fun h₃ ↦ hf (hp h₃)⟩
    · exact .inr ⟨hq', rfl, fun h₃ ↦ hp' (hp h₃)⟩

theorem origin_of_same {m m' : Message} {slot : Slot} {q : Payload} (hparts : m'.parts = m.parts)
    (ha : m'.attachments = m.attachments) (hp : m'.prepared = m.prepared)
    (hq : m'.payloadAt slot = some q) : Origin m m' slot false q :=
  .inr ⟨payloadAt_congr hparts ha ▸ hq, rfl, fun h ↦ hp ▸ h⟩

theorem isNew_of_part {m : Message} {p : Part} {r : Related} {b : Bool}
    (hu : ∀ r ∈ p.related, r.payload.Unread) (hp : m.prepared = (b && !p.hasFiles))
    (hr : r ∈ p.related) : m.IsNew r.payload := by
  refine ⟨hu r hr, fun h ↦ ?_⟩
  rw [hp, Bool.and_eq_true_iff, Bool.not_eq_true'] at h
  simpa using List.any_eq_false.mp h.2 r hr

theorem setPlain_origin {body : Content} {slot : Slot} {q : Payload}
    (hq : (m.setPlain body).payloadAt slot = some q) :
    Origin m (m.setPlain body) slot false q := by
  refine .inr ⟨?_, rfl, id⟩
  cases slot with
  | attachment i => exact hq
  | item i j =>
    obtain ⟨p, hp, r, hr, hrq⟩ := payloadAt_item.mp hq
    simp only [setPlain, getElem?_putPart] at hp
    split at hp
    · obtain rfl := Option.some.inj hp
      exact absurd hr (by simp [Part.related])
    · exact payloadAt_item.mpr ⟨p, hp, r, hr, hrq⟩

theorem setHtml_origin {body : Content} {related : List Related} {slot : Slot} {q : Payload}
    (hu : ∀ r ∈ related, r.payload.Unread)
    (hq : (m.setHtml body related).payloadAt slot = some q) :
    Origin m (m.setHtml body related) slot (slot.isItemOf m.htmlSlot) q := by
  have hprep : (m.setHtml body related).prepared = true → m.prepared = true := fun h ↦
    (Bool.and_eq_true_iff.mp h).1
  cases slot with
  | attachment i => exact .inr ⟨hq, rfl, hprep⟩
  | item i j =>
    obtain ⟨p, hp, r, hr, rfl⟩ := payloadAt_item.mp hq
    simp only [setHtml, getElem?_putPart] at hp
    split at hp
    · obtain rfl := Option.some.inj hp
      exact .inl (isNew_of_part (p := .html body related) hu rfl (List.mem_of_getElem? hr))
    · rename_i hi
      refine .inr ⟨payloadAt_item.mpr ⟨p, hp, r, hr, rfl⟩, ?_, hprep⟩
      simpa [Slot.isItemOf, htmlSlot, htmlIndex] using hi

theorem addPart_origin {p : Part} {slot : Slot} {q : Payload}
    (hu : ∀ r ∈ p.related, r.payload.Unread)
    (hq : (m.addPart p).payloadAt slot = some q) : Origin m (m.addPart p) slot false q := by
  have hprep : (m.addPart p).prepared = true → m.prepared = true := fun h ↦
    (Bool.and_eq_true_iff.mp h).1
  cases slot with
  | attachment i => exact .inr ⟨hq, rfl, hprep⟩
  | item i j =>
    obtain ⟨p', hp, r, hr, rfl⟩ := payloadAt_item.mp hq
    obtain hp | rfl := getElem?_concat_cases hp
    · exact .inr ⟨payloadAt_item.mpr ⟨p', hp, r, hr, rfl⟩, rfl, hprep⟩
    · exact .inl (isNew_of_part hu rfl (List.mem_of_getElem? hr))

theorem attach_origin {a : Attachment} {slot : Slot} {q : Payload} (hu : a.payload.Unread)
    (hq : (m.attach a).payloadAt slot = some q) : Origin m (m.attach a) slot false q := by
  have hprep : (m.attach a).prepared = true → m.prepared = true := fun h ↦
    (Bool.and_eq_true_iff.mp h).1
  cases slot with
  | item i j => exact .inr ⟨hq, rfl, hprep⟩
  | attachment i =>
    obtain ⟨b, hb, rfl⟩ := payloadAt_attachment.mp hq
    obtain hb | rfl := getElem?_concat_cases hb
    · exact .inr ⟨payloadAt_attachment.mpr ⟨b, hb, rfl⟩, rfl, hprep⟩
    · refine .inl ⟨hu, fun h ↦ ?_⟩
      rw [attach, Bool.and_eq_true_iff, Bool.not_eq_true'] at h
      exact h.2

theorem attachAll_origin {slot : Slot} {q : Payload} (paths : List String)
    (hq : (paths.foldl (fun m path ↦ m.attach (.ofFile "" "" path)) m).payloadAt slot = some q) :
    Origin m (paths.foldl (fun m path ↦ m.attach (.ofFile "" "" path)) m) slot false q := by
  induction paths generalizing m with
  | nil => exact .inr ⟨hq, rfl, id⟩
  | cons path paths ih => exact .trans (attach_origin fun _ ↦ rfl) (ih hq)

theorem invalidate_origin {slot : Slot} {q : Payload} (hq : m.invalidate.payloadAt slot = some q) :
    Origin m m.invalidate slot false q := by
  rw [payloadAt_map m (g := Payload.forget) rfl] at hq
  · obtain ⟨p, hp, rfl⟩ := Option.map_eq_some_iff.mp hq
    refine .inl ⟨p.unread_forget, fun h ↦ ?_⟩
    rw [invalidate, Bool.not_eq_true'] at h
    rw [p.isFile_forget]
    exact isFile_of_not_hasFiles h hp
  · intro p
    rw [Part.related_withRelated (by simp +contextual), List.map_map]
    rfl
  · simp only [invalidate, List.map_map]
    rfl

theorem copy_origin {slot : Slot} {q : Payload} (hq : m.copy.payloadAt slot = some q) :
    m.copy.IsNew q := by
  rw [payloadAt_map m (g := Payload.copy) rfl] at hq
  · obtain ⟨p, hp, rfl⟩ := Option.map_eq_some_iff.mp hq
    refine ⟨p.unread_copy, fun h ↦ ?_⟩
    rw [copy, Bool.not_eq_true'] at h
    rw [p.isFile_copy]
    exact isFile_of_not_hasFiles h hp
  · intro p
    cases p <;> simp [Part.related]
  · simp [copy]

theorem payloadAt_render (data : Backend.Data) (m : Message) :
    (m.render data).1.payloadAt = m.payloadAt := by
  funext slot
  rw [payloadAt_map m (g := id) (render_parts data m) _ rfl slot, Option.map_id, id]
  intro p
  rw [Part.related_render]
  rfl

theorem payloadAt_load (read : FileReader) (fresh : Bool) (m : Message) (slot : Slot) :
    (m.load read fresh).1.payloadAt slot =
      if m.prepared && !fresh then m.payloadAt slot
      else (m.payloadAt slot).map fun p ↦ (p.load read fresh).1 := by
  rw [load]
  split
  · rfl
  · rw [payloadAt_map m (f := fun p ↦ (p.load read fresh).1) (g := fun p ↦ (p.load read fresh).1)]
    · simp only [collect, List.map_map]
      rfl
    · intro p
      rw [Part.related_load, List.map_map]
      rfl
    · simp only [collect, List.map_map]
      rfl

theorem edit_origin {e : Edit} {slot : Slot} {q : Payload} (h : m.edit e = .ok m')
    (hu : (Event.edit e).Unread) (hq : m'.payloadAt slot = some q) :
    Origin m m' slot (m.renews slot (.edit e)) q := by
  cases e with
  | domain | subject | sender | author | replyTo | addressees | cc | bcc =>
    obtain rfl := Except.ok.inj h
    exact origin_of_same rfl rfl rfl hq
  | subjectTemplate source =>
    obtain ⟨subject, -, hm⟩ := exists_of_bind_ok h
    obtain rfl := Except.ok.inj hm
    exact origin_of_same rfl rfl rfl hq
  | plain text =>
    obtain rfl := Except.ok.inj h
    exact setPlain_origin hq
  | plainTemplate source =>
    obtain ⟨body, -, hm⟩ := exists_of_bind_ok h
    obtain rfl := Except.ok.inj hm
    exact setPlain_origin hq
  | html text related =>
    obtain rfl := Except.ok.inj h
    exact setHtml_origin hu hq
  | htmlTemplate source related =>
    obtain ⟨body, hb, hm⟩ := exists_of_bind_ok h
    obtain rfl := Except.ok.inj hm
    rw [renews, hb, Except.isOk, Except.toBool, Bool.true_and]
    exact setHtml_origin hu hq
  | part contentType encoding body related =>
    obtain rfl := Except.ok.inj h
    exact addPart_origin hu hq
  | attach paths =>
    obtain rfl := Except.ok.inj h
    exact attachAll_origin paths hq
  | attachFile name contentType path =>
    obtain rfl := Except.ok.inj h
    exact attach_origin (fun _ ↦ rfl) hq
  | attachObject name contentType data =>
    obtain rfl := Except.ok.inj h
    exact attach_origin (Payload.unread_memory data) hq
  | invalidate =>
    obtain rfl := Except.ok.inj h
    exact invalidate_origin hq

theorem renews_of_error {e : Edit} {err : Backend.Fault} (h : m.edit e = .error err) (slot : Slot) :
    m.renews slot (.edit e) = false := by
  cases e with
  | html text related => cases h
  | htmlTemplate source related =>
    cases hb : Content.ofSource source .markup with
    | error e => simp [renews, hb, Except.isOk, Except.toBool]
    | ok body => simp [edit, hb, bind, Except.bind] at h
  | _ => rfl

end Message

end MimeMail
