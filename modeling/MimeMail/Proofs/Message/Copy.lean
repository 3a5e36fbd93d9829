import MimeMail.Proofs.Message.Problems
import MimeMail.Proofs.Message.Repetition
import MimeMail.Session.Run

namespace MimeMail

namespace Payload

theorem copy_eq_forget (p : Payload) : p.copy = p.forget := by
  cases p <;> rfl

theorem load_of_loaded {p : Payload} (h : p.data?.isSome = true) (read : FileReader) :
    p.load read false = (p, []) := by
  cases p with
  | memory data => rfl
  | file path cache =>
    cases cache with
    | none => cases h
    | some data => rfl

theorem load_forget {read : FileReader} {p : Payload}
    (h : ∀ path bytes, p = .file path (some bytes) → read path = .ok bytes) :
    p.forget.load read false = p.load read false := by
  cases p with
  | memory data => rfl
  | file path cache =>
    cases cache with
    | none => rfl
    | some data => simp [forget, load, h path data rfl]

end Payload

theorem collect_eq_self {α ε : Type} {f : α → α × List ε} {xs : List α}
    (h : ∀ x ∈ xs, f x = (x, [])) : collect (xs.map f) = (xs, []) := by
  have hfst : xs.map (fun x ↦ (f x).1) = xs := by
    conv_rhs => rw [← List.map_id xs]
    exact List.map_congr_left fun x hx ↦ congrArg Prod.fst (h x hx)
  have hsnd : xs.flatMap (fun x ↦ (f x).2) = [] :=
    List.flatMap_eq_nil_iff.mpr fun x hx ↦ congrArg Prod.snd (h x hx)
  rw [collect_map, hfst, hsnd]

section

variable [Backend]

/-- `m'` is `m` with no file read. All that was set and all that was rendered is the same, and no
more is needed to be prepared where there is no file. -/
structure Message.Unloaded (m m' : Message) : Prop where
  fields : m' = { m with
    parts := m'.parts, attachments := m'.attachments, prepared := m'.prepared }
  bodies : m'.parts.map (·.withRelated []) = m.parts.map (·.withRelated [])
  items : m'.parts.map Part.related = m.parts.map fun p ↦ p.related.map Related.source
  attachments : m'.attachments = m.attachments.map Attachment.source
  unread : ∀ q ∈ m'.payloads, q.Unread
  plain : m'.plainIndex = m.plainIndex
  html : m'.htmlIndex = m.htmlIndex
  prepared : m'.prepared = true ↔ ∀ q ∈ m.payloads, q.isFile = false

/-- What has been read for the payloads of a message is what their files hold. -/
def Message.Current (m : Message) (read : FileReader) : Prop :=
  ∀ path bytes, .file path (some bytes) ∈ m.payloads → read path = .ok bytes

namespace Part

theorem withRelated_related (p : Part) : p.withRelated p.related = p := by
  cases p <;> rfl

def unload (p : Part) : Part :=
  p.withRelated (p.related.map Related.source)

theorem related_unload (p : Part) : p.unload.related = p.related.map Related.source :=
  related_withRelated (by simp +contextual)

theorem withRelated_unload (p : Part) (rs : List Related) :
    p.unload.withRelated rs = p.withRelated rs :=
  p.withRelated_withRelated _ rs

theorem isPlain_unload (p : Part) : p.unload.isPlain = p.isPlain := by
  cases p <;> rfl

theorem isHtml_unload (p : Part) : p.unload.isHtml = p.isHtml := by
  cases p <;> rfl

theorem errors_render_unload (data : Backend.Data) (p : Part) :
    (p.unload.render data).2 = (p.render data).2 := by
  cases p <;> rfl

theorem load_of_loaded {p : Part} (h : ∀ r ∈ p.related, r.payload.data?.isSome = true)
    (read : FileReader) : p.load read false = (p, []) := by
  have hrelated : collect (p.related.map (·.load read false)) = (p.related, []) := by
    refine collect_eq_self fun r hr ↦ ?_
    rw [Related.load, Payload.load_of_loaded (h r hr)]
  rw [load, hrelated]
  dsimp only
  rw [withRelated_related]

theorem load_unload {read : FileReader} {p : Part}
    (h : ∀ r ∈ p.related, ∀ path bytes, r.payload = .file path (some bytes) →
      read path = .ok bytes) : p.unload.load read false = p.load read false := by
  have hrelated : (p.related.map Related.source).map (·.load read false) =
      p.related.map (·.load read false) := by
    rw [List.map_map]
    refine List.map_congr_left fun r hr ↦ ?_
    simp only [Function.comp_apply, Related.load, Related.source, Payload.load_forget (h r hr)]
  rw [load, load, related_unload, hrelated]
  dsimp only
  rw [withRelated_unload]

end Part

namespace Message

variable {m : Message} {read : FileReader}

theorem invalidate_eq (m : Message) : m.invalidate = { m with
    parts := m.parts.map Part.unload
    attachments := m.attachments.map Attachment.source
    prepared := !m.hasFiles } :=
  rfl

/-- The copy rebuilds every field, and forgetting goes through the payloads in place. -/
theorem copy_eq_invalidate (m : Message) : m.copy = m.invalidate := by
  have hparts : m.copy.parts = m.parts.map Part.unload := by
    refine List.map_congr_left fun p _ ↦ ?_
    cases p <;> simp only [Payload.copy_eq_forget] <;> rfl
  have hattachments : m.copy.attachments = m.attachments.map Attachment.source := by
    refine List.map_congr_left fun a _ ↦ ?_
    simp only [Payload.copy_eq_forget]
    rfl
  rw [invalidate_eq, ← hparts, ← hattachments]
  rfl

theorem hasFiles_eq (m : Message) : m.hasFiles = m.payloads.any Payload.isFile := by
  simp only [hasFiles, payloads, List.any_append, List.any_flatMap, List.any_map]
  rfl

theorem payloads_invalidate (m : Message) :
    m.invalidate.payloads = m.payloads.map Payload.forget := by
  have hrelated (p : Part) : p.unload.related.map Related.payload =
      (p.related.map Related.payload).map Payload.forget := by
    rw [Part.related_unload, List.map_map, List.map_map]
    rfl
  rw [invalidate_eq]
  simp only [payloads, List.flatMap_map, hrelated, List.map_append, List.map_flatMap, List.map_map]
  rfl

theorem unloaded_invalidate (m : Message) : Unloaded m m.invalidate where
  fields := rfl
  bodies := by
    rw [invalidate_eq, List.map_map]
    exact List.map_congr_left fun p _ ↦ p.withRelated_unload []
  items := by
    rw [invalidate_eq, List.map_map]
    exact List.map_congr_left fun p _ ↦ p.related_unload
  attachments := rfl
  unread q hq := by
    rw [payloads_invalidate] at hq
    obtain ⟨p, -, rfl⟩ := List.mem_map.mp hq
    exact p.unread_forget
  plain := by
    rw [plainIndex, invalidate_eq, List.findIdx?_map]
    exact congrArg (m.parts.findIdx? ·) (funext Part.isPlain_unload)
  html := by
    rw [htmlIndex, invalidate_eq, List.findIdx?_map]
    exact congrArg (m.parts.findIdx? ·) (funext Part.isHtml_unload)
  prepared := by
    rw [invalidate_eq, hasFiles_eq, Bool.not_eq_true', List.any_eq_false]
    simp only [Bool.not_eq_true]

theorem loadAll_of_loaded (hp : m.prepared = true) (h : ∀ q ∈ m.payloads, q.data?.isSome = true)
    (read : FileReader) : m.loadAll read false = (m, []) := by
  have hparts : collect (m.parts.map (·.load read false)) = (m.parts, []) := by
    refine collect_eq_self fun p hpm ↦ Part.load_of_loaded (fun r hr ↦ h _ ?_) read
    exact List.mem_append_left _ (List.mem_flatMap.mpr ⟨p, hpm, List.mem_map_of_mem hr⟩)
  have hattachments : collect (m.attachments.map (·.load read false)) = (m.attachments, []) := by
    refine collect_eq_self fun a ha ↦ ?_
    rw [Attachment.load, Payload.load_of_loaded (h _ ?_)]
    exact List.mem_append_right _ (List.mem_map_of_mem ha)
  rw [loadAll, hparts, hattachments]
  cases m
  simp_all

theorem load_eq_loadAll (h : m.prepared = true → ∀ q ∈ m.payloads, q.data?.isSome = true)
    (read : FileReader) : m.load read false = m.loadAll read false := by
  cases hp : m.prepared with
  | true => rw [m.load_of_prepared read hp, loadAll_of_loaded hp (h hp)]
  | false => exact m.load_of_unprepared read false hp

theorem loadAll_invalidate (h : m.Current read) :
    m.invalidate.loadAll read false = m.loadAll read false := by
  have hparts : (m.parts.map Part.unload).map (·.load read false) =
      m.parts.map (·.load read false) := by
    rw [List.map_map]
    refine List.map_congr_left fun p hp ↦ Part.load_unload fun r hr path bytes hq ↦ h path bytes ?_
    rw [← hq]
    exact List.mem_append_left _ (List.mem_flatMap.mpr ⟨p, hp, List.mem_map_of_mem hr⟩)
  have hattachments : (m.attachments.map Attachment.source).map (·.load read false) =
      m.attachments.map (·.load read false) := by
    rw [List.map_map]
    refine List.map_congr_left fun a ha ↦ ?_
    have hload : a.payload.forget.load read false = a.payload.load read false := by
      refine Payload.load_forget fun path bytes hq ↦ h path bytes ?_
      rw [← hq]
      exact List.mem_append_right _ (List.mem_map_of_mem ha)
    simp only [Function.comp_apply, Attachment.load, Attachment.source, hload]
  rw [invalidate_eq, loadAll, loadAll]
  simp only [hparts, hattachments]

theorem load_invalidate (hm : m.Reachable) (h : m.Current read) :
    m.invalidate.load read false = m.load read false := by
  have hloaded (hp : m.invalidate.prepared = true) :
      ∀ q ∈ m.invalidate.payloads, q.data?.isSome = true := by
    intro q hq
    rw [payloads_invalidate] at hq
    obtain ⟨p, hpm, rfl⟩ := List.mem_map.mp hq
    have hfile := m.unloaded_invalidate.prepared.mp hp p hpm
    exact Payload.data?_isSome (p.isFile_forget.trans hfile)
  rw [load_eq_loadAll hloaded, loadAll_invalidate h, load_eq_loadAll hm.loaded]

theorem resolve_invalidate (hm : m.Reachable) (h : m.Current read) (data : Backend.Data) :
    m.invalidate.resolve read data = m.resolve read data := by
  have herrors : (m.invalidate.render data).2 = (m.render data).2 :=
    errors_render_congr rfl rfl fun p ↦ p.errors_render_unload data
  have hempty : m.invalidate.parts.isEmpty = m.parts.isEmpty := List.isEmpty_map
  rw [resolve_eq, resolve_eq, load_invalidate hm h, herrors, hempty]

end Message

theorem Session.message_add (s : Session) (name : String) (m : Message) :
    (s.add name m).message name = m := by
  simp [message, slot, add, messageAt]

theorem Session.message_snapshot (s : Session) (name copy : String) :
    (s.step (.snapshot name copy)).1.message copy = (s.message name).copy :=
  message_add _ _ _

/-- A copy behaves like the original with its files unread. It is what `invalidate` leaves of the
message, so composing either gives the same; while the files hold what the message has read, it is
also what composing the message itself gives. -/
theorem Message.copy_is_unread (m : Message) :
    m.copy = m.invalidate ∧ m.Unloaded m.copy ∧
    (∀ (s : Session) (name copy : String), s.message name = m →
      (s.step (.snapshot name copy)).1.message copy = m.invalidate) ∧
    ∀ (registry : Option Registry) (stamp : String → Stamp) (read : FileReader)
        (data : Backend.Data),
      m.copy.compose registry stamp read data = m.invalidate.compose registry stamp read data ∧
      (m.Reachable → m.Current read →
        (m.copy.compose registry stamp read data).2 = (m.compose registry stamp read data).2) := by
  have hcopy := m.copy_eq_invalidate
  refine ⟨hcopy, hcopy ▸ m.unloaded_invalidate, fun s name copy hs ↦ ?_,
    fun registry stamp read data ↦ ⟨by rw [hcopy], fun hm h ↦ ?_⟩⟩
  · rw [Session.message_snapshot, hs, hcopy]
  · rw [hcopy]
    refine compose_congr rfl ?_
    rw [resolve_invalidate hm h]
    exact ⟨rfl, fun _ ↦ rfl⟩

end

theorem Message.readLetter_copy_is_unread :
    readLetter.copy.prepared = false ∧
    (readLetter.copy.compose none (fun _ ↦ ⟨"", "T"⟩) (fun _ ↦ .ok [0x41]) Data.Value.null).2 =
      .ok (readLetter.write .zoe ⟨"", "T"⟩) := by
  have hrun :=
    run_letter.step (.compose none (fun _ ↦ ⟨"", "T"⟩) (fun _ ↦ .ok [0x41]) Data.Value.null) trivial
  have hcurrent : readLetter.Current fun _ ↦ .ok [0x41] := by
    intro path bytes hq
    have hpayloads : readLetter.payloads = [.memory [0x89], .file "n.txt" (some [0x41])] := rfl
    rw [hpayloads] at hq
    simp_all
  obtain ⟨-, -, -, hcompose⟩ := readLetter.copy_is_unread
  exact ⟨rfl, (hcompose none _ _ Data.Value.null).2 ⟨_, hrun⟩ hcurrent⟩

end MimeMail
