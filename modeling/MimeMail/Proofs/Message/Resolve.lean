import MimeMail.Proofs.Message.Slots

namespace MimeMail

theorem collect_map {α β ε : Type} (f : α → β × List ε) (xs : List α) :
    collect (xs.map f) = (xs.map fun x ↦ (f x).1, xs.flatMap fun x ↦ (f x).2) := by
  simp only [collect, List.map_map, List.flatMap_map]
  rfl

theorem collect_collect {α ε : Type} {f : α → α × List ε} (hf : ∀ x, f (f x).1 = f x)
    (xs : List α) : collect ((xs.map fun x ↦ (f x).1).map f) = collect (xs.map f) := by
  rw [List.map_map]
  exact congrArg collect (List.map_congr_left fun x _ ↦ hf x)

theorem Payload.load_load (read : FileReader) (p : Payload) :
    (p.load read false).1.load read false = p.load read false := by
  cases p with
  | memory data => rfl
  | file path cache =>
    cases cache with
    | some data => rfl
    | none => cases h : read path <;> simp [load, h]

theorem Related.load_load (read : FileReader) (r : Related) :
    (r.load read false).1.load read false = r.load read false := by
  simp only [load, r.payload.load_load]

theorem Attachment.load_load (read : FileReader) (a : Attachment) :
    (a.load read false).1.load read false = a.load read false := by
  simp only [load, a.payload.load_load]

variable [Backend]

namespace Part

theorem withRelated_withRelated (p : Part) (rs rs' : List Related) :
    (p.withRelated rs).withRelated rs' = p.withRelated rs' := by
  cases p <;> rfl

theorem load_load (read : FileReader) (p : Part) :
    (p.load read false).1.load read false = p.load read false := by
  rw [load, related_load, collect_collect (Related.load_load read)]
  simp only [load, withRelated_withRelated]

theorem load_render (read : FileReader) (fresh : Bool) (data : Backend.Data) (p : Part) :
    (p.render data).1.load read fresh =
      (((p.load read fresh).1.render data).1, (p.load read fresh).2) := by
  cases p <;> rfl

theorem errors_render_load (read : FileReader) (fresh : Bool) (data : Backend.Data) (p : Part) :
    ((p.load read fresh).1.render data).2 = (p.render data).2 := by
  cases p <;> rfl

end Part

namespace Message

variable (read : FileReader) (fresh : Bool) (data : Backend.Data) (m : Message)

/-- Loads every payload, whether the message is prepared or not. -/
def loadAll : Message × List ReadFailure :=
  let parts := collect (m.parts.map (·.load read fresh))
  let attachments := collect (m.attachments.map (·.load read fresh))
  ({ m with
      parts := parts.1
      attachments := attachments.1
      prepared := (parts.2 ++ attachments.2).isEmpty }, parts.2 ++ attachments.2)

theorem parts_loadAll :
    (m.loadAll read fresh).1.parts = m.parts.map fun p ↦ (p.load read fresh).1 := by
  rw [loadAll, collect_map]

theorem attachments_loadAll :
    (m.loadAll read fresh).1.attachments = m.attachments.map fun a ↦ (a.load read fresh).1 := by
  rw [loadAll, collect_map, collect_map]

theorem load_eq : m.load read fresh =
    if m.prepared && !fresh then (m, []) else m.loadAll read fresh :=
  rfl

theorem load_of_prepared (h : m.prepared = true) : m.load read false = (m, []) := by
  simp only [load, h]
  rfl

theorem load_of_unprepared (h : m.prepared = false) : m.load read fresh = m.loadAll read fresh := by
  simp only [load, h]
  rfl

theorem loadAll_loadAll : (m.loadAll read false).1.loadAll read false = m.loadAll read false := by
  rw [loadAll, parts_loadAll, attachments_loadAll, collect_collect (Part.load_load read),
    collect_collect (Attachment.load_load read)]
  rfl

/-- Where loading has reported nothing, loading again does nothing; otherwise it tries the same
payloads. -/
theorem load_load : (m.load read false).1.load read false = m.load read false := by
  cases hm : m.prepared with
  | true => rw [m.load_of_prepared read hm, m.load_of_prepared read hm]
  | false =>
    rw [m.load_of_unprepared read false hm]
    cases hp : (m.loadAll read false).1.prepared with
    | true =>
      have hnone : (m.loadAll read false).2 = [] := List.isEmpty_iff.mp hp
      rw [load_of_prepared read _ hp]
      exact Prod.ext rfl hnone.symm
    | false => rw [load_of_unprepared read false _ hp, loadAll_loadAll]

theorem prepared_of_load {m m' : Message} {read : FileReader} {fresh : Bool}
    (h : m.load read fresh = (m', [])) : m'.prepared = true := by
  have hm : (m.load read fresh).1 = m' := congrArg Prod.fst h
  have hnone : (m.load read fresh).2 = [] := congrArg Prod.snd h
  rw [load_eq] at hm hnone
  split at hm
  · rename_i hp
    rw [← hm]
    exact (Bool.and_eq_true_iff.mp hp).1
  · rename_i hp
    rw [if_neg hp] at hnone
    rw [← hm]
    exact List.isEmpty_iff.mpr hnone

theorem render_eq : m.render data =
    ({ m with
        subject := (m.subject.render data).1
        parts := m.parts.map fun p ↦ (p.render data).1 },
      (m.render data).2) := by
  rw [← m.render_parts data]
  rfl

theorem loadAll_render : (m.render data).1.loadAll read fresh =
    (((m.loadAll read fresh).1.render data).1, (m.loadAll read fresh).2) := by
  have hparts : collect ((m.render data).1.parts.map (·.load read fresh)) =
      ((collect (m.parts.map (·.load read fresh))).1.map fun p ↦ (p.render data).1,
        (collect (m.parts.map (·.load read fresh))).2) := by
    simp only [render_parts, collect, List.map_map, List.flatMap_map, Function.comp_def,
      Part.load_render]
  rw [render_eq data (m.loadAll read fresh).1]
  simp only [loadAll, hparts]
  rfl

theorem errors_render : (m.render data).2 =
    (m.subject.render data).2.map .subjectTemplate ++
      m.parts.zipIdx.flatMap fun x ↦ (x.1.render data).2.map (.partTemplate x.2) := by
  simp only [render, collect_map]

theorem errors_render_congr {m m' : Message} {data : Backend.Data} {f : Part → Part}
    (hs : (m'.subject.render data).2 = (m.subject.render data).2)
    (hparts : m'.parts = m.parts.map f) (hf : ∀ p, ((f p).render data).2 = (p.render data).2) :
    (m'.render data).2 = (m.render data).2 := by
  rw [errors_render, errors_render, hs, hparts, List.zipIdx_map, List.flatMap_map]
  simp only [Prod.map_fst, Prod.map_snd, id, hf]

theorem errors_render_loadAll :
    ((m.loadAll read fresh).1.render data).2 = (m.render data).2 :=
  errors_render_congr rfl (m.parts_loadAll read fresh) fun p ↦ p.errors_render_load read fresh data

theorem load_render : (m.render data).1.load read fresh =
    (((m.load read fresh).1.render data).1, (m.load read fresh).2) := by
  have hprepared : (m.render data).1.prepared = m.prepared := rfl
  rw [load_eq, load_eq, hprepared]
  split
  · rfl
  · exact m.loadAll_render read fresh data

theorem errors_render_load : ((m.load read fresh).1.render data).2 = (m.render data).2 := by
  rw [load_eq]
  split
  · rfl
  · exact m.errors_render_loadAll read fresh data

theorem resolve_eq : m.resolve read data =
    (((m.load read false).1.render data).1,
      (m.render data).2 ++ (if m.parts.isEmpty then [.noParts] else []) ++
        (m.load read false).2.map .payload) := by
  have hparts : (m.render data).1.parts.isEmpty = m.parts.isEmpty := by
    rw [render_parts, List.isEmpty_map]
  simp only [resolve, load_render, hparts]

theorem compose_fst (registry : Option Registry) (stamp : String → Stamp) :
    (m.compose registry stamp read data).1 =
      if (m.resolveAuthor registry).isSome then (m.resolve read data).1 else m := by
  rw [compose]
  cases m.resolveAuthor registry with
  | none => rfl
  | some author =>
    dsimp only
    split <;> rfl

theorem source_compose_fst (registry : Option Registry) (stamp : String → Stamp) :
    (m.compose registry stamp read data).1.source = m.source := by
  rw [compose_fst]
  split
  · exact m.source_resolve read data
  · rfl

theorem isEmpty_parts_of_source_eq {m m' : Message} (h : m'.source = m.source) :
    m'.parts.isEmpty = m.parts.isEmpty := by
  have hparts : m'.parts.map Part.source = m.parts.map Part.source := congrArg parts h
  have hempty := congrArg List.isEmpty hparts
  rwa [List.isEmpty_map, List.isEmpty_map] at hempty

theorem resolveAuthor_of_source_eq {m m' : Message} (h : m'.source = m.source)
    (registry : Option Registry) : m'.resolveAuthor registry = m.resolveAuthor registry := by
  have hauthor : m'.source.author = m.source.author := congrArg author h
  have hsender : m'.source.sender = m.source.sender := congrArg sender h
  simp only [source] at hauthor hsender
  rw [resolveAuthor, resolveAuthor, hauthor, hsender]

end Message

end MimeMail
