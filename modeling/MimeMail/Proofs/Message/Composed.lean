import MimeMail.Compose

namespace MimeMail

def Related.source (r : Related) : Related :=
  { r with payload := r.payload.forget }

def Attachment.source (a : Attachment) : Attachment :=
  { a with payload := a.payload.forget }

theorem Payload.forget_load (read : FileReader) (fresh : Bool) (p : Payload) :
    (p.load read fresh).1.forget = p.forget := by
  cases p with
  | memory data => rfl
  | file path cache =>
    rw [load]
    split
    · rfl
    · split <;> rfl

theorem Related.source_load (read : FileReader) (fresh : Bool) (r : Related) :
    (r.load read fresh).1.source = r.source := by
  rw [load, source, source, Payload.forget_load]

theorem Attachment.source_load (read : FileReader) (fresh : Bool) (a : Attachment) :
    (a.load read fresh).1.source = a.source := by
  rw [load, source, source, Payload.forget_load]

variable [Backend]

/-- A text as it was set, without what a template gave. -/
def Content.source : Content → Content
  | .literal text => .literal text
  | .template t _ => .template t ""

def Part.source : Part → Part
  | .plain body => .plain body.source
  | .html body related => .html body.source (related.map Related.source)
  | .other contentType encoding body related =>
    .other contentType encoding body (related.map Related.source)

/-- A message as it was built, without what was rendered and read. -/
def Message.source (m : Message) : Message :=
  { m with
    subject := m.subject.source
    parts := m.parts.map Part.source
    attachments := m.attachments.map Attachment.source
    prepared := false }

theorem Content.source_render (data : Backend.Data) (c : Content) :
    (c.render data).1.source = c.source := by
  cases c with
  | literal text => rfl
  | template t output =>
    rw [render]
    split <;> rfl

theorem Part.source_render (data : Backend.Data) (p : Part) :
    (p.render data).1.source = p.source := by
  cases p with
  | plain body => simp only [render, source, Content.source_render]
  | html body related => simp only [render, source, Content.source_render]
  | other contentType encoding body related => rfl

theorem Part.source_load (read : FileReader) (fresh : Bool) (p : Part) :
    (p.load read fresh).1.source = p.source := by
  have hr : (collect (p.related.map (·.load read fresh))).1.map Related.source =
      p.related.map Related.source := by
    rw [collect, List.map_map, List.map_map]
    exact List.map_congr_left fun r _ ↦ r.source_load read fresh
  cases p with
  | plain body => rfl
  | html body related => exact congrArg (Part.html body.source) hr
  | other contentType encoding body related =>
    exact congrArg (Part.other contentType encoding body) hr

namespace Message

variable {m m' : Message} {registry : Option Registry} {stamp : String → Stamp} {read : FileReader}
  {data : Backend.Data} {out : List Char}

theorem render_parts (data : Backend.Data) (m : Message) :
    (m.render data).1.parts = m.parts.map fun p ↦ (p.render data).1 := by
  simp only [render, collect, List.map_map]
  calc
    _ = (m.parts.zipIdx.map Prod.fst).map fun p ↦ (p.render data).1 := by rw [List.map_map]; rfl
    _ = _ := by rw [List.zipIdx_map_fst]

theorem source_render (data : Backend.Data) (m : Message) :
    (m.render data).1.source = m.source := by
  have hs : (m.render data).1.subject.source = m.subject.source := m.subject.source_render data
  have hp : (m.render data).1.parts.map Part.source = m.parts.map Part.source := by
    rw [render_parts, List.map_map]
    exact List.map_congr_left fun p _ ↦ p.source_render data
  rw [source, hs, hp]
  rfl

theorem source_load (read : FileReader) (fresh : Bool) (m : Message) :
    (m.load read fresh).1.source = m.source := by
  have hp : (collect (m.parts.map (·.load read fresh))).1.map Part.source =
      m.parts.map Part.source := by
    rw [collect, List.map_map, List.map_map]
    exact List.map_congr_left fun p _ ↦ p.source_load read fresh
  have ha : (collect (m.attachments.map (·.load read fresh))).1.map Attachment.source =
      m.attachments.map Attachment.source := by
    rw [collect, List.map_map, List.map_map]
    exact List.map_congr_left fun a _ ↦ a.source_load read fresh
  rw [load]
  split
  · rfl
  · rw [source, source]
    simp only [hp, ha]

theorem source_resolve (read : FileReader) (data : Backend.Data) (m : Message) :
    (m.resolve read data).1.source = m.source := by
  rw [resolve]
  exact (source_load read false _).trans (source_render data m)

theorem compose_ok (h : m.compose registry stamp read data = (m', .ok out)) :
    ∃ author, m.resolveAuthor registry = some author ∧ m.resolve read data = (m', []) ∧
      out = m'.write author (stamp m'.subject.text) := by
  cases ha : m.resolveAuthor registry with
  | none =>
    rw [compose, ha] at h
    cases (Prod.mk.inj h).2
  | some author =>
    refine ⟨author, rfl, ?_⟩
    rcases hr : m.resolve read data with ⟨m₁, errors⟩
    simp only [compose, ha, hr] at h
    cases errors with
    | nil =>
      obtain ⟨rfl, ho⟩ := Prod.mk.inj h
      exact ⟨rfl, (Except.ok.inj ho).symm⟩
    | cons e es => cases (Prod.mk.inj h).2

theorem compose_of_errors {author : Address} (ha : m.resolveAuthor registry = some author)
    (h : (m.resolve read data).2 = []) (stamp : String → Stamp) :
    m.compose registry stamp read data = ((m.resolve read data).1,
      .ok ((m.resolve read data).1.write author (stamp (m.resolve read data).1.subject.text))) := by
  rw [compose, ha]
  dsimp only
  rw [h]
  rfl

theorem source_compose (h : m.compose registry stamp read data = (m', .ok out)) :
    m'.source = m.source := by
  obtain ⟨author, -, hr, -⟩ := compose_ok h
  rw [← source_resolve read data m, hr]

theorem parts_ne_nil_of_compose (h : m.compose registry stamp read data = (m', .ok out)) :
    m'.parts ≠ [] := by
  obtain ⟨author, -, hr, -⟩ := compose_ok h
  intro hnil
  have hparts : m.parts = [] := by
    have hs := congrArg Message.parts (source_compose h)
    rw [source, hnil] at hs
    exact List.map_eq_nil_iff.mp hs.symm
  have hempty : (m.render data).1.parts.isEmpty = true := by
    rw [render_parts, hparts]
    rfl
  have he := congrArg Prod.snd hr
  simp [resolve, hempty] at he

end Message

end MimeMail
