import MimeMail.Proofs.Message.Accounting

namespace MimeMail

/-- Why a file that has not been read cannot be read. -/
def Payload.failure? (read : FileReader) : Payload → Option ReadFailure
  | .file path none =>
    match read path with
    | .ok _ => none
    | .error e => some ⟨path, e⟩
  | .file _ (some _) | .memory _ => none

theorem Payload.failures_load (read : FileReader) (p : Payload) :
    (p.load read false).2 = (p.failure? read).toList := by
  cases p with
  | memory data => rfl
  | file path cache =>
    cases cache with
    | some data => rfl
    | none => cases h : read path <;> simp [load, failure?, h]

theorem Payload.failure?_eq_some {read : FileReader} {p : Payload} {f : ReadFailure} :
    p.failure? read = some f ↔ p = .file f.path none ∧ read f.path = .error f.error := by
  cases p with
  | memory data => simp [failure?]
  | file path cache =>
    cases cache with
    | some data => simp [failure?]
    | none =>
      cases h : read path with
      | ok data =>
        simp only [failure?, h]
        constructor
        · exact fun hf ↦ nomatch hf
        · rintro ⟨hp, he⟩
          obtain ⟨rfl, -⟩ := Payload.file.inj hp
          cases h.symm.trans he
      | error e =>
        simp only [failure?, h, Option.some.injEq]
        constructor
        · rintro rfl
          exact ⟨rfl, h⟩
        · rintro ⟨hp, he⟩
          obtain ⟨rfl, -⟩ := Payload.file.inj hp
          obtain rfl := Except.error.inj (h.symm.trans he)
          rfl

section

variable [Backend]

/-- Why a text cannot be rendered with some data. -/
def Content.failure? (data : Backend.Data) : Content → Option Backend.Fault
  | .literal _ => none
  | .template t _ =>
    match Backend.render t data with
    | .ok _ => none
    | .error e => some e

def Part.failure? (data : Backend.Data) (p : Part) : Option Backend.Fault :=
  p.content?.bind (·.failure? data)

namespace Message

/-- The payloads: the items, part by part, and then the attachments. -/
def payloads (m : Message) : List Payload :=
  (m.parts.flatMap fun p ↦ p.related.map Related.payload) ++ m.attachments.map Attachment.payload

def templateProblems (m : Message) (data : Backend.Data) : List ComposeError :=
  ((m.subject.failure? data).map .subjectTemplate).toList ++
    m.parts.zipIdx.filterMap fun (p, i) ↦ (p.failure? data).map (.partTemplate i)

/-- The problems of a message that has an author. -/
def problems (m : Message) (read : FileReader) (data : Backend.Data) : List ComposeError :=
  m.templateProblems data ++ (if m.parts = [] then [.noParts] else []) ++
    (m.payloads.filterMap (·.failure? read)).map .payload

end Message

theorem Content.errors_render (data : Backend.Data) (c : Content) :
    (c.render data).2 = (c.failure? data).toList := by
  cases c with
  | literal text => rfl
  | template t output => cases h : Backend.render t data <;> simp [render, failure?, h]

theorem Part.errors_render (data : Backend.Data) (p : Part) :
    (p.render data).2 = (p.failure? data).toList := by
  cases p with
  | plain body => exact body.errors_render data
  | html body related => exact body.errors_render data
  | other contentType encoding body related => rfl

theorem Content.failure?_eq_some {c : Content} {data : Backend.Data} {err : Backend.Fault}
    (h : c.failure? data = some err) :
    ∃ t output, c = .template t output ∧ Backend.render t data = .error err := by
  cases c with
  | literal text => cases h
  | template t output =>
    rw [failure?] at h
    split at h
    · cases h
    · rename_i err' herror
      obtain rfl := Option.some.inj h
      exact ⟨t, output, rfl, herror⟩

namespace Message

variable {m : Message} {registry : Option Registry} {read : FileReader} {data : Backend.Data}

theorem mem_payloads {q : Payload} : q ∈ m.payloads ↔ ∃ slot, m.payloadAt slot = some q := by
  rw [payloads, List.mem_append, List.mem_flatMap, List.mem_map]
  constructor
  · rintro (⟨p, hp, hq⟩ | ⟨a, ha, rfl⟩)
    · obtain ⟨r, hr, rfl⟩ := List.mem_map.mp hq
      obtain ⟨i, hi⟩ := List.mem_iff_getElem?.mp hp
      obtain ⟨j, hj⟩ := List.mem_iff_getElem?.mp hr
      exact ⟨.item i j, payloadAt_item.mpr ⟨p, hi, r, hj, rfl⟩⟩
    · obtain ⟨i, hi⟩ := List.mem_iff_getElem?.mp ha
      exact ⟨.attachment i, payloadAt_attachment.mpr ⟨a, hi, rfl⟩⟩
  · rintro ⟨slot, hq⟩
    cases slot with
    | item i j =>
      obtain ⟨p, hi, r, hj, rfl⟩ := payloadAt_item.mp hq
      exact .inl ⟨p, List.mem_of_getElem? hi, List.mem_map_of_mem (List.mem_of_getElem? hj)⟩
    | attachment i =>
      obtain ⟨a, hi, rfl⟩ := payloadAt_attachment.mp hq
      exact .inr ⟨a, List.mem_of_getElem? hi, rfl⟩

theorem failures_loadAll_eq_flatMap (m : Message) (read : FileReader) (fresh : Bool) :
    (m.loadAll read fresh).2 = m.payloads.flatMap fun q ↦ (q.load read fresh).2 := by
  have hpart (p : Part) : (p.load read fresh).2 =
      (p.related.map Related.payload).flatMap fun q ↦ (q.load read fresh).2 := by
    rw [Part.load, collect_map, List.flatMap_map]
    rfl
  simp only [loadAll, collect_map, payloads, List.flatMap_append, List.flatMap_assoc, hpart,
    List.flatMap_map]
  rfl

theorem failures_loadAll (read : FileReader) (m : Message) :
    (m.loadAll read false).2 = m.payloads.filterMap (·.failure? read) := by
  rw [failures_loadAll_eq_flatMap, List.filterMap_eq_flatMap_toList]
  exact List.flatMap_congr fun q _ ↦ q.failures_load read

theorem filterMap_failure_eq_nil (h : ∀ q ∈ m.payloads, q.data?.isSome = true) :
    m.payloads.filterMap (·.failure? read) = [] := by
  rw [List.filterMap_eq_nil_iff]
  intro q hq
  cases hf : q.failure? read with
  | none => rfl
  | some f =>
    obtain ⟨rfl, -⟩ := Payload.failure?_eq_some.mp hf
    cases h _ hq

theorem Reachable.loaded (hm : m.Reachable) (hp : m.prepared = true) :
    ∀ q ∈ m.payloads, q.data?.isSome = true := by
  obtain ⟨log, hrun⟩ := hm
  intro q hq
  obtain ⟨slot, hslot⟩ := mem_payloads.mp hq
  exact hrun.accounted.loaded hp slot q hslot

/-- A prepared message skips loading; as it has all its files, that reports the same. -/
theorem failures_load (hm : m.Reachable) (read : FileReader) :
    (m.load read false).2 = m.payloads.filterMap (·.failure? read) := by
  cases hp : m.prepared with
  | true => rw [m.load_of_prepared read hp, filterMap_failure_eq_nil (hm.loaded hp)]
  | false => rw [m.load_of_unprepared read false hp, failures_loadAll]

theorem errors_render_eq (data : Backend.Data) (m : Message) :
    (m.render data).2 = m.templateProblems data := by
  rw [errors_render, templateProblems, m.subject.errors_render, Option.toList_map,
    List.filterMap_eq_flatMap_toList]
  congr 1
  refine List.flatMap_congr fun x _ ↦ ?_
  rw [x.1.errors_render, Option.toList_map]

theorem errors_resolve (hm : m.Reachable) (read : FileReader) (data : Backend.Data) :
    (m.resolve read data).2 = m.problems read data := by
  rw [resolve_eq, errors_render_eq, failures_load hm, problems]
  simp only [List.isEmpty_iff]

theorem compose_eq (hm : m.Reachable) {author : Address}
    (ha : m.resolveAuthor registry = some author) (stamp : String → Stamp) :
    (m.compose registry stamp read data).2 =
      if m.problems read data = [] then
        .ok ((m.resolve read data).1.write author (stamp (m.resolve read data).1.subject.text))
      else .error (m.problems read data) := by
  rw [compose, ha]
  dsimp only
  rw [errors_resolve hm]
  simp only [List.isEmpty_iff]
  split <;> rfl

theorem templateProblems_eq_nil : m.templateProblems data = [] ↔
    m.subject.failure? data = none ∧ ∀ p ∈ m.parts, p.failure? data = none := by
  have hparts :
      (∀ x ∈ m.parts.zipIdx, (x.1.failure? data).map (ComposeError.partTemplate x.2) = none) ↔
      ∀ p ∈ m.parts, p.failure? data = none := by
    simp only [Option.map_eq_none_iff]
    conv_rhs => rw [← List.zipIdx_map_fst 0 m.parts]
    rw [List.forall_mem_map]
  rw [templateProblems, List.append_eq_nil_iff, List.filterMap_eq_nil_iff, hparts]
  simp

theorem filterMap_failure_ne_nil : m.payloads.filterMap (·.failure? read) ≠ [] ↔
    ∃ path e, .file path none ∈ m.payloads ∧ read path = .error e := by
  constructor
  · intro h
    obtain ⟨f, hf⟩ := List.exists_mem_of_ne_nil _ h
    obtain ⟨q, hq, hqf⟩ := List.mem_filterMap.mp hf
    obtain ⟨rfl, he⟩ := Payload.failure?_eq_some.mp hqf
    exact ⟨f.path, f.error, hq, he⟩
  · rintro ⟨path, e, hq, he⟩
    have hf : (Payload.file path none).failure? read = some ⟨path, e⟩ :=
      Payload.failure?_eq_some.mpr ⟨rfl, he⟩
    exact List.ne_nil_of_mem (List.mem_filterMap.mpr ⟨_, hq, hf⟩)

theorem problems_ne_nil (hm : m.Reachable) : m.problems read data ≠ [] ↔
    m.subject.failure? data ≠ none ∨ (∃ p ∈ m.parts, p.failure? data ≠ none) ∨ m.parts = [] ∨
      (m.prepared = false ∧ ∃ path e, .file path none ∈ m.payloads ∧ read path = .error e) := by
  have hunread : (m.prepared = false ∧
        ∃ path e, .file path none ∈ m.payloads ∧ read path = .error e) ↔
      m.payloads.filterMap (·.failure? read) ≠ [] := by
    rw [filterMap_failure_ne_nil]
    refine ⟨And.right, fun h ↦ ⟨?_, h⟩⟩
    obtain ⟨path, e, hq, -⟩ := h
    cases hp : m.prepared with
    | true => cases hm.loaded hp _ hq
    | false => rfl
  have hempty : (if m.parts = [] then [ComposeError.noParts] else []) = [] ↔ m.parts ≠ [] := by
    split <;> simp_all
  rw [hunread, Ne, problems, List.append_eq_nil_iff, List.append_eq_nil_iff, hempty,
    templateProblems_eq_nil, List.map_eq_nil_iff]
  simp only [not_and_or, not_forall, exists_prop, or_assoc, Ne, not_not]

/-- Composing reports every problem, in order, and nothing else. It fails where there is no author,
where a template cannot be rendered, where there are no parts, or where a file that is yet to be
read cannot be. A missing author is reported alone; otherwise all problems are. -/
theorem compose_reports_all (hm : m.Reachable) (registry : Option Registry)
    (stamp : String → Stamp) (read : FileReader) (data : Backend.Data) :
    let result := (m.compose registry stamp read data).2
    ((∃ errors, result = .error errors) ↔
      m.resolveAuthor registry = none ∨ m.subject.failure? data ≠ none ∨
        (∃ p ∈ m.parts, p.failure? data ≠ none) ∨ m.parts = [] ∨
        (m.prepared = false ∧ ∃ path e, .file path none ∈ m.payloads ∧ read path = .error e)) ∧
    (m.resolveAuthor registry = none → result = .error [.noAuthor]) ∧
    (∀ author, m.resolveAuthor registry = some author → ∀ errors,
      result = .error errors ↔ errors = m.problems read data ∧ errors ≠ []) ∧
    ∀ errors, result = .error errors → errors ≠ [] := by
  intro result
  have halone (ha : m.resolveAuthor registry = none) : result = .error [.noAuthor] := by
    simp only [result, compose, ha]
  have hall (author : Address) (ha : m.resolveAuthor registry = some author)
      (errors : List ComposeError) :
      result = .error errors ↔ errors = m.problems read data ∧ errors ≠ [] := by
    have hresult : result = _ := compose_eq hm ha stamp
    rw [hresult]
    split
    · rename_i hnone
      simp [hnone]
    · rename_i hsome
      rw [Except.error.injEq, eq_comm]
      exact ⟨fun h ↦ ⟨h, h ▸ hsome⟩, And.left⟩
  refine ⟨?_, halone, hall, fun errors herrors ↦ ?_⟩
  · cases ha : m.resolveAuthor registry with
    | none => exact iff_of_true ⟨_, halone ha⟩ (.inl rfl)
    | some author =>
      have hfails : (∃ errors, result = .error errors) ↔ m.problems read data ≠ [] := by
        simp only [hall author ha]
        constructor
        · rintro ⟨errors, rfl, hsome⟩
          exact hsome
        · exact fun h ↦ ⟨_, rfl, h⟩
      rw [hfails, problems_ne_nil hm]
      simp
  · cases ha : m.resolveAuthor registry with
    | none =>
      obtain rfl := Except.error.inj ((halone ha).symm.trans herrors)
      exact List.cons_ne_nil _ _
    | some author => exact ((hall author ha errors).mp herrors).2

end Message

end

namespace Message

/-- A letter with a subject and a plain body that cannot be rendered, and one file attached twice.
-/
def faultyLetter : Message :=
  ((letter.after (.edit (.subjectTemplate "{{f x}}"))).after
    (.edit (.plainTemplate "{{g x}}"))).after (.edit (.attach ["n.txt"]))

theorem reachable_faultyLetter : faultyLetter.Reachable := by
  have hrun := ((run_letter.step (.edit (.subjectTemplate "{{f x}}")) ?_).step
    (.edit (.plainTemplate "{{g x}}")) ?_).step (.edit (.attach ["n.txt"])) ?_
  · exact ⟨_, hrun⟩
  all_goals simp [Event.Unread, Edit.related]

theorem faultyLetter_reports_all :
    (faultyLetter.compose none (fun _ ↦ ⟨"", "T"⟩) (fun _ ↦ .error .notFound) Data.Value.null).2 =
      .error [.subjectTemplate TemplateError.unrenderable,
        .partTemplate 1 TemplateError.unrenderable, .payload ⟨"n.txt", .notFound⟩,
        .payload ⟨"n.txt", .notFound⟩] := by
  obtain ⟨-, -, hall, -⟩ := compose_reports_all reachable_faultyLetter none (fun _ ↦ ⟨"", "T"⟩)
    (fun _ ↦ .error .notFound) Data.Value.null
  have hauthor : faultyLetter.resolveAuthor none = some .zoe := by
    decide +kernel
  exact (hall _ hauthor _).mpr ⟨by decide +kernel, List.cons_ne_nil _ _⟩

end Message

end MimeMail
