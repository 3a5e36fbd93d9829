import MimeMail.Proofs.Message.Copy

namespace MimeMail

def FileReader.holding (path : String) (data : Bytes) : FileReader := fun p ↦
  if p = path then .ok data else .error .notFound

namespace Payload

/-- What a visit to a payload leaves and reports. Bytes in memory stay, and so does what was read
before, unless all files are read anew. Otherwise the file is read; one that cannot be is reported,
and keeps what it has. -/
inductive Visit (read : FileReader) (fresh : Bool) : Payload → Payload → List ReadFailure → Prop
  | memory (data : Bytes) : Visit read fresh (.memory data) (.memory data) []
  | kept (path : String) (bytes : Bytes) : fresh = false →
      Visit read fresh (.file path (some bytes)) (.file path (some bytes)) []
  | loaded {path : String} {bytes : Bytes} (cache : Option Bytes) :
      fresh = true ∨ cache = none → read path = .ok bytes →
      Visit read fresh (.file path cache) (.file path (some bytes)) []
  | failed {path : String} {e : ReadError} (cache : Option Bytes) :
      fresh = true ∨ cache = none → read path = .error e →
      Visit read fresh (.file path cache) (.file path cache) [⟨path, e⟩]

/-- Each payload is visited once, whatever the others report. -/
inductive Visited (read : FileReader) (fresh : Bool) :
    List Payload → List Payload → List ReadFailure → Prop
  | done : Visited read fresh [] [] []
  | next {q q' : Payload} {qs qs' : List Payload} {failures rest : List ReadFailure} :
      Visit read fresh q q' failures → Visited read fresh qs qs' rest →
      Visited read fresh (q :: qs) (q' :: qs') (failures ++ rest)

/-- The path of a file that has not been read. -/
def unreadPath? : Payload → Option String
  | .file path none => some path
  | .file _ (some _) | .memory _ => none

section

variable {read read' : FileReader} {fresh : Bool} {q q' : Payload} {qs qs' : List Payload}
  {failures : List ReadFailure}

theorem visit_load (read : FileReader) (fresh : Bool) (q : Payload) :
    Visit read fresh q (q.load read fresh).1 (q.load read fresh).2 := by
  cases q with
  | memory data => exact .memory data
  | file path cache =>
    by_cases hread : fresh = true ∨ cache = none
    · have hskip : ¬ (cache.isSome && !fresh) = true := by
        rcases hread with rfl | rfl <;> simp
      rw [load, if_neg hskip]
      cases hfile : read path with
      | ok bytes => exact .loaded cache hread hfile
      | error e => exact .failed cache hread hfile
    · obtain ⟨hfresh, hcache⟩ := not_or.mp hread
      obtain ⟨bytes, rfl⟩ := Option.ne_none_iff_exists'.mp hcache
      rw [Bool.not_eq_true] at hfresh
      subst hfresh
      exact .kept path bytes rfl

theorem visited_map_load (read : FileReader) (fresh : Bool) (qs : List Payload) :
    Visited read fresh qs (qs.map fun q ↦ (q.load read fresh).1)
      (qs.flatMap fun q ↦ (q.load read fresh).2) := by
  induction qs with
  | nil => exact .done
  | cons q qs ih => exact .next (q.visit_load read fresh) ih

theorem Visit.paths (h : Visit read false q q' failures) :
    failures.map ReadFailure.path = (unreadPath? q').toList := by
  cases h with
  | memory | kept | loaded => rfl
  | failed cache hread =>
    obtain rfl : cache = none := hread.resolve_left Bool.false_ne_true
    rfl

theorem Visited.paths (h : Visited read false qs qs' failures) :
    failures.map ReadFailure.path = qs'.filterMap unreadPath? := by
  induction h with
  | done => rfl
  | next hvisit _ ih =>
    rw [List.map_append, hvisit.paths, ih, List.filterMap_eq_flatMap_toList,
      List.filterMap_eq_flatMap_toList, List.flatMap_cons]

theorem Visit.exists_failure {path : String}
    (h : Visit read fresh q (.file path none) failures) : ∃ f ∈ failures, f.path = path := by
  cases h with
  | failed cache _ _ => exact ⟨_, List.mem_cons_self, rfl⟩

theorem Visited.exists_failure (h : Visited read fresh qs qs' failures) {path : String}
    (hq : .file path none ∈ qs') : ∃ f ∈ failures, f.path = path := by
  induction h with
  | done => cases hq
  | next hvisit _ ih =>
    rcases List.mem_cons.mp hq with rfl | hq
    · obtain ⟨f, hf, hpath⟩ := hvisit.exists_failure
      exact ⟨f, List.mem_append_left _ hf, hpath⟩
    · obtain ⟨f, hf, hpath⟩ := ih hq
      exact ⟨f, List.mem_append_right _ hf, hpath⟩

theorem load_congr (h : ∀ path, q = .file path none → read path = read' path) :
    q.load read false = q.load read' false := by
  cases q with
  | memory data => rfl
  | file path cache =>
    cases cache with
    | some bytes => rfl
    | none => simp only [load, h path rfl]

end

end Payload

theorem Payload.isFile_load (read : FileReader) (fresh : Bool) (q : Payload) :
    (q.load read fresh).1.isFile = q.isFile := by
  rw [← isFile_forget, forget_load, isFile_forget]

section

variable [Backend]

theorem Part.load_congr {read read' : FileReader} {fresh : Bool} {p : Part}
    (h : ∀ r ∈ p.related, r.payload.load read fresh = r.payload.load read' fresh) :
    p.load read fresh = p.load read' fresh := by
  have hrelated : p.related.map (·.load read fresh) = p.related.map (·.load read' fresh) := by
    refine List.map_congr_left fun r hr ↦ ?_
    rw [Related.load, Related.load, h r hr]
  rw [load, load, hrelated]

theorem Part.unload_load (read : FileReader) (fresh : Bool) (p : Part) :
    (p.load read fresh).1.unload = p.unload := by
  have hrelated : (p.load read fresh).1.related.map Related.source =
      p.related.map Related.source := by
    rw [related_load, List.map_map]
    exact List.map_congr_left fun r _ ↦ r.source_load read fresh
  rw [unload, hrelated]
  exact p.withRelated_withRelated _ _

namespace Message

variable {m : Message} {read read' read'' : FileReader} {fresh : Bool}

theorem payloads_loadAll (m : Message) (read : FileReader) (fresh : Bool) :
    (m.loadAll read fresh).1.payloads = m.payloads.map fun q ↦ (q.load read fresh).1 := by
  have hrelated (p : Part) : (p.load read fresh).1.related.map Related.payload =
      (p.related.map Related.payload).map fun q ↦ (q.load read fresh).1 := by
    rw [Part.related_load, List.map_map, List.map_map]
    rfl
  simp only [payloads, parts_loadAll, attachments_loadAll, List.flatMap_map, hrelated,
    List.map_append, List.map_flatMap, List.map_map]
  rfl

theorem visited_loadAll (m : Message) (read : FileReader) (fresh : Bool) :
    Payload.Visited read fresh m.payloads (m.loadAll read fresh).1.payloads
      (m.loadAll read fresh).2 := by
  rw [payloads_loadAll, failures_loadAll_eq_flatMap]
  exact Payload.visited_map_load read fresh m.payloads

theorem visited_load (h : m.prepared = false ∨ fresh = true) (read : FileReader) :
    Payload.Visited read fresh m.payloads (m.load read fresh).1.payloads
      (m.load read fresh).2 := by
  have hvisit : ¬ (m.prepared && !fresh) = true := by
    rcases h with h | rfl
    · simp [h]
    · simp
  rw [load_eq, if_neg hvisit]
  exact m.visited_loadAll read fresh

/-- Loading changes nothing but what is read of the files, and whether the message is prepared. -/
theorem invalidate_load (m : Message) (read : FileReader) (fresh : Bool) :
    (m.load read fresh).1.invalidate = m.invalidate := by
  rw [load_eq]
  split
  · rfl
  · have hparts : (m.loadAll read fresh).1.parts.map Part.unload = m.parts.map Part.unload := by
      rw [parts_loadAll, List.map_map]
      exact List.map_congr_left fun p _ ↦ p.unload_load read fresh
    have hattachments : (m.loadAll read fresh).1.attachments.map Attachment.source =
        m.attachments.map Attachment.source := by
      rw [attachments_loadAll, List.map_map]
      exact List.map_congr_left fun a _ ↦ a.source_load read fresh
    have hfiles : (m.loadAll read fresh).1.hasFiles = m.hasFiles := by
      rw [hasFiles_eq, hasFiles_eq, payloads_loadAll, List.any_map]
      exact congrArg m.payloads.any (funext fun q ↦ q.isFile_load read fresh)
    rw [invalidate_eq, invalidate_eq, hparts, hattachments, hfiles]
    rfl

theorem prepared_load (m : Message) (read : FileReader) (fresh : Bool) :
    (m.load read fresh).1.prepared = (m.load read fresh).2.isEmpty := by
  rw [load_eq]
  split
  · rename_i h
    exact (Bool.and_eq_true_iff.mp h).1
  · rfl

theorem loadAll_congr (h : ∀ q ∈ m.payloads, q.load read fresh = q.load read' fresh) :
    m.loadAll read fresh = m.loadAll read' fresh := by
  have hparts : m.parts.map (·.load read fresh) = m.parts.map (·.load read' fresh) := by
    refine List.map_congr_left fun p hp ↦ Part.load_congr fun r hr ↦ h _ ?_
    exact List.mem_append_left _ (List.mem_flatMap.mpr ⟨p, hp, List.mem_map_of_mem hr⟩)
  have hattachments : m.attachments.map (·.load read fresh) =
      m.attachments.map (·.load read' fresh) := by
    refine List.map_congr_left fun a ha ↦ ?_
    rw [Attachment.load, Attachment.load, h _ (List.mem_append_right _ (List.mem_map_of_mem ha))]
  rw [loadAll, loadAll, hparts, hattachments]

theorem exists_failure_of_unread (hp : (m.load read fresh).1.prepared = false) {path : String}
    (hq : .file path none ∈ (m.load read fresh).1.payloads) :
    ∃ f ∈ (m.load read fresh).2, f.path = path := by
  refine (visited_load ?_ read).exists_failure hq
  by_contra h
  obtain ⟨hm, hfresh⟩ := not_or.mp h
  rw [Bool.not_eq_false] at hm
  rw [Bool.not_eq_true] at hfresh
  rw [hfresh, load_of_prepared read m hm, hm] at hp
  cases hp

theorem failures_load_again (h : ∀ f ∈ (m.load read fresh).2, ∃ bytes, read' f.path = .ok bytes) :
    ((m.load read fresh).1.load read' false).2 = [] := by
  cases hp : (m.load read fresh).1.prepared with
  | true => rw [load_of_prepared read' _ hp]
  | false =>
    rw [load_of_unprepared read' false _ hp, failures_loadAll, List.filterMap_eq_nil_iff]
    intro q hq
    cases hf : q.failure? read' with
    | none => rfl
    | some f =>
      obtain ⟨rfl, herror⟩ := Payload.failure?_eq_some.mp hf
      obtain ⟨f', hf', hpath⟩ := exists_failure_of_unread hp hq
      obtain ⟨bytes, hok⟩ := h f' hf'
      rw [hpath, herror] at hok
      cases hok

theorem load_again_congr (h : ∀ f ∈ (m.load read fresh).2, read' f.path = read'' f.path) :
    (m.load read fresh).1.load read' false = (m.load read fresh).1.load read'' false := by
  cases hp : (m.load read fresh).1.prepared with
  | true => rw [load_of_prepared read' _ hp, load_of_prepared read'' _ hp]
  | false =>
    rw [load_of_unprepared read' false _ hp, load_of_unprepared read'' false _ hp]
    refine loadAll_congr fun q hq ↦ Payload.load_congr ?_
    rintro path rfl
    obtain ⟨f, hf, rfl⟩ := exists_failure_of_unread hp hq
    exact h f hf

/-- Preparing visits each payload once, in order, and reports those whose files cannot be read. A
prepared message is left alone, unless its files are read anew. Nothing else of the message changes,
and it is prepared, and the call succeeds, exactly if there is nothing to report. If the files that
are reported can be read the next time, then preparing succeeds, and reads only these. -/
theorem load_visits (m : Message) (read : FileReader) (fresh : Bool) :
    let m' := (m.load read fresh).1
    let failures := (m.load read fresh).2
    (m.prepared = true → fresh = false → m' = m ∧ failures = []) ∧
    (m.prepared = false ∨ fresh = true →
      Payload.Visited read fresh m.payloads m'.payloads failures ∧
      (fresh = false →
        failures.map ReadFailure.path = m'.payloads.filterMap Payload.unreadPath?)) ∧
    m'.invalidate = m.invalidate ∧
    (m'.prepared = true ↔ failures = []) ∧
    (∀ (s : Session) (name : String), s.message name = m → s.files.read = read →
      (s.step (.prepare name fresh)).2 =
        if failures = [] then .ok (.message m') else .error (.prepare (failures.map .payload))) ∧
    ∀ read' : FileReader, (∀ f ∈ failures, ∃ bytes, read' f.path = .ok bytes) →
      (m'.load read' false).2 = [] ∧ (m'.load read' false).1.prepared = true ∧
      ∀ read'' : FileReader, (∀ f ∈ failures, read' f.path = read'' f.path) →
        m'.load read' false = m'.load read'' false := by
  intro m' failures
  have hprepared : m'.prepared = failures.isEmpty := m.prepared_load read fresh
  refine ⟨fun hm hfresh ↦ ?_, fun h ↦ ⟨visited_load h read, ?_⟩, m.invalidate_load read fresh, ?_,
    fun s name hs hfiles ↦ ?_, fun read' hread' ↦ ⟨failures_load_again hread', ?_,
      fun read'' hread'' ↦ load_again_congr hread''⟩⟩
  · have hload : m.load read fresh = (m, []) := by
      rw [hfresh]
      exact m.load_of_prepared read hm
    exact ⟨congrArg Prod.fst hload, congrArg Prod.snd hload⟩
  · rintro rfl
    exact (visited_load h read).paths
  · rw [hprepared, List.isEmpty_iff]
  · simp only [Session.step, hs, hfiles, List.isEmpty_iff]
    rfl
  · rw [prepared_load, failures_load_again hread']
    rfl

end Message

end

namespace Message

def parcel : Message :=
  readLetter.after (.edit (.attach ["a.txt", "b.txt"]))

theorem parcel_visits :
    (readLetter.load (.holding "a.txt" [0x42]) false).1 = readLetter ∧
    Payload.Visited (.holding "a.txt" [0x42]) true parcel.payloads
      [.memory [0x89], .file "n.txt" (some [0x41]), .file "a.txt" (some [0x42]),
        .file "b.txt" none]
      [⟨"n.txt", .notFound⟩, ⟨"b.txt", .notFound⟩] ∧
    ((parcel.load (.holding "a.txt" [0x42]) false).1.load (.holding "b.txt" [0x43]) false).2 =
      [] := by
  obtain ⟨hsame, -⟩ := readLetter.load_visits (.holding "a.txt" [0x42]) false
  obtain ⟨-, hvisits, -⟩ := parcel.load_visits (.holding "a.txt" [0x42]) true
  obtain ⟨-, -, -, -, -, hagain⟩ := parcel.load_visits (.holding "a.txt" [0x42]) false
  have hpayloads : (parcel.load (.holding "a.txt" [0x42]) true).1.payloads =
      [.memory [0x89], .file "n.txt" (some [0x41]), .file "a.txt" (some [0x42]),
        .file "b.txt" none] := by decide +kernel
  have hfresh : (parcel.load (.holding "a.txt" [0x42]) true).2 =
      [⟨"n.txt", .notFound⟩, ⟨"b.txt", .notFound⟩] := by decide +kernel
  have hfailures : (parcel.load (.holding "a.txt" [0x42]) false).2 = [⟨"b.txt", .notFound⟩] := by
    decide +kernel
  have hvisited := (hvisits (.inr rfl)).1
  rw [hpayloads, hfresh] at hvisited
  refine ⟨(hsame rfl rfl).1, hvisited, (hagain _ ?_).1⟩
  rw [hfailures]
  exact List.forall_mem_singleton.mpr ⟨[0x43], by decide +kernel⟩

end Message

end MimeMail
