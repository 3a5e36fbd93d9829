import Mathlib.Data.List.Forall2
import MimeMail.Proofs.Message.Accounting

namespace MimeMail

section

variable [Backend]

/-- Two steps report the same, and give the same if they report nothing. -/
def SameOutcome {α ε : Type} (x y : α × List ε) : Prop :=
  x.2 = y.2 ∧ (y.2 = [] → x.1 = y.1)

/-- Calls that neither add a file to a message nor make it forget one. -/
def Edit.AddsNoFile : Edit → Prop
  | .attach _ | .attachFile _ _ _ | .invalidate => False
  | e => ∀ r ∈ e.related, r.payload.isFile = false

/-- The same event, with other files around it, that needs no file of a prepared message. -/
inductive Event.Alike : Event → Event → Prop
  | edit {e : Edit} : e.AddsNoFile → Alike (.edit e) (.edit e)
  | prepare (read read' : FileReader) : Alike (.prepare read false) (.prepare read' false)
  | compose (registry : Option Registry) (stamp : String → Stamp) (read read' : FileReader)
      (data : Backend.Data) :
      Alike (.compose registry stamp read data) (.compose registry stamp read' data)
  | send {σ : Type} (s : Sender) (c : Composer) (read read' : FileReader) (data : Backend.Data)
      (transport : Transport σ) (state : σ) :
      Alike (.send s c read data transport state) (.send s c read' data transport state)
  | sendDefault {σ : Type} (r : Registry) (c : Composer) (read read' : FileReader)
      (data : Backend.Data) (transport : Transport σ) (state : σ) :
      Alike (.sendDefault r c read data transport state)
        (.sendDefault r c read' data transport state)

theorem Content.sameOutcome_render (d₁ d₂ : Backend.Data) (c : Content) :
    SameOutcome ((c.render d₁).1.render d₂) (c.render d₂) := by
  cases c with
  | literal text => exact ⟨rfl, fun _ ↦ rfl⟩
  | template t output =>
    cases h₁ : Backend.render t d₁ <;> cases h₂ : Backend.render t d₂ <;>
      simp [render, SameOutcome, h₁, h₂]

theorem Part.sameOutcome_render (d₁ d₂ : Backend.Data) (p : Part) :
    SameOutcome ((p.render d₁).1.render d₂) (p.render d₂) := by
  cases p with
  | plain body =>
    obtain ⟨herrors, hbody⟩ := body.sameOutcome_render d₁ d₂
    exact ⟨herrors, fun h ↦ congrArg Part.plain (hbody h)⟩
  | html body related =>
    obtain ⟨herrors, hbody⟩ := body.sameOutcome_render d₁ d₂
    exact ⟨herrors, fun h ↦ congrArg (Part.html · related) (hbody h)⟩
  | other contentType encoding body related => exact ⟨rfl, fun _ ↦ rfl⟩

namespace Message

variable {m m' : Message} {registry : Option Registry} {stamp : String → Stamp}
  {read read' : FileReader} {data : Backend.Data} {out : List Char}

theorem no_part_error {data : Backend.Data} (h : (m.render data).2 = []) {p : Part}
    (hp : p ∈ m.parts) : (p.render data).2 = [] := by
  rw [errors_render, List.append_eq_nil_iff, List.flatMap_eq_nil_iff] at h
  rw [← List.zipIdx_map_fst 0 m.parts] at hp
  obtain ⟨x, hx, rfl⟩ := List.mem_map.mp hp
  exact List.map_eq_nil_iff.mp (h.2 x hx)

theorem no_subject_error {data : Backend.Data} (h : (m.render data).2 = []) :
    (m.subject.render data).2 = [] := by
  rw [errors_render, List.append_eq_nil_iff] at h
  exact List.map_eq_nil_iff.mp h.1

theorem sameOutcome_render (d₁ d₂ : Backend.Data) (m : Message) :
    SameOutcome ((m.render d₁).1.render d₂) (m.render d₂) := by
  have hsubject := m.subject.sameOutcome_render d₁ d₂
  refine ⟨errors_render_congr hsubject.1 (m.render_parts d₁) fun p ↦
    (p.sameOutcome_render d₁ d₂).1, fun h ↦ ?_⟩
  have hs : ((m.render d₁).1.subject.render d₂).1 = (m.subject.render d₂).1 :=
    hsubject.2 (no_subject_error h)
  have hparts : (m.render d₁).1.parts.map (fun p ↦ (p.render d₂).1) =
      m.parts.map fun p ↦ (p.render d₂).1 := by
    rw [render_parts, List.map_map]
    exact List.map_congr_left fun p hp ↦ (p.sameOutcome_render d₁ d₂).2 (no_part_error h hp)
  rw [render_eq d₂ (m.render d₁).1, render_eq d₂ m]
  simp only [hs, hparts]
  rfl

theorem sameOutcome_resolve (read : FileReader) (d₁ d₂ : Backend.Data) (m : Message) :
    SameOutcome ((m.resolve read d₁).1.resolve read d₂) (m.resolve read d₂) := by
  -- Loading comes first in both, and the second time it finds everything loaded.
  have hm : (m.resolve read d₁).1 = ((m.load read false).1.render d₁).1 := by rw [resolve_eq]
  have hload : (m.resolve read d₁).1.load read false =
      ((m.resolve read d₁).1, (m.load read false).2) := by
    rw [hm, load_render, load_load]
  have hparts := isEmpty_parts_of_source_eq (m.source_resolve read d₁)
  obtain ⟨herrors, hsame⟩ := (m.load read false).1.sameOutcome_render d₁ d₂
  rw [errors_render_load] at herrors hsame
  rw [resolve_eq, hload, hparts, hm, m.resolve_eq]
  refine ⟨by rw [herrors], fun h ↦ hsame ?_⟩
  rw [List.append_eq_nil_iff, List.append_eq_nil_iff] at h
  exact h.1.1

theorem compose_congr (ha : m'.resolveAuthor registry = m.resolveAuthor registry)
    (hr : SameOutcome (m'.resolve read' data) (m.resolve read data)) :
    (m'.compose registry stamp read' data).2 = (m.compose registry stamp read data).2 := by
  obtain ⟨herrors, hsame⟩ := hr
  rw [compose, compose, ha]
  cases m.resolveAuthor registry with
  | none => rfl
  | some author =>
    dsimp only
    rw [herrors]
    split
    · rename_i h
      rw [hsame (List.isEmpty_iff.mp h)]
    · rfl

theorem compose_compose (m : Message) (registry registry' : Option Registry)
    (stamp stamp' : String → Stamp) (read : FileReader) (d₁ d₂ : Backend.Data) :
    ((m.compose registry' stamp' read d₁).1.compose registry stamp read d₂).2 =
      (m.compose registry stamp read d₂).2 := by
  have hauthor :=
    resolveAuthor_of_source_eq (m.source_compose_fst read d₁ registry' stamp') registry
  refine compose_congr hauthor ?_
  rw [compose_fst]
  split
  · exact m.sameOutcome_resolve read d₁ d₂
  · exact ⟨rfl, fun _ ↦ rfl⟩

theorem resolve_of_prepared (h : m.prepared = true) (read : FileReader) (data : Backend.Data) :
    m.resolve read data =
      ((m.render data).1, (m.render data).2 ++ if m.parts.isEmpty then [.noParts] else []) := by
  rw [resolve_eq, m.load_of_prepared read h, List.map_nil, List.append_nil]

theorem compose_of_prepared (h : m.prepared = true) (registry : Option Registry)
    (stamp : String → Stamp) (read read' : FileReader) (data : Backend.Data) :
    m.compose registry stamp read data = m.compose registry stamp read' data := by
  rw [compose, compose, resolve_of_prepared h, resolve_of_prepared h]

theorem prepared_compose_fst (h : m.prepared = true) (registry : Option Registry)
    (stamp : String → Stamp) (read : FileReader) (data : Backend.Data) :
    (m.compose registry stamp read data).1.prepared = true := by
  rw [compose_fst, resolve_of_prepared h]
  split <;> exact h

theorem hasFiles_eq_false {p : Part} (h : ∀ r ∈ p.related, r.payload.isFile = false) :
    p.hasFiles = false :=
  List.any_eq_false.mpr fun r hr ↦ by simp [h r hr]

theorem prepared_edit {e : Edit} (h : m.prepared = true) (he : e.AddsNoFile)
    (hm : m.edit e = .ok m') : m'.prepared = true := by
  cases e with
  | domain | subject | sender | author | replyTo | addressees | cc | bcc | plain =>
    obtain rfl := Except.ok.inj hm
    exact h
  | subjectTemplate source =>
    obtain ⟨subject, -, hm⟩ := exists_of_bind_ok hm
    obtain rfl := Except.ok.inj hm
    exact h
  | plainTemplate source =>
    obtain ⟨body, -, hm⟩ := exists_of_bind_ok hm
    obtain rfl := Except.ok.inj hm
    exact h
  | html text related =>
    obtain rfl := Except.ok.inj hm
    have hfiles : (Part.html (.literal text) related).hasFiles = false := hasFiles_eq_false he
    simp [setHtml, h, hfiles]
  | htmlTemplate source related =>
    obtain ⟨body, -, hm⟩ := exists_of_bind_ok hm
    obtain rfl := Except.ok.inj hm
    have hfiles : (Part.html body related).hasFiles = false := hasFiles_eq_false he
    simp [setHtml, h, hfiles]
  | part contentType encoding body related =>
    obtain rfl := Except.ok.inj hm
    have hfiles : (Part.other contentType encoding body related).hasFiles = false :=
      hasFiles_eq_false he
    simp [addPart, h, hfiles]
  | attachObject name contentType data =>
    obtain rfl := Except.ok.inj hm
    simp [attach, h, Payload.isFile]
  | attach | attachFile | invalidate => exact he.elim

theorem message_send_of_prepared {σ : Type} (h : m.prepared = true) (s : Sender) (c : Composer)
    (read read' : FileReader) (data : Backend.Data) (transport : Transport σ) (state : σ) :
    (s.send c read data transport m state).message =
        (s.send c read' data transport m state).message ∧
      (s.send c read data transport m state).message.prepared = true := by
  have hs : ({ m with sender := some s } : Message).prepared = true := h
  rw [Sender.message_send, Sender.message_send, Composer.compose, Composer.compose,
    compose_of_prepared hs c.registry c.stamp read read' data]
  exact ⟨rfl, prepared_compose_fst hs c.registry c.stamp read' data⟩

theorem after_alike {ev ev' : Event} (h : ev.Alike ev') (hm : m.prepared = true) :
    m.after ev = m.after ev' ∧ (m.after ev).prepared = true := by
  cases h with
  | @edit e he =>
    refine ⟨rfl, ?_⟩
    rw [after]
    split
    · rename_i m' hm'
      exact prepared_edit hm he hm'
    · exact hm
  | prepare read read' =>
    rw [after, after, m.load_of_prepared read hm, m.load_of_prepared read' hm]
    exact ⟨rfl, hm⟩
  | compose registry stamp read read' data =>
    rw [after, after, compose_of_prepared hm registry stamp read read' data]
    exact ⟨rfl, prepared_compose_fst hm registry stamp read' data⟩
  | send s c read read' data transport state =>
    exact message_send_of_prepared hm s c read read' data transport state
  | sendDefault r c read read' data transport state =>
    rw [after, after, Registry.send, Registry.send]
    cases r.default? with
    | none => exact ⟨rfl, hm⟩
    | some s => exact message_send_of_prepared hm s c read read' data transport state

theorem foldl_alike {evs evs' : List Event} (h : List.Forall₂ Event.Alike evs evs')
    (hm : m.prepared = true) :
    evs.foldl after m = evs'.foldl after m ∧ (evs.foldl after m).prepared = true := by
  induction h generalizing m with
  | nil => exact ⟨rfl, hm⟩
  | cons hev _ ih =>
    obtain ⟨heq, hprepared⟩ := after_alike hev hm
    rw [List.foldl_cons, List.foldl_cons, ← heq]
    exact ih hprepared

/-- What becomes of a message when it is composed with some data, one after the other. -/
def composedWith (registry : Option Registry) (stamp : String → Stamp) (read : FileReader)
    (m : Message) (earlier : List Backend.Data) : Message :=
  earlier.foldl (fun m data ↦ (m.compose registry stamp read data).1) m

/-- Composing carries nothing over. While the files do not change, data that a message has been
composed with before, with or without success, does not show in what composing gives. Once composing
or preparing has succeeded, changes of the files do not show either, whatever happens to the message
that neither adds files to it nor has them read anew, and the same data gives the same text. -/
theorem compose_repeats (m : Message) (registry : Option Registry) (stamp : String → Stamp) :
    (∀ read earlier data,
      ((m.composedWith registry stamp read earlier).compose registry stamp read data).2 =
        (m.compose registry stamp read data).2) ∧
    (∀ m', (∃ registry' stamp' read data out,
          m.compose registry' stamp' read data = (m', .ok out)) ∨
        (∃ read fresh, m.load read fresh = (m', [])) →
      ∀ evs evs', List.Forall₂ Event.Alike evs evs' → ∀ read read' data,
        ((evs.foldl after m').compose registry stamp read data).2 =
          ((evs'.foldl after m').compose registry stamp read' data).2) ∧
    ∀ read data m' out, m.compose registry stamp read data = (m', .ok out) →
      ∀ read', (m'.compose registry stamp read' data).2 = .ok out := by
  refine ⟨fun read earlier data ↦ ?_, fun m' hm' evs evs' hevs read read' data ↦ ?_,
    fun read data m' out hc read' ↦ ?_⟩
  · induction earlier generalizing m with
    | nil => rfl
    | cons d earlier ih =>
      exact (ih _).trans (m.compose_compose registry registry stamp stamp read d data)
  · have hprepared : m'.prepared = true := by
      rcases hm' with ⟨registry', stamp', read, data, out, hc⟩ | ⟨read, fresh, hl⟩
      · exact prepared_of_compose hc
      · exact prepared_of_load hl
    obtain ⟨heq, hlast⟩ := foldl_alike hevs hprepared
    rw [← heq, compose_of_prepared hlast registry stamp read read' data]
  · have hagain := m.compose_compose registry registry stamp stamp read data data
    rw [hc] at hagain
    rw [compose_of_prepared (prepared_of_compose hc) registry stamp read' read data]
    exact hagain

end Message

end

namespace Message

theorem letter_compose_repeats :
    (([.edit (.subject "S"), .prepare (fun _ ↦ .error .notFound) false].foldl after
        readLetter).compose none (fun _ ↦ ⟨"", "T"⟩) (fun _ ↦ .error .notFound) Data.Value.null).2 =
      (([.edit (.subject "S"), .prepare (fun _ ↦ .ok [0x42]) false].foldl after
        readLetter).compose none (fun _ ↦ ⟨"", "T"⟩) (fun _ ↦ .ok [0x42]) Data.Value.null).2 ∧
    (readLetter.compose none (fun _ ↦ ⟨"", "T"⟩) (fun _ ↦ .error .notFound) Data.Value.null).2 =
      .ok (readLetter.write .zoe ⟨"", "T"⟩) := by
  have hc := compose_letter fun _ ↦ ⟨"", "T"⟩
  have hsubject : (Edit.subject "S").AddsNoFile := by simp [Edit.AddsNoFile, Edit.related]
  obtain ⟨-, hfiles, hsame⟩ := letter.compose_repeats none fun _ ↦ ⟨"", "T"⟩
  exact ⟨hfiles readLetter (.inl ⟨_, _, _, _, _, hc⟩) _ _
    (.cons (.edit hsubject) (.cons (.prepare _ _) .nil)) _ _ _, hsame _ _ _ _ hc _⟩

end Message

end MimeMail
