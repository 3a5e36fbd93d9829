import MimeMail.Proofs.Message.PartList

namespace MimeMail

theorem bind_ok_eq_error {ε α β : Type} {x : Except ε α} {f : α → β} {err : ε} :
    (x >>= fun a ↦ .ok (f a)) = .error err ↔ x = .error err := by
  cases x <;> simp [bind, Except.bind]

section

variable [Backend]

/-- Writes a part at an index, or behind all parts if there is none yet, and says where it stands
then. An index that is out of bounds gives no list. -/
def PartList.writeAt (index : Option Nat) (p : Part) (ps : List Part) : Option (List Part × Nat) :=
  match index with
  | none => some (ps ++ [p], ps.length)
  | some i => if i < ps.length then some (ps.set i p, i) else none

/-- A message with the indices of its bodies, kept beside the part list. -/
structure Indexed where
  message : Message
  plain : Option Nat
  html : Option Nat

namespace Indexed

def withParts (s : Indexed) (parts : List Part) (p : Part) : Message :=
  { s.message with parts := parts, prepared := s.message.prepared && !p.hasFiles }

def give (s : Indexed) (p : Part) : Option Indexed :=
  match p with
  | .plain _ => (PartList.writeAt s.plain p s.message.parts).map fun (parts, i) ↦
    ⟨s.withParts parts p, some i, s.html⟩
  | .html _ _ => (PartList.writeAt s.html p s.message.parts).map fun (parts, i) ↦
    ⟨s.withParts parts p, s.plain, some i⟩
  | .other _ _ _ _ => some ⟨s.withParts (s.message.parts ++ [p]) p, s.plain, s.html⟩

/-- A part that is given is written at its index. Whatever else happens, preparing, composing and
copies included, leaves the indices as they are. -/
def after (s : Indexed) (ev : Event) : Option Indexed :=
  match ev.part? with
  | some p => s.give p
  | none => some { s with message := s.message.after ev }

def plainPart? (s : Indexed) : Option Part :=
  s.plain.bind fun i ↦ s.message.parts[i]?

def htmlPart? (s : Indexed) : Option Part :=
  s.html.bind fun i ↦ s.message.parts[i]?

end Indexed

/-- The calls that a message made in one go stands for. -/
def Event.quick (subject : String) (text html : Option String) : List Event :=
  .edit (.subject subject) :: (text.map fun text ↦ .edit (.plain text)).toList ++
    (html.map fun html ↦ .edit (.html html [])).toList

def Message.indexed (m : Message) : Indexed :=
  ⟨m, m.plainIndex, m.htmlIndex⟩

def Edit.template? : Edit → Option (String × Escaping)
  | .subjectTemplate source | .plainTemplate source => some (source, .plain)
  | .htmlTemplate source _ => some (source, .markup)
  | _ => none

section

variable {kind k : Part → Bool} {p : Part} {ps : List Part}

theorem findIdx?_putPart_self (hp : kind p = true) :
    (putPart kind p ps).findIdx? kind = some ((ps.findIdx? kind).getD ps.length) := by
  induction ps with
  | nil => simp [putPart, hp]
  | cons q qs ih =>
    by_cases hq : kind q = true
    · simp [putPart, hq, hp, List.findIdx?_cons]
    · cases hi : qs.findIdx? kind <;> simp [putPart, hq, List.findIdx?_cons, ih, hi]

theorem findIdx?_putPart_of_disjoint (h : ∀ q, kind q = true → k q = false) (hp : k p = false) :
    (putPart kind p ps).findIdx? k = ps.findIdx? k := by
  induction ps with
  | nil => simp [putPart, hp]
  | cons q qs ih =>
    by_cases hq : kind q = true
    · simp [putPart, hq, hp, h q hq, List.findIdx?_cons]
    · simp [putPart, hq, List.findIdx?_cons, ih]

theorem PartList.writeAt_findIdx? (kind : Part → Bool) (p : Part) (ps : List Part) :
    writeAt (ps.findIdx? kind) p ps =
      some (putPart kind p ps, (ps.findIdx? kind).getD ps.length) := by
  induction ps with
  | nil => rfl
  | cons q qs ih =>
    by_cases hq : kind q = true
    · simp [writeAt, putPart, hq, List.findIdx?_cons]
    · cases hi : qs.findIdx? kind with
      | none =>
        have hqs : qs ++ [p] = putPart kind p qs := by simpa [writeAt, hi] using ih
        simp [writeAt, putPart, hq, List.findIdx?_cons, hi, hqs]
      | some i =>
        have hqs : i < qs.length ∧ qs.set i p = putPart kind p qs := by
          simpa [writeAt, hi] using ih
        simp [writeAt, putPart, hq, List.findIdx?_cons, hi, hqs]

theorem bind_findIdx? (kind : Part → Bool) (ps : List Part) :
    ((ps.findIdx? kind).bind fun i ↦ ps[i]?) = ps.find? kind := by
  induction ps with
  | nil => rfl
  | cons q qs ih =>
    by_cases hq : kind q = true
    · simp [List.findIdx?_cons, hq]
    · rw [List.find?_cons_of_neg hq, ← ih]
      cases hi : qs.findIdx? kind <;> simp [List.findIdx?_cons, hq, hi]

end

namespace Part.IsBodyKind

variable {kind : Part → Bool} {m : Message} {ev : Event} {p : Part}

theorem findIdx?_source (h : IsBodyKind kind) (ps : List Part) :
    (ps.map Part.source).findIdx? kind = ps.findIdx? kind := by
  rw [List.findIdx?_map]
  exact congrArg (ps.findIdx? ·) (funext h.source)

theorem findIdx?_after_of_none (h : IsBodyKind kind) (hp : ev.part? = none) (m : Message) :
    (m.after ev).parts.findIdx? kind = m.parts.findIdx? kind := by
  rw [← h.findIdx?_source, m.source_parts_after hp, h.findIdx?_source]

theorem findIdx?_put (h : IsBodyKind kind) (hp : kind p = true) (m : Message) :
    (m.put p).parts.findIdx? kind = some ((m.parts.findIdx? kind).getD m.parts.length) := by
  rw [Message.put, h.replaces hp]
  exact findIdx?_putPart_self hp

theorem findIdx?_put_other (h : IsBodyKind kind) (hp : kind p = false) (m : Message) :
    (m.put p).parts.findIdx? kind = m.parts.findIdx? kind := by
  refine findIdx?_putPart_of_disjoint (fun q hq ↦ ?_) hp
  by_contra hk
  rw [replaces_comm, h.replaces (Bool.not_eq_false _ ▸ hk), hp] at hq
  cases hq

/-- The index of a body stays as it is once there is one. -/
theorem findIdx?_after (h : IsBodyKind kind) {i : Nat} (hi : m.parts.findIdx? kind = some i)
    (ev : Event) : (m.after ev).parts.findIdx? kind = some i := by
  cases hp : ev.part? with
  | none => rw [h.findIdx?_after_of_none hp, hi]
  | some p =>
    rw [Message.after_of_part hp]
    cases hk : kind p with
    | true => rw [h.findIdx?_put hk, hi, Option.getD_some]
    | false => rw [h.findIdx?_put_other hk, hi]

theorem findIdx?_foldl (h : IsBodyKind kind) {i : Nat} (hi : m.parts.findIdx? kind = some i)
    (evs : List Event) : (evs.foldl Message.after m).parts.findIdx? kind = some i := by
  induction evs generalizing m with
  | nil => exact hi
  | cons ev evs ih => exact ih (h.findIdx?_after hi ev)

end Part.IsBodyKind

theorem Content.ofSource_eq_error {source : String} {escaping : Escaping} {err : Backend.Fault} :
    ofSource source escaping = .error err ↔ Backend.parse source escaping = .error err := by
  rw [ofSource]
  cases Backend.parse source escaping <;> simp [Except.map]

namespace Message

variable {m : Message}

theorem give_indexed (m : Message) (p : Part) : m.indexed.give p = some (m.put p).indexed := by
  cases p with
  | plain body =>
    have hwrite := PartList.writeAt_findIdx? Part.isPlain (.plain body) m.parts
    have hplain := Part.isBodyKind_isPlain.findIdx?_put (p := .plain body) rfl m
    have hhtml := Part.isBodyKind_isHtml.findIdx?_put_other (p := .plain body) rfl m
    rw [Indexed.give, indexed, plainIndex, hwrite, Option.map_some, indexed, plainIndex, hplain,
      htmlIndex, htmlIndex, hhtml, put, Part.replaces_plain]
    rfl
  | html body related =>
    have hwrite := PartList.writeAt_findIdx? Part.isHtml (.html body related) m.parts
    have hplain := Part.isBodyKind_isPlain.findIdx?_put_other (p := .html body related) rfl m
    have hhtml := Part.isBodyKind_isHtml.findIdx?_put (p := .html body related) rfl m
    rw [Indexed.give, indexed, htmlIndex, hwrite, Option.map_some, indexed, htmlIndex, hhtml,
      plainIndex, plainIndex, hplain, put, Part.replaces_html]
    rfl
  | other contentType encoding body related =>
    have hplain := Part.isBodyKind_isPlain.findIdx?_put_other
      (p := .other contentType encoding body related) rfl m
    have hhtml := Part.isBodyKind_isHtml.findIdx?_put_other
      (p := .other contentType encoding body related) rfl m
    rw [Indexed.give, indexed, indexed, plainIndex, plainIndex, hplain, htmlIndex, htmlIndex, hhtml,
      ← addPart_eq_put]
    rfl

theorem after_indexed (m : Message) (ev : Event) :
    m.indexed.after ev = some (m.after ev).indexed := by
  rw [Indexed.after]
  split
  · rename_i p hp
    rw [give_indexed, after_of_part hp]
  · rename_i hp
    rw [indexed, indexed, plainIndex, plainIndex, Part.isBodyKind_isPlain.findIdx?_after_of_none hp,
      htmlIndex, htmlIndex, Part.isBodyKind_isHtml.findIdx?_after_of_none hp]

theorem foldlM_indexed (evs : List Event) (m : Message) :
    evs.foldlM Indexed.after m.indexed = some (evs.foldl after m).indexed := by
  induction evs generalizing m with
  | nil => rfl
  | cons ev evs ih =>
    rw [List.foldlM_cons, after_indexed]
    exact ih _

theorem plainIndex_ne_htmlIndex {i : Nat} (h : m.plainIndex = some i) : m.htmlIndex ≠ some i := by
  intro hhtml
  obtain ⟨hi, hplain, -⟩ := List.findIdx?_eq_some_iff_getElem.mp h
  obtain ⟨_, hmarkup, -⟩ := List.findIdx?_eq_some_iff_getElem.mp hhtml
  revert hplain hmarkup
  cases m.parts[i] <;> simp [Part.isPlain, Part.isHtml]

theorem edit_eq_error (m : Message) (e : Edit) (err : Backend.Fault) :
    m.edit e = .error err ↔
      ∃ source escaping, e.template? = some (source, escaping) ∧
        Backend.parse source escaping = .error err := by
  cases e with
  | subjectTemplate source | plainTemplate source | htmlTemplate source related =>
    simp [edit, Edit.template?, bind_ok_eq_error, Content.ofSource_eq_error]
  | _ => simp [edit, Edit.template?]

end Message

theorem Session.step_edit_error {s : Session} {name : String} {e : Edit} {err : Backend.Fault}
    (h : (s.message name).edit e = .error err) :
    s.step (.edit name e) = (s, .error (.template err)) := by
  rw [step, edited, Except.bind, h]
  rfl

namespace Message

theorem quick_eq_foldl (subject : String) (text html : Option String) :
    quick subject text html = (Event.quick subject text html).foldl after .empty := by
  cases text <;> cases html <;> rfl

/-- The part list is what the calls say, whatever else happens in between. Each body has one entry,
opened by the first call that gives it and holding what the last one gave; any other part has its
own. Kept beside the list, the indices of the bodies are always in bounds and stay as they are, and
lead to the bodies that composing looks for. A call that fails changes nothing, and a message made
in one go is what the calls for its texts lead to. -/
theorem part_list_as_called (evs : List Event) :
    let given := evs.filterMap Event.part?
    let m := evs.foldl after .empty
    m.parts.map Part.source = (PartList.layout given).map Part.source ∧
    evs.foldlM Indexed.after ⟨.empty, none, none⟩ = some ⟨m, m.plainIndex, m.htmlIndex⟩ ∧
    m.indexed.plainPart? = m.parts.find? Part.isPlain ∧
    m.indexed.htmlPart? = m.parts.find? Part.isHtml ∧
    (∀ i, m.plainIndex = some i → m.htmlIndex ≠ some i ∧
      (∀ evs' : List Event, (evs'.foldl after m).plainIndex = some i) ∧
      ∃ p last, m.parts[i]? = some p ∧ (given.filter Part.isPlain).getLast? = some last ∧
        p.source = last.source) ∧
    (∀ i, m.htmlIndex = some i →
      (∀ evs' : List Event, (evs'.foldl after m).htmlIndex = some i) ∧
      ∃ p last, m.parts[i]? = some p ∧ (given.filter Part.isHtml).getLast? = some last ∧
        p.source = last.source) ∧
    (∀ e err, (m.edit e = .error err ↔ ∃ source escaping,
        e.template? = some (source, escaping) ∧ Backend.parse source escaping = .error err) ∧
      (m.edit e = .error err → e.part? = none ∧ m.after (.edit e) = m ∧
        ∀ (s : Session) (name : String), s.message name = m →
          s.step (.edit name e) = (s, .error (.template err)))) ∧
    ∀ subject text html,
      quick subject text html = (Event.quick subject text html).foldl after .empty := by
  intro given m
  have hempty : empty.parts.map Part.source = (PartList.layout []).map Part.source := rfl
  have hparts : m.parts.map Part.source = (PartList.layout given).map Part.source :=
    source_parts_run evs hempty
  refine ⟨hparts, foldlM_indexed evs .empty, bind_findIdx? _ _, bind_findIdx? _ _,
    fun i hi ↦ ⟨plainIndex_ne_htmlIndex hi, ?_, ?_⟩, fun i hi ↦ ⟨?_, ?_⟩,
    fun e err ↦ ⟨m.edit_eq_error e err, fun he ↦ ⟨?_, ?_, ?_⟩⟩, quick_eq_foldl⟩
  · exact Part.isBodyKind_isPlain.findIdx?_foldl hi
  · exact PartList.exists_last_of_findIdx? Part.isBodyKind_isPlain hparts hi
  · exact Part.isBodyKind_isHtml.findIdx?_foldl hi
  · exact PartList.exists_last_of_findIdx? Part.isBodyKind_isHtml hparts hi
  · cases hp : e.part? with
    | none => rfl
    | some p => cases he.symm.trans (edit_of_part hp m)
  · rw [after, he]
  · intro s name hs
    exact Session.step_edit_error (hs ▸ he)

end Message

end

namespace Message

def rewriting : List Event :=
  [.edit (.html "<p>A</p>" []), .edit (.plainTemplate "\x7b\x7b"),
    .edit (.part "text/csv" .auto [0x41] []), .edit (.plain "B"),
    .prepare (fun _ ↦ .error .notFound) true, .copy,
    .edit (.html "<p>C</p>" [⟨"i", "image/png", .memory [0x89]⟩]),
    .edit (.plainTemplate "Hi {{name}}")]

theorem rewriting_part_list : ∃ t,
    Backend.parse "Hi {{name}}" .plain = .ok t ∧
    (rewriting.foldl after .empty).parts.map Part.source =
      [.html (.literal "<p>C</p>") [⟨"i", "image/png", .memory [0x89]⟩],
        .other "text/csv" .auto [0x41] [], .plain (.template t "")] ∧
    rewriting.foldlM Indexed.after ⟨.empty, none, none⟩ =
      some ⟨rewriting.foldl after .empty, some 2, some 0⟩ := by
  obtain ⟨hparts, hindexed, -⟩ := part_list_as_called rewriting
  obtain ⟨t, ht⟩ : ∃ t, Backend.parse "Hi {{name}}" .plain = .ok t := by
    have hok : (Backend.parse "Hi {{name}}" .plain).isOk = true := by decide +kernel
    cases h : Backend.parse "Hi {{name}}" .plain with
    | error err => cases h ▸ hok
    | ok t => exact ⟨t, rfl⟩
  have hread : (Edit.plainTemplate "Hi {{name}}").part? = some (.plain (.template t "")) := by
    rw [Edit.part?, ht]
    rfl
  have hfails : (Backend.parse "\x7b\x7b" .plain).toOption.isNone = true := by decide +kernel
  have hunread : (Edit.plainTemplate "\x7b\x7b").part? = none := by
    rw [Edit.part?, Option.isNone_iff_eq_none.mp hfails]
    rfl
  have hgiven : rewriting.filterMap Event.part? =
      [.html (.literal "<p>A</p>") [], .other "text/csv" .auto [0x41] [], .plain (.literal "B"),
        .html (.literal "<p>C</p>") [⟨"i", "image/png", .memory [0x89]⟩],
        .plain (.template t "")] := by
    simp only [rewriting, List.filterMap_cons, Event.part?, hread, hunread]
    rfl
  rw [hgiven] at hparts
  have hlayout : (rewriting.foldl after .empty).parts.map Part.source =
      [.html (.literal "<p>C</p>") [⟨"i", "image/png", .memory [0x89]⟩],
        .other "text/csv" .auto [0x41] [], .plain (.template t "")] := hparts
  refine ⟨t, ht, hlayout, hindexed.trans ?_⟩
  rw [plainIndex, ← Part.isBodyKind_isPlain.findIdx?_source, htmlIndex,
    ← Part.isBodyKind_isHtml.findIdx?_source, hlayout]
  rfl

end Message

end MimeMail
