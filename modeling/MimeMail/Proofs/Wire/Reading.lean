import MimeMail.Proofs.Wire.Tree

namespace MimeMail.Wire

open Encoding Text

variable {token : List Char}

theorem Pending.add_nil (p : Pending) : p.add [] = p := by
  cases p <;> simp [add]

theorem Pending.add_add (p : Pending) (ks ls : List Line) :
    (p.add ks).add ls = p.add (ks ++ ls) := by
  cases p <;> simp [add]

theorem Reader.step_text (token : List Char) {l : Line} (h : ¬ boundaryMark <+: l) (r : Reader) :
    r.step token l = some { r with pending := r.pending.add [l] } := by
  rw [step, mark_text h]

theorem Reader.foldlM_text (token : List Char) {ls : List Line}
    (h : ∀ l ∈ ls, ¬ boundaryMark <+: l) (r : Reader) :
    ls.foldlM (step token) r = some { r with pending := r.pending.add ls } := by
  induction ls generalizing r with
  | nil => rw [r.pending.add_nil]; rfl
  | cons l ls ih =>
    have hl := r.step_text token (h l List.mem_cons_self)
    rw [List.foldlM_cons, hl, Option.bind_eq_bind, Option.bind_some,
      ih fun k hk ↦ h k (List.mem_cons_of_mem l hk), Pending.add_add]
    rfl

theorem not_boundaryMark_nil : ¬ boundaryMark <+: ([] : Line) := by
  decide

theorem not_boundaryMark_fieldLines {fs : List Field} (h : ∀ f ∈ fs, f.Sound InLine) :
    ∀ l ∈ fieldLines fs, ¬ boundaryMark <+: l := by
  intro k hk
  obtain ⟨f, hf, hk⟩ := List.mem_flatMap.mp hk
  obtain ⟨c, l, ls, hl, hc, hls⟩ := (h f hf).lines_text
  rw [hl] at hk
  rintro ⟨s, rfl⟩
  rcases List.mem_cons.mp hk with hk | hk
  · obtain rfl : '-' = c := (List.cons.inj hk).1
    exact absurd hc (by decide)
  · exact absurd (hls _ hk) (by simp [boundaryMark, beginsBlank, IsBlank])

def Entity.lines (token : List Char) (e : Entity) : List Line :=
  (Text.lines (e.write token)).dropLast

theorem Entity.lines_of_write {e : Entity} {w : List Char} (h : e.write token = w ++ lineBreak) :
    e.lines token = Text.lines w := by
  have hlines : Text.lines (w ++ lineBreak) = Text.lines w ++ [[]] := lines_append_break w []
  rw [Entity.lines, h, hlines, List.dropLast_concat]

theorem write_leaf (fields : List Field) (body : List Char) :
    (Entity.leaf fields body).write token =
      (writeFields fields ++ (lineBreak ++ body)) ++ lineBreak := by
  simp only [Entity.write, List.append_assoc]

theorem write_container (kind : Kind) (es : List Entity) :
    (Entity.container kind es).write token =
      ((containerField token kind).write ++ (writeChildren token kind es ++
        (lineBreak ++ closingLine token kind))) ++ lineBreak := by
  simp only [Entity.write, closing, closingLine, delimiterLine, List.append_assoc]

theorem lines_entity (token : List Char) (e : Entity) (s : List Char) :
    Text.lines (e.write token ++ s) = e.lines token ++ Text.lines s := by
  obtain ⟨w, hw⟩ : ∃ w, e.write token = w ++ lineBreak := by
    cases e with
    | leaf fields body => exact ⟨_, write_leaf fields body⟩
    | container kind es => exact ⟨_, write_container kind es⟩
  rw [Entity.lines_of_write hw, hw, List.append_assoc]
  exact lines_append_break w s

theorem lines_leaf (fields : List Field) (body : List Char) :
    (Entity.leaf fields body).lines token = fieldLines fields ++ [] :: Text.lines body := by
  rw [Entity.lines_of_write (write_leaf fields body), lines_writeFields]
  rfl

def childLines (token : List Char) (kind : Kind) (es : List Entity) : List Line :=
  es.flatMap fun e ↦ [] :: delimiterLine token kind :: e.lines token

section

variable (ht : ∀ c ∈ token, InLine c)
include ht

theorem inLine_delimiterLine (kind : Kind) : ∀ c ∈ delimiterLine token kind, InLine c := by
  intro c hc
  rcases List.mem_append.mp hc with hc | hc
  · have hlit : ∀ c ∈ "--".toList, InLine c := by decide
    exact hlit c hc
  · exact forall_mem_boundary (fun _ h ↦ h.inLine) ht kind c hc

theorem inLine_closingLine (kind : Kind) : ∀ c ∈ closingLine token kind, InLine c := by
  intro c hc
  rcases List.mem_append.mp hc with hc | hc
  · exact inLine_delimiterLine ht kind c hc
  · have hlit : ∀ c ∈ "--".toList, InLine c := by decide
    exact hlit c hc

theorem lines_writeChildren (kind : Kind) (es : List Entity) (s : List Char) :
    Text.lines (writeChildren token kind es ++ s) = childLines token kind es ++ Text.lines s := by
  induction es with
  | nil => rfl
  | cons e es ih =>
    have hdelimiter : delimiter token kind ++ e.write token ++ writeChildren token kind es ++ s =
        '\r' :: '\n' :: (delimiterLine token kind ++ '\r' :: '\n' ::
          (e.write token ++ (writeChildren token kind es ++ s))) := by
      simp [delimiter, delimiterLine, lineBreak]
    rw [writeChildren, hdelimiter, Text.lines, lines_append_break,
      lines_of_inLine (inLine_delimiterLine ht kind), lines_entity, ih, childLines, childLines,
      List.flatMap_cons]
    simp

theorem lines_container (kind : Kind) (es : List Entity) :
    (Entity.container kind es).lines token =
      fieldLines [containerField token kind] ++
        (childLines token kind es ++ [[], closingLine token kind]) := by
  have hclosing : Text.lines (lineBreak ++ closingLine token kind) =
      [[], closingLine token kind] := by
    change [] :: Text.lines (closingLine token kind) = _
    rw [lines_of_inLine (inLine_closingLine ht kind)]
  rw [Entity.lines_of_write (write_container kind es), Field.lines_write,
    lines_writeChildren ht, hclosing, fieldLines, List.flatMap_singleton]

end

/-- The reader finds a tree in the lines of an entity, behind the lines of other fields, unless the
entity is a container in one of its own kind. -/
def Reads (token : List Char) (e : Entity) (t : Tree) : Prop :=
  ∀ (before : List Field) (stack : List Frame),
    (∀ f ∈ before, f.Sound InLine ∧ isEncodingField f = false) →
    (∀ frame ∈ stack.head?, e.kind? ≠ some frame.kind) →
    ∃ pending, (fieldLines before ++ e.lines token).foldlM (Reader.step token) ⟨stack, .text []⟩ =
        some ⟨stack, pending⟩ ∧
      (pending.add [[]]).entity? = some (t.behind (before.map Field.unfolded))

theorem Reads.child {e : Entity} {t : Tree} (h : Reads token e t) (stack : List Frame)
    (hs : ∀ frame ∈ stack.head?, e.kind? ≠ some frame.kind) :
    ∃ pending, (e.lines token).foldlM (Reader.step token) ⟨stack, .text []⟩ =
        some ⟨stack, pending⟩ ∧ (pending.add [[]]).entity? = some t := by
  obtain ⟨pending, hlines, ht⟩ := h [] stack (fun _ hf ↦ absurd hf List.not_mem_nil) hs
  rw [fieldLines, List.flatMap_nil, List.nil_append] at hlines
  rw [List.map_nil, Tree.behind_nil] at ht
  exact ⟨pending, hlines, ht⟩

theorem bodyLines?_fieldLines {fs : List Field} (h : ∀ f ∈ fs, f.Sound InLine) (ls : List Line) :
    bodyLines? (fieldLines fs ++ [] :: ls) = some ls := by
  rw [bodyLines?, List.dropWhile_append_of_pos, List.dropWhile_cons_of_neg (by simp)]
  · rfl
  · intro l hl
    obtain ⟨f, hf, hl⟩ := List.mem_flatMap.mp hl
    simpa using (h f hf).line_ne_nil l hl

theorem reads_leaf {fields : List Field} {content : Bytes} {encoding : String} {body : List Char}
    (hf : ∀ f ∈ fields, f.Sound InLine ∧ isEncodingField f = false)
    (he : Encodes content encoding body) :
    Reads token (.leaf (fields ++ [encodingField encoding]) body)
      (.leaf ((fields ++ [encodingField encoding]).map Field.unfolded) content) := by
  intro before stack hb _
  have hname : ∀ c ∈ encoding.toList, InLine c := fun c hc ↦ (he.name c hc).inLine
  have hall : ∀ f ∈ before ++ (fields ++ [encodingField encoding]), f.Sound InLine := by
    simp only [List.forall_mem_append, List.forall_mem_singleton]
    exact ⟨fun f h ↦ (hb f h).1, fun f h ↦ (hf f h).1, sound_encodingField hname⟩
  have hlines : fieldLines before ++
      (Entity.leaf (fields ++ [encodingField encoding]) body).lines token =
        fieldLines (before ++ (fields ++ [encodingField encoding])) ++ [] :: lines body := by
    rw [lines_leaf, fieldLines_append before, List.append_assoc]
  have htext : ∀ l ∈ fieldLines (before ++ (fields ++ [encodingField encoding])) ++
      [] :: lines body, ¬ boundaryMark <+: l := by
    simp only [List.forall_mem_append, List.forall_mem_cons]
    exact ⟨not_boundaryMark_fieldLines hall, not_boundaryMark_nil, he.not_boundaryMark⟩
  refine ⟨_, by rw [hlines, Reader.foldlM_text token htext], ?_⟩
  have hbody := bodyLines?_fieldLines hall (lines body ++ [[]])
  have hfields := readFields_fieldLines hall (lines body ++ [[]])
  have hdecode : decodeBody ((before ++ (fields ++ [encodingField encoding])).map Field.unfolded)
      body = some content := by
    rw [← List.append_assoc, List.map_append, List.map_singleton, unfolded_encodingField hname]
    refine he.decodeBody fun f h ↦ ?_
    obtain ⟨g, hg, rfl⟩ := List.mem_map.mp h
    rcases List.mem_append.mp hg with hg | hg
    · exact (hb g hg).2
    · exact (hf g hg).2
  rw [Pending.add, Pending.add, Pending.entity?, List.nil_append, List.append_assoc,
    List.cons_append, readLeaf, hbody, hfields, Option.bind_eq_bind, Option.bind_some,
    if_pos List.getLast?_concat, List.dropLast_concat, unlines_lines, hdecode, Tree.behind,
    ← List.map_append]
  rfl

namespace Reader

variable {frame : Frame} {stack : List Frame} {pending : Pending} {t : Tree}

theorem step_delimiter (h : pending.entity? = some t) :
    step token ⟨frame :: stack, pending⟩ (delimiterLine token frame.kind) =
      some ⟨{ frame with children := frame.children ++ [t] } :: stack, .text []⟩ := by
  rw [step, mark_eq_delimiter.mpr rfl]
  simp only [if_true, h, Option.map_some]

theorem step_closing (h : pending.entity? = some t) :
    step token ⟨frame :: stack, pending⟩ (closingLine token frame.kind) =
      some ⟨stack, .closed (.container frame.fields frame.kind (frame.children ++ [t])) []⟩ := by
  rw [step, mark_eq_closing.mpr rfl]
  simp only [if_true, h, Option.map_some]

theorem step_open (token : List Char) {ls : List Line} {kind : Kind} (h : bodyLines? ls = some [])
    (hs : ∀ frame ∈ stack.head?, some kind ≠ some frame.kind) :
    step token ⟨stack, .text ls⟩ (delimiterLine token kind) =
      some ⟨⟨readFields ls, kind, []⟩ :: stack, .text []⟩ := by
  have hopen : Reader.open kind ⟨stack, .text ls⟩ =
      some ⟨⟨readFields ls, kind, []⟩ :: stack, .text []⟩ := if_pos h
  rw [step, mark_eq_delimiter.mpr rfl]
  cases stack with
  | nil => exact hopen
  | cons frame stack =>
    have hne : frame.kind ≠ kind := fun he ↦ hs frame rfl (congrArg some he.symm)
    simp only [if_neg hne, hopen]

theorem foldlM_children (frame : Frame) (stack : List Frame) {children : List (Entity × Tree)}
    (hr : ∀ c ∈ children, Reads token c.1 c.2)
    (hk : ∀ c ∈ children, c.1.kind? ≠ some frame.kind)
    (ht : (pending.add [[]]).entity? = some t) :
    (childLines token frame.kind (children.map Prod.fst) ++
        [[], closingLine token frame.kind]).foldlM (step token) ⟨frame :: stack, pending⟩ =
      some ⟨stack, .closed (.container frame.fields frame.kind
        (frame.children ++ t :: children.map Prod.snd)) []⟩ := by
  -- `pending` is the child that ends next; `frame` has those before it, `children` those behind.
  induction children generalizing frame pending t with
  | nil =>
    have hempty := step_text token not_boundaryMark_nil ⟨frame :: stack, pending⟩
    rw [List.map_nil, childLines, List.flatMap_nil, List.nil_append, List.foldlM_cons, hempty,
      Option.bind_eq_bind, Option.bind_some, List.foldlM_cons, step_closing ht]
    rfl
  | cons c children ih =>
    have hempty := step_text token not_boundaryMark_nil ⟨frame :: stack, pending⟩
    obtain ⟨pending', hlines, ht'⟩ := (hr c List.mem_cons_self).child
      ({ frame with children := frame.children ++ [t] } :: stack)
      (by simpa using hk c List.mem_cons_self)
    have hrest := ih { frame with children := frame.children ++ [t] }
      (fun d hd ↦ hr d (List.mem_cons_of_mem c hd))
      (fun d hd ↦ hk d (List.mem_cons_of_mem c hd)) ht'
    have hcons : childLines token frame.kind ((c :: children).map Prod.fst) ++
        [[], closingLine token frame.kind] =
          [] :: delimiterLine token frame.kind :: (c.1.lines token ++
            (childLines token frame.kind (children.map Prod.fst) ++
              [[], closingLine token frame.kind])) := by
      simp [childLines]
    rw [hcons, List.foldlM_cons, hempty, Option.bind_eq_bind, Option.bind_some, List.foldlM_cons,
      step_delimiter ht, Option.bind_eq_bind, Option.bind_some, List.foldlM_append]
    rw [hlines, Option.bind_eq_bind, Option.bind_some, hrest, List.append_assoc, List.map_cons]
    rfl

end Reader

theorem reads_container (ht : ∀ c ∈ token, InLine c) {kind : Kind}
    {children : List (Entity × Tree)} (hne : children ≠ [])
    (hr : ∀ c ∈ children, Reads token c.1 c.2) (hk : ∀ c ∈ children, c.1.kind? ≠ some kind) :
    Reads token (.container kind (children.map Prod.fst))
      (.container [(containerField token kind).unfolded] kind (children.map Prod.snd)) := by
  obtain ⟨c, children, rfl⟩ := List.exists_cons_of_ne_nil hne
  intro before stack hb hs
  have hall : ∀ f ∈ before ++ [containerField token kind], f.Sound InLine := by
    simp only [List.forall_mem_append, List.forall_mem_singleton]
    exact ⟨fun f h ↦ (hb f h).1, sound_containerField (fun _ h ↦ h.inLine) ht kind⟩
  obtain ⟨pending, hfirst, ht₁⟩ := (hr c List.mem_cons_self).child
    (⟨(before ++ [containerField token kind]).map Field.unfolded, kind, []⟩ :: stack)
    (by simpa using hk c List.mem_cons_self)
  have hrest := Reader.foldlM_children
    ⟨(before ++ [containerField token kind]).map Field.unfolded, kind, []⟩ stack
    (fun d hd ↦ hr d (List.mem_cons_of_mem c hd)) (fun d hd ↦ hk d (List.mem_cons_of_mem c hd)) ht₁
  have hlines : fieldLines before ++
      (Entity.container kind ((c :: children).map Prod.fst)).lines token =
        (fieldLines (before ++ [containerField token kind]) ++ [[]]) ++
          delimiterLine token kind :: (c.1.lines token ++
            (childLines token kind (children.map Prod.fst) ++ [[], closingLine token kind])) := by
    rw [lines_container ht, fieldLines_append]
    simp [childLines]
  have htext : ∀ l ∈ fieldLines (before ++ [containerField token kind]) ++ [[]],
      ¬ boundaryMark <+: l := by
    simp only [List.forall_mem_append, List.forall_mem_singleton]
    exact ⟨not_boundaryMark_fieldLines hall, not_boundaryMark_nil⟩
  have hopen := Reader.step_open token (bodyLines?_fieldLines hall [])
    (fun frame hframe ↦ hs frame hframe)
  rw [readFields_fieldLines hall] at hopen
  refine ⟨.closed _ [], ?_, rfl⟩
  rw [hlines, List.foldlM_append, Reader.foldlM_text token htext, Option.bind_eq_bind,
    Option.bind_some, Pending.add, List.nil_append, List.foldlM_cons, hopen, Option.bind_eq_bind,
    Option.bind_some, List.foldlM_append, hfirst, Option.bind_eq_bind, Option.bind_some, hrest,
    List.map_append]
  rfl

theorem Carries.reads (ht : ∀ c ∈ token, InLine c) {e : Entity} {t : Tree}
    (h : Carries InLine token e t) : Reads token e t := by
  induction h with
  | leaf _ hf he => exact reads_leaf hf he
  | container hne _ hk ih => exact reads_container ht hne ih hk

/-- What is written for header fields and an entity behind them is read as the tree of the entity,
with these fields before its own. -/
theorem Carries.readTree (ht : ∀ c ∈ token, InLine c) {e : Entity} {t : Tree}
    (h : Carries InLine token e t) {fields : List Field}
    (hf : ∀ f ∈ fields, f.Sound InLine ∧ isEncodingField f = false) :
    readTree token (writeFields fields ++ e.write token) =
      some (t.behind (fields.map Field.unfolded)) := by
  obtain ⟨pending, hread, htree⟩ := h.reads ht fields [] hf (by simp)
  have hlines : lines (writeFields fields ++ e.write token) =
      (fieldLines fields ++ e.lines token) ++ [[]] := by
    have he := lines_entity token e []
    rw [List.append_nil] at he
    rw [lines_writeFields, he, List.append_assoc]
    rfl
  have hend := Reader.foldlM_text token (List.forall_mem_singleton.mpr not_boundaryMark_nil)
    ⟨[], pending⟩
  have hfold : (lines (writeFields fields ++ e.write token)).foldlM (Reader.step token)
      ⟨[], .text []⟩ = some ⟨[], pending.add [[]]⟩ := by
    rw [hlines, List.foldlM_append, hread, Option.bind_eq_bind, Option.bind_some, hend]
  rw [Wire.readTree, hfold]
  exact htree

end MimeMail.Wire
