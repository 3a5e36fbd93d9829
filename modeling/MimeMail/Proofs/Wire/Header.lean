import MimeMail.Proofs.Wire.Boundary
import MimeMail.Wire.Layout

namespace MimeMail

open Text

namespace Wire

def beginsBlank (l : Line) : Bool :=
  l.head?.any fun c ↦ decide (IsBlank c)

/-- Joins every line that begins with a blank to the one before. -/
def unfoldLines : List Line → List Line
  | [] => []
  | l :: ls =>
    match unfoldLines ls with
    | k :: ks => if beginsBlank k then (l ++ k) :: ks else l :: k :: ks
    | [] => [l]

def readField (l : Line) : Field where
  name := String.ofList (l.takeWhile (· != ':'))
  value := (l.dropWhile (· != ':')).drop 2

/-- The fields of the header section that lines begin with. -/
def readFields (ls : List Line) : List Field :=
  (unfoldLines (ls.takeWhile fun l ↦ !l.isEmpty)).map readField

end Wire

namespace Field

def isName (name : String) : Bool :=
  name.toList.head?.any Char.isAlpha && name.toList.all fun c ↦ decide (Printable c ∧ c ≠ ':')

structure Sound (p : Char → Prop) (f : Field) : Prop where
  name : isName f.name = true
  value : Folded p f.value

def text (f : Field) : List Char :=
  f.name.toList ++ ": ".toList ++ f.value

def unfolded (f : Field) : Field :=
  { f with value := deleteBreaks f.value }

variable {p : Char → Prop} {f : Field}

theorem unfolded_of_inLine (h : ∀ c ∈ f.value, InLine c) : f.unfolded = f := by
  have hvalue := deleteBreaks_append h []
  rw [List.append_nil, deleteBreaks, List.append_nil] at hvalue
  rw [unfolded, hvalue]

theorem Sound.head_name (h : f.Sound p) : f.name.toList.head?.any Char.isAlpha = true :=
  (Bool.and_eq_true_iff.mp h.name).1

theorem Sound.mem_name (h : f.Sound p) {c : Char} (hc : c ∈ f.name.toList) :
    Printable c ∧ c ≠ ':' :=
  of_decide_eq_true (List.all_eq_true.mp (Bool.and_eq_true_iff.mp h.name).2 c hc)

theorem write_eq (f : Field) : f.write = f.text ++ Wire.lineBreak :=
  rfl

theorem lines_write (f : Field) (s : List Char) :
    lines (f.write ++ s) = lines f.text ++ lines s := by
  rw [write_eq, List.append_assoc]
  exact lines_append_break f.text s

theorem Sound.folded_text (hp : ∀ c, Printable c → p c) (h : f.Sound p) : Folded p f.text := by
  have hcolon : Folded p ": ".toList := .of_forall fun c hc ↦ hp c (by revert c; decide)
  exact (Folded.append (.of_forall fun c hc ↦ hp c (h.mem_name hc).1) hcolon).append h.value

theorem Sound.lines_text (h : f.Sound InLine) :
    ∃ c l ls, lines f.text = (c :: l) :: ls ∧ c.isAlpha = true ∧
      ∀ k ∈ ls, Wire.beginsBlank k = true := by
  obtain ⟨c, name, hname⟩ : ∃ c name, f.name.toList = c :: name := by
    cases hn : f.name.toList with
    | nil => exact absurd h.head_name (by rw [hn]; decide)
    | cons c name => exact ⟨c, name, rfl⟩
  have hc : c.isAlpha = true := by
    have hhead := h.head_name
    rwa [hname] at hhead
  have htail := (h.folded_text fun _ hc ↦ hc.inLine).tail_lines fun _ hc ↦ hc
  have htext : f.text = c :: (name ++ ": ".toList ++ f.value) := by
    rw [text, hname]
    rfl
  have hcr : c ≠ '\r' := by
    rintro rfl
    exact absurd hc (by decide)
  rw [htext, lines_cons hcr] at htail ⊢
  cases hl : lines (name ++ ": ".toList ++ f.value) with
  | nil => exact absurd hl (lines_ne_nil _)
  | cons l ls =>
    refine ⟨c, l, ls, rfl, hc, fun k hk ↦ ?_⟩
    obtain ⟨b, hb, hkb⟩ := htail k (by rw [hl]; exact hk)
    rw [Wire.beginsBlank, hkb]
    exact decide_eq_true hb

theorem Sound.line_ne_nil (h : f.Sound InLine) : ∀ l ∈ lines f.text, l ≠ [] := by
  obtain ⟨c, l, ls, hl, -, hls⟩ := h.lines_text
  rw [hl]
  intro k hk
  rcases List.mem_cons.mp hk with rfl | hk
  · exact List.cons_ne_nil c l
  · rintro rfl
    exact absurd (hls [] hk) (by decide)

theorem Sound.deleteBreaks_text (h : f.Sound InLine) :
    deleteBreaks f.text = f.name.toList ++ ": ".toList ++ f.unfolded.value := by
  refine deleteBreaks_append (fun c hc ↦ ?_) f.value
  rcases List.mem_append.mp hc with hc | hc
  · exact (h.mem_name hc).1.inLine
  · have hcolon : ∀ c ∈ ": ".toList, InLine c := by decide
    exact hcolon c hc

theorem Sound.readField_text (h : f.Sound InLine) :
    Wire.readField (deleteBreaks f.text) = f.unfolded := by
  have hname : ∀ c ∈ f.name.toList, (c != ':') = true := fun c hc ↦ bne_iff_ne.mpr (h.mem_name hc).2
  rw [h.deleteBreaks_text, Wire.readField, List.append_assoc, List.takeWhile_append_of_pos hname,
    List.dropWhile_append_of_pos hname]
  simp [unfolded]

end Field

namespace Wire

def fieldLines (fs : List Field) : List Line :=
  fs.flatMap fun f ↦ lines f.text

theorem lines_writeFields (fs : List Field) (s : List Char) :
    lines (writeFields fs ++ s) = fieldLines fs ++ lines s := by
  induction fs with
  | nil => rfl
  | cons f fs ih =>
    rw [writeFields, List.flatMap_cons, List.append_assoc, f.lines_write]
    rw [writeFields] at ih
    rw [ih, fieldLines, fieldLines, List.flatMap_cons, List.append_assoc]

theorem fieldLines_append (fs gs : List Field) :
    fieldLines (fs ++ gs) = fieldLines fs ++ fieldLines gs :=
  List.flatMap_append

theorem beginsBlank_append {k : Line} (h : beginsBlank k = true) (l : Line) :
    beginsBlank (k ++ l) = true := by
  cases k with
  | nil => exact absurd h (by decide)
  | cons c k => exact h

theorem unfoldLines_append {l : Line} {ls rest : List Line}
    (hls : ∀ k ∈ ls, beginsBlank k = true)
    (hrest : ∀ k ∈ (unfoldLines rest).head?, beginsBlank k = false) :
    unfoldLines (l :: ls ++ rest) = (l ++ ls.flatten) :: unfoldLines rest := by
  induction ls generalizing l with
  | nil =>
    rw [List.cons_append, List.nil_append, unfoldLines, List.flatten_nil, List.append_nil]
    cases hk : unfoldLines rest with
    | nil => rfl
    | cons k ks =>
      rw [hk] at hrest
      simp [hrest k rfl]
  | cons k ks ih =>
    have hk := ih (l := k) fun j hj ↦ hls j (List.mem_cons_of_mem k hj)
    have hblank := beginsBlank_append (hls k List.mem_cons_self) ks.flatten
    rw [List.cons_append, unfoldLines, hk]
    simp only [hblank, if_true, List.flatten_cons]

theorem unfoldLines_fieldLines {fs : List Field} (h : ∀ f ∈ fs, f.Sound InLine) :
    unfoldLines (fieldLines fs) = fs.map fun f ↦ deleteBreaks f.text := by
  induction fs with
  | nil => rfl
  | cons f fs ih =>
    have hfs := ih fun g hg ↦ h g (List.mem_cons_of_mem f hg)
    obtain ⟨c, l, ls, hl, -, hls⟩ := (h f List.mem_cons_self).lines_text
    have hflat : c :: l ++ ls.flatten = deleteBreaks f.text := by
      rw [← flatten_lines, hl, List.flatten_cons]
    rw [fieldLines, List.flatMap_cons, hl]
    rw [fieldLines] at hfs
    rw [unfoldLines_append hls, hfs, hflat, List.map_cons]
    -- The next field begins with a letter, and so is not taken for a continuation.
    rw [hfs]
    intro k hk
    cases fs with
    | nil => cases hk
    | cons g gs =>
      obtain rfl : deleteBreaks g.text = k := Option.some.inj hk
      obtain ⟨d, l, ls, hl, hd, -⟩ := (h g (by simp)).lines_text
      rw [← flatten_lines, hl]
      refine decide_eq_false ?_
      rintro (rfl | rfl) <;> exact absurd hd (by decide)

theorem takeWhile_fieldLines {fs : List Field} (h : ∀ f ∈ fs, f.Sound InLine) (ls : List Line) :
    (fieldLines fs ++ [] :: ls).takeWhile (fun l ↦ !l.isEmpty) = fieldLines fs := by
  rw [List.takeWhile_append_of_pos, List.takeWhile_cons_of_neg (by simp), List.append_nil]
  intro l hl
  obtain ⟨f, hf, hl⟩ := List.mem_flatMap.mp hl
  simpa using (h f hf).line_ne_nil l hl

/-- Fields read back without their folds, whatever follows their section. -/
theorem readFields_fieldLines {fs : List Field} (h : ∀ f ∈ fs, f.Sound InLine) (ls : List Line) :
    readFields (fieldLines fs ++ [] :: ls) = fs.map Field.unfolded := by
  rw [readFields, takeWhile_fieldLines h, unfoldLines_fieldLines h, List.map_map]
  exact List.map_congr_left fun f hf ↦ (h f hf).readField_text

theorem sound_typeField {p : Char → Prop} {contentType : String}
    (h : ∀ c ∈ contentType.toList, p c) :
    (typeField contentType).Sound p :=
  ⟨(by decide : Field.isName "Content-Type" = true), .of_forall h⟩

theorem sound_encodingField {p : Char → Prop} {encoding : String} (h : ∀ c ∈ encoding.toList, p c) :
    (encodingField encoding).Sound p :=
  ⟨(by decide : Field.isName "Content-Transfer-Encoding" = true), .of_forall h⟩

theorem unfolded_encodingField {encoding : String} (h : ∀ c ∈ encoding.toList, InLine c) :
    (encodingField encoding).unfolded = encodingField encoding :=
  Field.unfolded_of_inLine h

theorem sound_containerField {p : Char → Prop} (hp : ∀ c, Printable c → p c) {token : List Char}
    (h : ∀ c ∈ token, p c) (kind : Kind) : (containerField token kind).Sound p := by
  have hlit {s : List Char} (hs : ∀ c ∈ s, Printable c) : Folded p s :=
    .of_forall fun c hc ↦ hp c (hs c hc)
  have hsubtype : Folded p kind.subtype.toList := by
    cases kind with
    | mixed => exact hlit (s := "mixed".toList) (by decide)
    | alternative => exact hlit (s := "alternative".toList) (by decide)
    | related _ => exact hlit (s := "related".toList) (by decide)
  have hparameter : Folded p ";\r\n\tboundary=\"".toList :=
    .char (hp _ (by decide)) (.fold (.inr rfl) (hlit (s := "boundary=\"".toList) (by decide)))
  exact ⟨(by decide : Field.isName "Content-Type" = true),
    ((((hlit (s := "multipart/".toList) (by decide)).append hsubtype).append hparameter).append
      (.of_forall (forall_mem_boundary hp h kind))).append (hlit (s := ['"']) (by decide))⟩

end Wire

end MimeMail
