import MimeMail.Html.Pass
import MimeMail.Proofs.Html.Letter
import MimeMail.Proofs.Text.Cut
import MimeMail.Proofs.Text.Replace

namespace MimeMail.Html

open Text

/-- The kinds of elements whose content is not shown. -/
inductive Hidden where
  | head
  | style
  | script
  deriving DecidableEq

namespace Hidden

def name : Hidden → List Char
  | head => "head".toList
  | style => "style".toList
  | script => "script".toList

def openingTag (k : Hidden) : List Char :=
  '<' :: k.name

def closingTag (k : Hidden) : List Char :=
  '<' :: '/' :: (k.name ++ ['>'])

end Hidden

/-- Text on a line in which no hidden element begins or ends. -/
structure Prose where
  chars : List Char
  inLine : '\n' ∉ chars
  /-- The name of an opening tag goes on with a letter, so that it is another one. -/
  not_opened : ∀ k before after, chars.map foldCase = before ++ Hidden.openingTag k ++ after →
    ∃ c ∈ after.head?, 'a' ≤ c ∧ c ≤ 'z'
  not_closed : ∀ k : Hidden, ¬ k.closingTag <:+: chars.map foldCase

/-- A hidden element on a line, its tags written in any case. -/
structure Block where
  kind : Hidden
  opening : List Char
  attributes : List Char
  content : List Char
  closing : List Char
  opening_eq : opening.map foldCase = kind.name
  closing_eq : closing.map foldCase = kind.name
  attributes_head : ∀ c ∈ attributes.head?, isLetter c = false
  attributes_inLine : '\n' ∉ attributes
  content_inLine : '\n' ∉ content
  /-- An element of another kind before this one is not closed within it. -/
  not_closed : ∀ k ≠ kind, ¬ k.closingTag <:+: (attributes ++ '>' :: content).map foldCase

namespace Block

def front (b : Block) : List Char :=
  '<' :: (b.opening ++ b.attributes ++ '>' :: b.content)

def closingTag (b : Block) : List Char :=
  '<' :: '/' :: (b.closing ++ ['>'])

def markup (b : Block) : List Char :=
  b.front ++ b.closingTag

end Block

def pieces (blocks : List (Block × Prose)) : List Char :=
  blocks.flatMap fun (b, v) ↦ b.markup ++ v.chars

def kinds (blocks : List (Block × Prose)) : List Hidden :=
  blocks.map (·.1.kind)

def texts (blocks : List (Block × Prose)) : List Char :=
  blocks.flatMap (·.2.chars)

/-- The text that stays of that behind elements, where one of kind `open?` is being dropped. -/
def shown : Option Hidden → List (Block × Prose) → List Char
  | _, [] => []
  | open?, (b, v) :: rest =>
    let k := open?.getD b.kind
    if k ∈ kinds rest then shown (some k) rest else v.chars ++ shown none rest

@[simp] theorem kinds_cons (x : Block × Prose) (rest : List (Block × Prose)) :
    kinds (x :: rest) = x.1.kind :: kinds rest :=
  rfl

@[simp] theorem texts_cons (x : Block × Prose) (rest : List (Block × Prose)) :
    texts (x :: rest) = x.2.chars ++ texts rest :=
  List.flatMap_cons

theorem exists_of_dropWord? {w s t rest : List Char} (hs : s ≠ []) (hw : '<' ∉ w)
    (ht : ∀ c ∈ t.head?, c = '<') (h : dropWord? ('<' :: w) (s ++ t) = some rest) :
    ∃ u after, s = u ++ after ∧ rest = after ++ t ∧ u.map foldCase = '<' :: w := by
  obtain ⟨u, heq, hu⟩ := dropWord?_eq_some_iff.mp h
  rcases List.append_eq_append_iff.mp heq with ⟨more, rfl, hrest⟩ | ⟨after, hafter, hrest⟩
  · cases more with
    | nil => exact ⟨s, [], by simp, by simp [hrest], by simpa using hu⟩
    | cons c more =>
      obtain ⟨d, s, rfl⟩ := List.exists_cons_of_ne_nil hs
      obtain rfl : c = '<' := ht c (by simp [hrest])
      rw [List.cons_append, List.map_cons] at hu
      have hmem : '<' ∈ w := by
        rw [← (List.cons.inj hu).2, mem_map_foldCase (by decide)]
        simp
      exact absurd hmem hw
  · exact ⟨u, after, hafter, hrest, hu⟩

namespace Hidden

variable (k : Hidden)

theorem bracket_not_mem_name : '<' ∉ k.name := by
  cases k <;> decide

theorem bracket_not_mem_closing : '<' ∉ '/' :: (k.name ++ ['>']) := by
  cases k <;> decide

theorem not_name_lead {k k' : Hidden} (h : k ≠ k') (t : List Char) :
    ¬ k.name <+: k'.name ++ t := by
  rintro ⟨u, hu⟩
  have hlength (k : Hidden) : 2 ≤ k.name.length := by cases k <;> decide
  have htake := congrArg (List.take 2) hu
  rw [List.take_append_of_le_length (hlength k),
    List.take_append_of_le_length (hlength k')] at htake
  revert h htake
  cases k <;> cases k' <;> decide

theorem not_slash_lead (u t : List Char) : ¬ '/' :: u <+: k.name ++ t := by
  rintro ⟨v, hv⟩
  cases k <;> exact absurd (List.cons.inj hv).1 (by decide)

theorem declines_closingTag {s t : List Char} (hs : ¬ k.closingTag <:+: s.map foldCase)
    (ht : ∀ c ∈ t.head?, c = '<') : Declines (dropWord? k.closingTag) s t := by
  refine declines_iff.mpr fun v hv hne ↦ ?_
  rw [Option.eq_none_iff_forall_ne_some]
  intro rest h
  obtain ⟨u, after, rfl, -, hu⟩ := exists_of_dropWord? hne k.bracket_not_mem_closing ht h
  have hlead : k.closingTag <+: (u ++ after).map foldCase :=
    ⟨after.map foldCase, by rw [List.map_append, hu]; rfl⟩
  exact hs (hlead.isInfix.trans (hv.map foldCase).isInfix)

abbrev element? (s : List Char) : Option (List Char) :=
  Html.element? k.openingTag k.closingTag s

theorem invisible_of_none {s : List Char} (h : ∀ k : Hidden, k.element? s = none) :
    invisible s = none := by
  have hhead : Html.element? "<head".toList "</head>".toList s = none := h head
  have hstyle : Html.element? "<style".toList "</style>".toList s = none := h style
  have hscript : Html.element? "<script".toList "</script>".toList s = none := h script
  rw [invisible, hhead, hstyle, hscript]
  rfl

theorem invisible_of_some {s rest : List Char} (hk : k.element? s = some rest)
    (h : ∀ k' ≠ k, k'.element? s = none) (hlt : rest.length < s.length) :
    invisible s = some ⟨[], rest, hlt⟩ := by
  have hall (k' : Hidden) : k'.element? s = if k' = k then some rest else none := by
    split
    · rename_i heq
      rw [heq, hk]
    · exact h k' ‹_›
  have hhead : Html.element? "<head".toList "</head>".toList s = _ := hall head
  have hstyle : Html.element? "<style".toList "</style>".toList s = _ := hall style
  have hscript : Html.element? "<script".toList "</script>".toList s = _ := hall script
  rw [invisible, hhead, hstyle, hscript]
  cases k <;> simp [Match.of?, hlt]

end Hidden

namespace Prose

variable (v : Prose) {t : List Char}

theorem declines_invisible (ht : ∀ c ∈ t.head?, c = '<') : Declines invisible v.chars t := by
  refine declines_iff.mpr fun w hw hne ↦ Hidden.invisible_of_none fun k ↦ ?_
  obtain ⟨before, hbefore⟩ := hw
  rw [Hidden.element?, element?]
  cases hdrop : dropWord? k.openingTag (w ++ t) with
  | none => rfl
  | some rest =>
    obtain ⟨u, after, rfl, rfl, hu⟩ := exists_of_dropWord? hne k.bracket_not_mem_name ht hdrop
    obtain ⟨c, hc, hlower⟩ := v.not_opened k (before.map foldCase) (after.map foldCase)
      (by rw [← hbefore, List.map_append, List.map_append, hu, List.append_assoc]; rfl)
    cases after with
    | nil => exact absurd hc (by simp)
    | cons d after =>
      obtain rfl : foldCase d = c := by simpa using hc
      have hletter : isLetter d = true := by simpa [isLetter] using hlower
      simp [hletter]

theorem declines_closingTag (k : Hidden) (ht : ∀ c ∈ t.head?, c = '<') :
    Declines (dropWord? k.closingTag) v.chars t :=
  k.declines_closingTag (v.not_closed k) ht

end Prose

namespace Block

variable (b : Block) {k : Hidden} {t : List Char}

theorem bracket_not_mem_opening : '<' ∉ b.opening := by
  rw [← mem_map_foldCase (by decide), b.opening_eq]
  exact b.kind.bracket_not_mem_name

theorem bracket_not_mem_closing : '<' ∉ '/' :: (b.closing ++ ['>']) := by
  have hclosing : '<' ∉ b.closing := by
    rw [← mem_map_foldCase (by decide), b.closing_eq]
    exact b.kind.bracket_not_mem_name
  simpa using hclosing

theorem element?_front_of_ne (hk : k ≠ b.kind) : k.element? (b.front ++ t) = none := by
  have hdrop : dropWord? k.openingTag (b.front ++ t) = none := by
    rw [dropWord?_eq_none_iff, front]
    simp only [Hidden.openingTag, List.cons_append, List.append_assoc, List.map_cons,
      List.map_append, b.opening_eq, List.cons_prefix_cons]
    exact fun h ↦ Hidden.not_name_lead hk _ h.2
  rw [Hidden.element?, element?, hdrop]
  rfl

theorem element?_front {rest : List Char}
    (h : behindLastOnLine? b.kind.closingTag t = some rest) :
    b.kind.element? (b.front ++ t) = some rest := by
  -- The opening tag is closed by the first character behind its name, whatever it is.
  obtain ⟨c, s, heq, hc, hs⟩ : ∃ c s, b.attributes ++ '>' :: b.content = c :: s ∧
      isLetter c = false ∧ '\n' ∉ s := by
    have hattributes := b.attributes_inLine
    have hhead := b.attributes_head
    cases hattr : b.attributes with
    | nil => exact ⟨'>', b.content, rfl, by decide, b.content_inLine⟩
    | cons c s =>
      rw [hattr] at hattributes hhead
      refine ⟨c, s ++ '>' :: b.content, rfl, hhead c rfl, ?_⟩
      simpa [b.content_inLine] using List.not_mem_of_not_mem_cons hattributes
  have hfront : b.front ++ t = ('<' :: b.opening) ++ (c :: (s ++ t)) := by
    rw [front, List.append_assoc, heq]
    simp
  have hdrop : dropWord? b.kind.openingTag (b.front ++ t) = some (c :: (s ++ t)) := by
    rw [hfront]
    exact dropWord?_append (by rw [List.map_cons, b.opening_eq]; rfl) _
  have hrest : behindLastOnLine? b.kind.closingTag (s ++ t) = some rest :=
    greedy_append_of_some (bne_of_not_mem hs) h
  rw [Hidden.element?, element?, hdrop]
  simpa [hc] using hrest

theorem declines_closingTag (hk : k ≠ b.kind) : Declines (dropWord? k.closingTag) b.markup t := by
  have hbracket : k.closingTag.head? = some '<' := rfl
  have hstart : Declines (dropWord? k.closingTag) ('<' :: b.opening)
      (b.attributes ++ '>' :: b.content ++ b.closingTag ++ t) := by
    refine ⟨?_, declines_of_bracket_not_mem hbracket b.bracket_not_mem_opening⟩
    rw [dropWord?_eq_none_iff]
    simp only [Hidden.closingTag, List.map_cons, List.map_append, b.opening_eq,
      List.cons_prefix_cons]
    exact fun h ↦ Hidden.not_slash_lead _ _ _ h.2
  have hinner : Declines (dropWord? k.closingTag) (b.attributes ++ '>' :: b.content)
      (b.closingTag ++ t) :=
    k.declines_closingTag (b.not_closed k hk) (by simp [closingTag])
  have hclosing : Declines (dropWord? k.closingTag) b.closingTag t := by
    refine ⟨?_, declines_of_bracket_not_mem hbracket b.bracket_not_mem_closing⟩
    rw [dropWord?_eq_none_iff]
    simp only [Hidden.closingTag, List.cons_append, List.map_cons, List.map_append, b.closing_eq,
      List.append_assoc, List.cons_prefix_cons]
    exact fun h ↦ Hidden.not_name_lead hk _ ((List.prefix_append _ _).trans h.2.2)
  have hmarkup : b.markup =
      ('<' :: b.opening) ++ (b.attributes ++ '>' :: b.content) ++ b.closingTag := by
    simp [markup, front]
  rw [hmarkup, declines_append, declines_append]
  simp only [List.append_assoc] at hstart hinner ⊢
  exact ⟨⟨hstart, hinner⟩, hclosing⟩

theorem not_mem_of_map_eq_name {s : List Char} (hs : s.map foldCase = k.name) : '\n' ∉ s := by
  intro hmem
  have hname : foldCase '\n' ∈ k.name := hs ▸ List.mem_map_of_mem hmem
  revert hname
  cases k <;> decide

theorem front_inLine : '\n' ∉ b.front := by
  simp [front, b.attributes_inLine, b.content_inLine, not_mem_of_map_eq_name b.opening_eq]

theorem closingTag_inLine : '\n' ∉ b.closingTag := by
  simp [closingTag, not_mem_of_map_eq_name b.closing_eq]

end Block

section Pieces

variable {k : Hidden} {blocks rest : List (Block × Prose)} (b : Block) (v : Prose)

theorem pieces_cons :
    pieces ((b, v) :: rest) = b.markup ++ (v.chars ++ pieces rest) := by
  simp [pieces]

theorem pieces_append (blocks rest : List (Block × Prose)) :
    pieces (blocks ++ rest) = pieces blocks ++ pieces rest :=
  List.flatMap_append

theorem pieces_head : ∀ c ∈ (pieces blocks).head?, c = '<' := by
  cases blocks with
  | nil => simp [pieces]
  | cons x rest => simp [pieces, Block.markup, Block.front]

theorem pieces_inLine : '\n' ∉ pieces blocks := by
  intro hmem
  obtain ⟨⟨b, v⟩, -, hmem⟩ := List.mem_flatMap.mp hmem
  simp only [Block.markup, List.mem_append] at hmem
  rcases hmem with (hmem | hmem) | hmem
  · exact b.front_inLine hmem
  · exact b.closingTag_inLine hmem
  · exact v.inLine hmem

theorem declines_pieces (h : k ∉ kinds blocks) :
    Declines (dropWord? k.closingTag) (v.chars ++ pieces blocks) [] := by
  induction blocks generalizing v with
  | nil => simpa [pieces] using v.declines_closingTag k (t := []) (by simp)
  | cons x rest ih =>
    obtain ⟨b, v'⟩ := x
    obtain ⟨hk, hrest⟩ : k ≠ b.kind ∧ k ∉ kinds rest := by simpa using h
    rw [declines_append, List.append_nil]
    refine ⟨v.declines_closingTag k pieces_head, ?_⟩
    rw [pieces_cons, declines_append]
    exact ⟨b.declines_closingTag hk, ih v' hrest⟩

theorem behindLastOnLine?_last (h : b.kind ∉ kinds rest) :
    behindLastOnLine? b.kind.closingTag (b.closingTag ++ (v.chars ++ pieces rest)) =
      some (v.chars ++ pieces rest) := by
  have hinLine : '\n' ∉ b.closingTag ++ (v.chars ++ pieces rest) := by
    simp [b.closingTag_inLine, v.inLine, pieces_inLine]
  have hdeclines := declines_append.mpr
    ⟨declines_of_bracket_not_mem rfl b.bracket_not_mem_closing, declines_pieces v h⟩
  refine greedy_cons_of_declines (bne_of_not_mem hinLine) hdeclines rfl
    (dropWord?_append (u := b.closingTag) ?_ _)
  simp only [Block.closingTag, List.map_cons, List.map_append, b.closing_eq]
  rfl

theorem exists_last (blocks : List (Block × Prose)) (h : k ∈ kinds blocks) : ∃ before b v after,
    blocks = before ++ (b, v) :: after ∧ b.kind = k ∧ k ∉ kinds after := by
  induction blocks with
  | nil => exact absurd h (by simp [kinds])
  | cons x rest ih =>
    by_cases hrest : k ∈ kinds rest
    · obtain ⟨before, b, v, after, rfl, hb, hafter⟩ := ih hrest
      exact ⟨x :: before, b, v, after, rfl, hb, hafter⟩
    · obtain ⟨b, v⟩ := x
      have hk : k = b.kind := by
        rcases List.mem_cons.mp h with hk | hmem
        · exact hk
        · exact absurd hmem hrest
      exact ⟨[], b, v, rest, rfl, hk.symm, hrest⟩

/-- All up to the last element of a kind is dropped with the first one. -/
theorem element?_pieces {before after : List (Block × Prose)} {b' : Block} {v' : Prose}
    (heq : (b, v) :: rest = before ++ (b', v') :: after) (hkind : b'.kind = b.kind)
    (hlast : b.kind ∉ kinds after) :
    b.kind.element? (pieces ((b, v) :: rest)) = some (v'.chars ++ pieces after) := by
  rw [pieces_cons, Block.markup, List.append_assoc]
  refine b.element?_front ?_
  have hbehind := behindLastOnLine?_last b' v' (hkind ▸ hlast)
  rw [hkind] at hbehind
  cases before with
  | nil =>
    obtain ⟨hx, rfl⟩ := List.cons.inj heq
    obtain ⟨rfl, rfl⟩ := Prod.mk.inj hx
    exact hbehind
  | cons x before =>
    obtain ⟨rfl, rfl⟩ := List.cons.inj heq
    have hinLine : '\n' ∉ b.closingTag ++ v.chars ++ pieces before ++ b'.front := by
      simp [b.closingTag_inLine, v.inLine, pieces_inLine, b'.front_inLine]
    rw [List.append_eq, pieces_append, pieces_cons, Block.markup]
    simpa [behindLastOnLine?] using greedy_append_of_some (bne_of_not_mem hinLine) hbehind

theorem shown_last (before : List (Block × Prose)) {after : List (Block × Prose)}
    (h : b.kind ∉ kinds after) :
    shown (some b.kind) (before ++ (b, v) :: after) = v.chars ++ shown none after := by
  induction before with
  | nil => simp [shown, h]
  | cons x before ih =>
    have hmem : b.kind ∈ kinds (before ++ (b, v) :: after) := by simp [kinds]
    simp [shown, hmem, ih]

end Pieces

theorem dropInvisible_pieces (blocks : List (Block × Prose)) :
    dropInvisible (pieces blocks) = shown none blocks := by
  match blocks with
  | [] => simp [pieces, shown, dropInvisible]
  | (b, v) :: rest =>
    obtain ⟨before, b', v', after, heq, hkind, hlast⟩ :=
      exists_last ((b, v) :: rest) (List.mem_cons_self (a := b.kind))
    have hfewer : after.length < ((b, v) :: rest).length := by
      simp only [heq, List.length_append, List.length_cons]
      omega
    have ih := dropInvisible_pieces after
    have hother : ∀ k ≠ b.kind, k.element? (pieces ((b, v) :: rest)) = none := by
      intro k hk
      rw [pieces_cons, Block.markup, List.append_assoc]
      exact b.element?_front_of_ne hk
    have hshorter : (v'.chars ++ pieces after).length < (pieces ((b, v) :: rest)).length := by
      simp only [heq, pieces_append, pieces_cons, Block.markup, Block.closingTag,
        List.length_append, List.length_cons]
      omega
    have hinvisible :=
      b.kind.invisible_of_some (element?_pieces b v heq hkind hlast) hother hshorter
    have hdrop : dropInvisible (pieces ((b, v) :: rest)) =
        dropInvisible (v'.chars ++ pieces after) :=
      Rule.apply_of_some hinvisible
    have hshown : shown none ((b, v) :: rest) = v'.chars ++ shown none after := by
      rw [← hkind] at hlast
      rw [← shown_last b' v' before hlast, ← heq, hkind]
      rfl
    rw [hdrop, hshown, ← ih]
    exact Rule.apply_append_of_declines (v'.declines_invisible pieces_head)
termination_by blocks.length
decreasing_by exact hfewer

/-- No two elements of one kind hide the text between them. -/
theorem shown_of_nodup {blocks : List (Block × Prose)} (h : (kinds blocks).Nodup) :
    shown none blocks = texts blocks := by
  induction blocks with
  | nil => rfl
  | cons x rest ih =>
    rw [kinds_cons, List.nodup_cons] at h
    simp [shown, h.1, ih h.2]

theorem length_shown_le (open? : Option Hidden) (blocks : List (Block × Prose)) :
    (shown open? blocks).length ≤ (texts blocks).length := by
  induction blocks generalizing open? with
  | nil => simp [shown]
  | cons x rest ih =>
    have hskip := ih (some (open?.getD x.1.kind))
    have hkeep := ih none
    rw [shown]
    split <;> simp only [texts_cons, List.length_append] <;> omega

theorem nodup_of_shown {blocks : List (Block × Prose)} (hne : ∀ x ∈ blocks, x.2.chars ≠ [])
    (h : shown none blocks = texts blocks) : (kinds blocks).Nodup := by
  induction blocks with
  | nil => exact List.nodup_nil
  | cons x rest ih =>
    obtain ⟨hx, hrest⟩ := List.forall_mem_cons.mp hne
    by_cases hmem : x.1.kind ∈ kinds rest
    · have hshown : shown none (x :: rest) = shown (some x.1.kind) rest := by
        simp [shown, hmem]
      have hle := length_shown_le (some x.1.kind) rest
      have hpos := List.length_pos_iff.mpr hx
      rw [← hshown, h, texts_cons, List.length_append] at hle
      omega
    · have htail : shown none rest = texts rest := by
        simpa [shown, hmem] using h
      exact List.nodup_cons.mpr ⟨hmem, ih hrest htail⟩

theorem dropInvisible_line (start : Prose) (blocks : List (Block × Prose)) :
    dropInvisible (start.chars ++ pieces blocks) = start.chars ++ shown none blocks := by
  rw [← dropInvisible_pieces]
  exact Rule.apply_append_of_declines (start.declines_invisible pieces_head)

/-- Each element is dropped with all up to the last one of its kind on the line. So all text between
the elements stays if their kinds differ, and only then where each has some text behind it. -/
theorem hidden_dropped_to_last (start : Prose) (blocks : List (Block × Prose)) :
    dropInvisible (start.chars ++ pieces blocks) = start.chars ++ shown none blocks ∧
    ((kinds blocks).Nodup → dropInvisible (start.chars ++ pieces blocks) =
      start.chars ++ texts blocks) ∧
    ((∀ x ∈ blocks, x.2.chars ≠ []) → dropInvisible (start.chars ++ pieces blocks) =
      start.chars ++ texts blocks → (kinds blocks).Nodup) := by
  have hdrop := dropInvisible_line start blocks
  refine ⟨hdrop, fun hnodup ↦ ?_, fun hne heq ↦ ?_⟩
  · rw [hdrop, shown_of_nodup hnodup]
  · rw [hdrop] at heq
    exact nodup_of_shown hne (List.append_cancel_left heq)

theorem not_infix_of_bracket_not_mem (k : Hidden) {s : List Char} (h : '<' ∉ s) :
    ¬ k.closingTag <:+: s.map foldCase :=
  fun hword ↦ h ((mem_map_foldCase (by decide)).mp (hword.subset List.mem_cons_self))

def Prose.plain (s : List Char) (hline : '\n' ∉ s) (hbracket : '<' ∉ s) : Prose where
  chars := s
  inLine := hline
  not_opened k before after heq :=
    absurd ((mem_map_foldCase (by decide)).mp (heq ▸ by simp [Hidden.openingTag])) hbracket
  not_closed k := not_infix_of_bracket_not_mem k hbracket

def Block.plain (k : Hidden) (content : List Char) (hline : '\n' ∉ content)
    (hbracket : '<' ∉ content) : Block where
  kind := k
  opening := k.name
  attributes := []
  content := content
  closing := k.name
  opening_eq := by cases k <;> decide
  closing_eq := by cases k <;> decide
  attributes_head := by simp
  attributes_inLine := by simp
  content_inLine := hline
  not_closed k _ := not_infix_of_bracket_not_mem k (by simpa using hbracket)

def styleAndScript : List (Block × Prose) :=
  [(.plain .style "x".toList (by decide) (by decide), .plain "b".toList (by decide) (by decide)),
    (.plain .script "y".toList (by decide) (by decide), .plain "c".toList (by decide) (by decide))]

def twoStyles : List (Block × Prose) :=
  [(.plain .style "x".toList (by decide) (by decide), .plain "b".toList (by decide) (by decide)),
    (.plain .style "y".toList (by decide) (by decide), .plain "c".toList (by decide) (by decide))]

def lead : Prose :=
  .plain "a".toList (by decide) (by decide)

theorem styleAndScript_dropped :
    (kinds styleAndScript).Nodup ∧ (∀ x ∈ styleAndScript, x.2.chars ≠ []) ∧
      dropInvisible (lead.chars ++ pieces styleAndScript) = "abc".toList :=
  ⟨by decide, by decide, (hidden_dropped_to_last lead styleAndScript).2.1 (by decide)⟩

theorem twoStyles_lose_text :
    dropInvisible (lead.chars ++ pieces twoStyles) = "ac".toList ∧
      dropInvisible (lead.chars ++ pieces twoStyles) ≠ lead.chars ++ texts twoStyles := by
  rw [dropInvisible_line]
  decide

end MimeMail.Html
