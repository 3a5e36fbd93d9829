import Mathlib.Data.List.Induction
import MimeMail.Proofs.Address.Column
import MimeMail.Proofs.Text.Space

namespace MimeMail

open Encoding

namespace Text

/-- Characters of lines, and line breaks with one space behind them. Behind the space something can
be seen, or the line ends at once if `blank` allows it. -/
inductive Continued (blank : Prop) : List Char → Prop
  | nil : Continued blank []
  | char {c : Char} {s : List Char} : InLine c → Continued blank s → Continued blank (c :: s)
  | fold {c : Char} {s : List Char} :
      Visible c → Continued blank s → Continued blank ('\r' :: '\n' :: ' ' :: c :: s)
  | blankLine {s : List Char} :
      blank → Continued blank ('\r' :: '\n' :: s) →
        Continued blank ('\r' :: '\n' :: ' ' :: '\r' :: '\n' :: s)

variable {blank blank' : Prop} {s t : List Char}

theorem Continued.of_inLine (h : ∀ c ∈ s, InLine c) : Continued blank s := by
  induction s with
  | nil => exact .nil
  | cons c s ih =>
    obtain ⟨hc, hs⟩ := List.forall_mem_cons.mp h
    exact .char hc (ih hs)

theorem Continued.append (hs : Continued blank s) (ht : Continued blank t) :
    Continued blank (s ++ t) := by
  induction hs with
  | nil => exact ht
  | char hc _ ih => exact .char hc ih
  | fold hc _ ih => exact .fold hc ih
  | blankLine hb _ ih => exact .blankLine hb ih

theorem Continued.mono (h : Continued blank s) (hb : blank → blank') : Continued blank' s := by
  induction h with
  | nil => exact .nil
  | char hc _ ih => exact .char hc ih
  | fold hc _ ih => exact .fold hc ih
  | blankLine hblank _ ih => exact .blankLine (hb hblank) ih

theorem Continued.tail_lines (h : Continued blank s) :
    ∀ l ∈ (lines s).tail, (∃ c t, l = ' ' :: c :: t ∧ Visible c) ∨ (blank ∧ l = [' ']) := by
  induction h with
  | nil => simp [lines]
  | char hc _ ih => rwa [lines_cons hc.1, List.tail_modifyHead]
  | @fold c s hc _ ih =>
    obtain ⟨l, ls, hl⟩ := List.exists_cons_of_ne_nil (lines_ne_nil s)
    rw [hl] at ih
    rw [lines, List.tail_cons, lines_cons (by decide), lines_cons hc.inLine.1, hl]
    intro k hk
    rcases List.mem_cons.mp hk with rfl | hk
    · exact .inl ⟨c, l, rfl, hc⟩
    · exact ih k hk
  | @blankLine s hb _ ih =>
    rw [lines, List.tail_cons] at ih
    rw [lines, List.tail_cons, lines_cons (by decide), lines]
    intro k hk
    rcases List.mem_cons.mp hk with rfl | hk
    · exact .inr ⟨hb, rfl⟩
    · exact ih k hk

theorem Continued.folded {c : Char} (hc : Visible c) (h : Continued blank (c :: s)) :
    Continued blank (Encoding.fold ++ c :: s) := by
  cases h with
  | char _ hs => exact .fold hc hs
  | fold _ _ => exact absurd hc (by decide)
  | blankLine _ _ => exact absurd hc (by decide)

theorem mem_tail_lines (s t : List Char) :
    [' '] ∈ (lines (s ++ '\r' :: '\n' :: ' ' :: '\r' :: '\n' :: t)).tail := by
  have hblank : lines (' ' :: '\r' :: '\n' :: t) = [' '] :: lines t :=
    lines_append_break [' '] t
  rw [lines_append_break, hblank, List.tail_append_of_ne_nil (lines_ne_nil s)]
  simp

end Text

open Text

namespace Encoding.EncodedWord

variable {blank : Prop}

theorem continued_foldedWords (groups : List (List Bytes)) :
    Continued blank (foldedWords groups) := by
  induction groups with
  | nil => exact .nil
  | cons us groups ih =>
    obtain ⟨t, hword⟩ := word_eq_cons us
    have hmark : Visible '=' := by decide
    have hrest := (Continued.of_inLine (inLine_word us)).append ih
    rw [hword, List.cons_append] at hrest
    rw [foldedWords_cons, hword, List.cons_append]
    exact hrest.folded hmark

theorem continued_encode {s : Bytes} (hs : s ≠ []) (offset : Nat) :
    Continued blank (encode s offset).text := by
  obtain ⟨lead, first, rest, hlead, -, htext⟩ := encode_text hs offset
  rw [htext]
  rcases hlead with rfl | rfl
  · exact (Continued.of_inLine (inLine_word first)).append (continued_foldedWords rest)
  · rw [List.append_assoc, ← foldedWords_cons]
    exact continued_foldedWords (first :: rest)

theorem encode_eq_cons_visible {t : List Char} (ht : t ≠ []) :
    ∃ c s, (encode (utf8 t) 1).text = c :: s ∧ Visible c := by
  cases t with
  | nil => exact absurd rfl ht
  | cons d t =>
    obtain ⟨chunk, chunks, -, htext, -, -⟩ := encode_chunks d t 1
    obtain ⟨s, hword⟩ := word_eq_cons (units (utf8 chunk))
    have hmark : Visible '=' := by decide
    have hfits : Fits (max 1 1 + opening.length) [String.utf8EncodeChar d] :=
      fits_char d (by decide)
    rw [if_pos hfits, hword] at htext
    exact ⟨'=', _, htext, hmark⟩

end Encoding.EncodedWord

namespace Address

variable {blank : Prop} {offset : Nat} (a : Address)

theorem continued_angle : Continued blank a.angle :=
  .of_inLine fun c hc ↦ (a.printable_angle c hc).inLine

theorem continued_encodeName (offset : Nat) : Continued blank (a.encodeName offset).text := by
  unfold encodeName
  dsimp only
  split
  · exact .nil
  · rename_i hne
    split
    · rename_i hp
      apply Continued.of_inLine
      intro c hc
      exact (QuotedString.printable_encode (printable_of_utf8 hp) c hc).inLine
    · have hname : utf8 a.name.toList ≠ [] := by simpa [utf8_eq_nil] using hne
      exact EncodedWord.continued_encode hname offset

theorem continued_encode (offset : Nat) : Continued blank (a.encode offset).text := by
  have hspace : Continued blank a.space :=
    .of_inLine fun c hc ↦ (a.printable_space c hc).inLine
  have hbracket : Visible '<' := by decide
  have hangle : Continued blank a.angle := a.continued_angle
  rw [encode_eq]
  split
  · exact ((a.continued_encodeName offset).append hspace).append hangle
  · dsimp only
    rw [List.append_assoc]
    exact (a.continued_encodeName offset).append (hangle.folded hbracket)

theorem encodeName_eq_cons_visible (h : a.name.toList ≠ []) :
    ∃ c s, (a.encodeName 1).text = c :: s ∧ Visible c := by
  unfold encodeName
  dsimp only
  split
  · rename_i hempty
    exact absurd (List.isEmpty_iff.mp hempty) h
  · split
    · exact ⟨'"', _, rfl, by decide⟩
    · exact EncodedWord.encode_eq_cons_visible h

theorem encodeName_of_empty (h : a.name = "") (offset : Nat) :
    a.encodeName offset = ⟨[], offset⟩ := by
  rw [encodeName, h]
  rfl

/-- A bare address that is too long for any line. -/
def IsOverlong : Prop :=
  a.name = "" ∧ maxColumn ≤ a.addr.toList.length

theorem encode_of_isOverlong (h : a.IsOverlong) : (a.encode 1).text = fold ++ a.angle := by
  obtain ⟨hname, hlength⟩ := h
  rw [encode_eq, a.encodeName_of_empty hname, if_neg (by dsimp only; omega)]
  rfl

theorem encode_eq_cons_visible (h : ¬ a.IsOverlong) :
    ∃ c s, (a.encode 1).text = c :: s ∧ Visible c := by
  by_cases hname : a.name = ""
  · have hspace : a.space = [] := by simp [space, hname]
    have hlength : a.addr.toList.length < maxColumn :=
      Nat.lt_of_not_le fun hlong ↦ h ⟨hname, hlong⟩
    rw [encode_eq, a.encodeName_of_empty hname, hspace, if_pos (by dsimp only; omega)]
    exact ⟨'<', _, rfl, by decide⟩
  · obtain ⟨c, s, hs, hc⟩ :=
      a.encodeName_eq_cons_visible (mt String.toList_eq_nil_iff.mp hname)
    rw [a.encode_text (Nat.le_refl 1), hs]
    exact ⟨c, _, rfl, hc⟩

/-- An overlong address stands right behind one that ends on column 75. -/
def BreaksTwice (list : List Address) (offset : Nat) : Prop :=
  ∃ before a b after, list = before ++ a :: b :: after ∧
    columnAfter offset (encodeList (before ++ [a]) offset) = 75 ∧ b.IsOverlong

theorem BreaksTwice.append {list : List Address} (h : BreaksTwice list offset)
    (more : List Address) : BreaksTwice (list ++ more) offset := by
  obtain ⟨before, a, b, after, rfl, hcolumn, hb⟩ := h
  exact ⟨before, a, b, after ++ more, by simp, hcolumn, hb⟩

theorem link_of_full {before : List Address} (hne : before ≠ [])
    (hfull : columnAfter offset (encodeList before offset) = 75) :
    link before offset = ",\r\n ".toList ∧
      columnAfter offset (encodeList before offset ++ link before offset) = 1 := by
  have hlink : link before offset = ",\r\n ".toList := by
    rw [link, if_neg hne, hfull]
    rfl
  refine ⟨hlink, ?_⟩
  rw [(folded_encodeList before offset).columnAfter_append, hfull, hlink]
  rfl

theorem continued_link {before : List Address}
    (h : columnAfter offset (encodeList before offset) ≠ 75) :
    Continued blank (link before offset) := by
  have hcomma : Visible ',' := by decide
  have hseparator : ∀ c ∈ ", ".toList, InLine c := by decide
  rw [link, separator, if_neg h]
  split
  · exact .nil
  · split
    · exact .of_inLine hseparator
    · exact .fold hcomma (.char (by decide) .nil)

/-- The next address has its blank line exactly where the list breaks twice. -/
theorem continued_next (before : List Address) (b : Address) :
    Continued (BreaksTwice (before ++ [b]) offset) (link before offset ++
      (b.encode (columnAfter offset (encodeList before offset ++ link before offset))).text) := by
  -- On column 75 the list ends its line with a fold, which the next address may repeat.
  by_cases hfull : columnAfter offset (encodeList before offset) = 75
  · obtain rfl | ⟨init, a, rfl⟩ := List.eq_nil_or_concat before
    · exact b.continued_encode _
    · rw [List.concat_eq_append] at hfull ⊢
      obtain ⟨hlink, hstart⟩ := link_of_full (by simp) hfull
      have hcomma : InLine ',' := by decide
      rw [hstart, hlink]
      by_cases hb : b.IsOverlong
      · have hbreaks : BreaksTwice (init ++ [a] ++ [b]) offset :=
          ⟨init, a, b, [], by simp, hfull, hb⟩
        have hbracket : Visible '<' := by decide
        rw [b.encode_of_isOverlong hb]
        exact .char hcomma (.blankLine hbreaks (b.continued_angle.folded hbracket))
      · obtain ⟨c, s, hs, hc⟩ := b.encode_eq_cons_visible hb
        have hitem : Continued (BreaksTwice (init ++ [a] ++ [b]) offset) (b.encode 1).text :=
          b.continued_encode 1
        rw [hs] at hitem ⊢
        exact .char hcomma (hitem.folded hc)
  · exact (continued_link hfull).append (b.continued_encode _)

theorem continued_encodeList (h : 1 ≤ offset) (list : List Address) :
    Continued (BreaksTwice list offset) (encodeList list offset) := by
  -- The induction is from the end, since where an address stands depends on those before it.
  induction list using List.reverseRecOn with
  | nil => exact .nil
  | append_singleton before b ih =>
    have hbefore := ih.mono fun hbreaks ↦ hbreaks.append [b]
    have htext := b.encodeList_append h before []
    dsimp only at htext
    rw [htext, encodeRest, List.append_nil, List.append_assoc]
    exact hbefore.append (continued_next before b)

theorem blank_line_of_breaksTwice (h : 1 ≤ offset) {list : List Address}
    (hbreaks : BreaksTwice list offset) : [' '] ∈ (lines (encodeList list offset)).tail := by
  obtain ⟨before, a, b, after, rfl, hfull, hb⟩ := hbreaks
  have hlist : before ++ a :: b :: after = before ++ [a] ++ b :: after := by simp
  have htext := b.encodeList_append h (before ++ [a]) after
  obtain ⟨hlink, hstart⟩ := link_of_full (by simp) hfull
  dsimp only at htext
  rw [hstart, hlink, b.encode_of_isOverlong hb] at htext
  rw [hlist, htext]
  have hblank := mem_tail_lines (encodeList (before ++ [a]) offset ++ [','])
    (' ' :: b.angle ++ (encodeRest (b.encode 1).column after).text)
  simpa [fold] using hblank

/-- Every continuation line of a list of addresses begins with one space. There is something to be
seen on each of them exactly if the list nowhere breaks twice at one place, as it does before an
overlong address right behind one that ends on column 75. -/
theorem continuation_lines (h : 1 ≤ offset) (list : List Address) :
    (∀ l ∈ (lines (encodeList list offset)).tail,
      ∃ t, l = ' ' :: t ∧ t.head? ≠ some ' ') ∧
    ((∀ l ∈ (lines (encodeList list offset)).tail, ∃ c ∈ l, isSpace c = false) ↔
      ¬ BreaksTwice list offset) := by
  have hlines := (continued_encodeList h list).tail_lines
  refine ⟨?_, ?_, ?_⟩
  · intro l hl
    obtain ⟨c, t, rfl, hc⟩ | ⟨-, rfl⟩ := hlines l hl
    · exact ⟨c :: t, rfl, by simpa using hc.2⟩
    · exact ⟨[], rfl, by simp⟩
  · intro hall hbreaks
    obtain ⟨c, hc, hseen⟩ := hall _ (blank_line_of_breaksTwice h hbreaks)
    rw [List.mem_singleton.mp hc] at hseen
    exact absurd hseen (by decide)
  · intro hnot l hl
    obtain ⟨c, t, rfl, hc⟩ | ⟨hbreaks, -⟩ := hlines l hl
    · exact ⟨c, by simp, hc.isSpace⟩
    · exact absurd hbreaks hnot

theorem full_line_continuation_lines :
    let list : List Address := [⟨"", "a@example.com", by decide⟩, ⟨"", "b@example.com", by decide⟩]
    1 ≤ 60 ∧ ∀ l ∈ (lines (encodeList list 60)).tail, ∃ c ∈ l, isSpace c = false := by
  intro list
  refine ⟨by decide, (continuation_lines (by decide) list).2.mpr ?_⟩
  rintro ⟨before, a, b, after, hlist, -, -, hlong⟩
  have hb : b ∈ list := by simp [hlist]
  have hshort : ∀ b ∈ list, ¬ maxColumn ≤ b.addr.toList.length := by decide +kernel
  exact hshort b hb hlong

def customers : Address :=
  ⟨"", "customers@notifications.international-shipping-department.example.com", by decide +kernel⟩

def newsletter : Address :=
  ⟨"", "newsletter@transactional-mail.customer-relationship-management.example.com",
    by decide +kernel⟩

theorem newsletter_leaves_blank_line :
    ∃ l ∈ (lines (encodeList [customers, newsletter] 4)).tail, ∀ c ∈ l, isSpace c = true :=
  ⟨[' '], by decide +kernel, by decide⟩

end Address

end MimeMail
