import MimeMail.Proofs.Html.Collapse
import MimeMail.Proofs.Html.Space

namespace MimeMail.Html

open Text

inductive Piece where
  | chunk (text : List Char)
  | tag (t : InlineTag)

namespace Piece

def markup : Piece → List Char
  | chunk s => s.flatMap escaped
  | tag t => (Tag.inline t).markup

def chars : Piece → List Char
  | chunk s => s
  | tag _ => []

def tokens : Piece → List Token
  | chunk s => s.map .char
  | tag t => [.tag (.inline t)]

end Piece

/-- A line of which something is seen. -/
structure Row where
  pieces : List Piece
  seen : ∃ c ∈ pieces.flatMap Piece.chars, isSpace c = false

structure Paragraph where
  rows : List Row
  rows_ne_nil : rows ≠ []

namespace Row

def markup (r : Row) : List Char :=
  r.pieces.flatMap Piece.markup

def text (r : Row) : List Char :=
  unwords (words (r.pieces.flatMap Piece.chars))

end Row

namespace Paragraph

def markup (p : Paragraph) : List Char :=
  "<p>".toList ++ "<br>".toList.intercalate (p.rows.map Row.markup) ++ "</p>".toList

def text (p : Paragraph) : List Char :=
  "\n".toList.intercalate (p.rows.map Row.text)

end Paragraph

/-- A line as tokens, and the tag that breaks it off from what stands before. -/
structure Line where
  tag : Tag
  tokens : List Token
  breaks : tag.breaks = true
  inline : ∀ t, .tag t ∈ tokens → t.breaks = false

namespace Line

def collapsed (l : Line) : List Char :=
  ' ' :: (squeeze false l.tokens).flatMap Token.shown

def text (l : Line) : List Char :=
  unwords (words (l.tokens.flatMap Token.shown))

theorem lineFeed_not_mem (l : Line) : '\n' ∉ l.collapsed := by
  simpa [collapsed] using lineFeed_not_mem_squeeze l.inline false

theorem words_collapsed (l : Line) : unwords (words l.collapsed) = l.text := by
  have hspace : isSpace ' ' = true := by decide
  rw [collapsed, words_cons hspace, text]
  exact congrArg unwords ((words_squeeze l.tokens).1 [])

end Line

def layout (ls : List Line) : List Token :=
  ls.flatMap fun l ↦ .tag l.tag :: l.tokens

theorem markup_layout (ls : List Line) :
    markup (layout ls) = ls.flatMap fun l ↦ l.tag.markup ++ markup l.tokens :=
  List.flatMap_assoc

theorem shown_layout (ls : List Line) :
    (squeeze false (layout ls)).flatMap Token.shown = ls.flatMap ('\n' :: ·.collapsed) := by
  induction ls with
  | nil => rfl
  | cons l ls ih =>
    have hhead : ∀ x ∈ (layout ls).head?, ∃ t, x = .tag t := by
      cases ls with
      | nil => simp [layout]
      | cons l ls => simp [layout]
    have hlayout : layout (l :: ls) = .tag l.tag :: (l.tokens ++ layout ls) := List.flatMap_cons
    rw [hlayout, squeeze, squeeze_append hhead, List.flatMap_cons, List.flatMap_append, ih,
      List.flatMap_cons]
    simp [Line.collapsed, Token.shown, l.breaks]

/-- Lines are read as their words, each line behind a line feed. -/
theorem plainText_layout (ls : List Line) :
    plainText (markup (layout ls)) = trim (ls.flatMap ('\n' :: ·.text)) := by
  have hlines : ∀ s ∈ ls.map Line.collapsed, '\n' ∉ s := by
    simpa using fun l _ ↦ l.lineFeed_not_mem
  have htrim := trim_normalizeSpace (s := []) (by simp) hlines
  simp only [List.flatMap_map, Line.words_collapsed] at htrim
  rw [plainText, decode_visibleText_markup, shown_layout]
  simpa using htrim

namespace Row

def tokens (r : Row) : List Token :=
  r.pieces.flatMap Piece.tokens

theorem markup_tokens (r : Row) : Html.markup r.tokens = r.markup := by
  rw [Html.markup, tokens, markup, List.flatMap_assoc]
  congr 1
  funext x
  cases x with
  | chunk s => exact List.flatMap_map ..
  | tag t => exact List.flatMap_singleton ..

theorem shown_tokens (r : Row) : r.tokens.flatMap Token.shown = r.pieces.flatMap Piece.chars := by
  rw [tokens, List.flatMap_assoc]
  congr 1
  funext x
  cases x with
  | chunk s => exact (List.flatMap_map ..).trans (List.flatMap_singleton' s)
  | tag t => rfl

theorem tokens_inline (r : Row) {t : Tag} (h : .tag t ∈ r.tokens) : t.breaks = false := by
  obtain ⟨x, -, hx⟩ := List.mem_flatMap.mp h
  cases x with
  | chunk s => exact absurd hx (by simp [Piece.tokens])
  | tag u =>
    obtain rfl : t = .inline u := by simpa [Piece.tokens] using hx
    rfl

theorem isTrimmed_text (r : Row) : IsTrimmed r.text :=
  isTrimmed_intercalate _ (words_ne_nil r.seen) fun _ hw ↦
    isTrimmed_of_forall (words_spec hw).1 (words_spec hw).2

end Row

def Row.line (t : Tag) (ht : t.breaks = true) (r : Row) : Line :=
  ⟨t, r.tokens, ht, fun _ ↦ r.tokens_inline⟩

def lastLine : Line :=
  ⟨.paragraphEnd, [], by decide, by simp⟩

theorem Row.text_line (t : Tag) (ht : t.breaks = true) (r : Row) : (r.line t ht).text = r.text := by
  rw [Line.text, line, r.shown_tokens, text]

namespace Paragraph

def lines (p : Paragraph) : List Line :=
  match p.rows with
  | [] => []
  | r :: rs =>
    r.line .paragraph (by decide) :: rs.map (·.line .lineBreak (by decide)) ++ [lastLine]

theorem markup_lines (p : Paragraph) : Html.markup (layout p.lines) = p.markup := by
  rw [markup, lines, markup_layout]
  cases hrows : p.rows with
  | nil => exact absurd hrows p.rows_ne_nil
  | cons r rs =>
    rw [intercalate_map]
    simp only [List.cons_append, List.flatMap_cons, List.flatMap_append, List.flatMap_map,
      List.flatMap_nil, Row.line, Row.markup_tokens, List.append_assoc]
    rfl

theorem text_lines (p : Paragraph) :
    p.lines.flatMap ('\n' :: ·.text) = '\n' :: (p.text ++ ['\n']) := by
  rw [text, lines]
  cases hrows : p.rows with
  | nil => exact absurd hrows p.rows_ne_nil
  | cons r rs =>
    rw [intercalate_map]
    simp only [List.cons_append, List.flatMap_cons, List.flatMap_append, List.flatMap_map,
      List.flatMap_nil, Row.text_line, List.append_assoc]
    rfl

theorem isTrimmed_text (p : Paragraph) : IsTrimmed p.text :=
  isTrimmed_intercalate _ (by simpa using p.rows_ne_nil)
    (by simpa using fun r _ ↦ r.isTrimmed_text)

end Paragraph

/-- Paragraphs are read back with an empty line between them, and on each line its words with one
space between them. -/
theorem plainText_paragraphs (ps : List Paragraph) :
    plainText (ps.flatMap Paragraph.markup) =
      "\n\n".toList.intercalate (ps.map Paragraph.text) := by
  have hmarkup : markup (layout (ps.flatMap Paragraph.lines)) = ps.flatMap Paragraph.markup := by
    rw [markup_layout, List.flatMap_assoc]
    simp only [← markup_layout, Paragraph.markup_lines]
  rw [← hmarkup, plainText_layout, List.flatMap_assoc, funext Paragraph.text_lines]
  cases ps with
  | nil => rfl
  | cons p ps =>
    have htrimmed : IsTrimmed ("\n\n".toList.intercalate ((p :: ps).map Paragraph.text)) :=
      isTrimmed_intercalate _ (by simp)
        (by simpa using ⟨p.isTrimmed_text, fun q _ ↦ q.isTrimmed_text⟩)
    have hlineFeed : ∀ c ∈ ['\n'], isSpace c = true := by decide
    have hbreaks := flatMap_append_comm ['\n'] (fun q : Paragraph ↦ '\n' :: q.text) ps
    rw [← htrimmed.trim_append hlineFeed hlineFeed, intercalate_map, List.flatMap_cons]
    simp only [List.append_assoc, List.cons_append, List.nil_append] at hbreaks ⊢
    rw [← hbreaks]
    rfl

example :
    let tag : InlineTag := ⟨false, "B".toList, by decide⟩
    let first : Row := ⟨[.chunk "a  &nbsp;".toList, .tag tag, .chunk " <p>".toList],
      'a', by decide, by decide⟩
    let second : Row := ⟨[.chunk " b".toList], 'b', by decide, by decide⟩
    let p : Paragraph := ⟨[first, second], by simp⟩
    p.markup = "<p>a  &amp;nbsp;<B> &lt;p&gt;<br> b</p>".toList ∧
      p.text = "a &nbsp; <p>\nb".toList := by
  decide

end MimeMail.Html
