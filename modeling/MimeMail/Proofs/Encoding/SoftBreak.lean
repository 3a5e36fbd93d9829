import MimeMail.Proofs.Encoding.QuotedPrintable
import MimeMail.Proofs.Text.Column

namespace MimeMail.Encoding.QuotedPrintable

open Text

section

variable {us : List (List Char)} (hus : ∀ u ∈ us, ∀ c ∈ u, InLine c)

include hus

/-- What is written behind some units depends on the column that they end at, and on nothing
else. -/
theorem lines_append_units (vs : List (List Char)) (column : Nat) :
    lines column (us ++ vs) =
      lines column us ++ lines (columnAfter column (lines column us)) vs := by
  -- For every column, since a soft break goes on from column 0.
  induction us generalizing column with
  | nil => rfl
  | cons u us ih =>
    obtain ⟨hu, hus⟩ := List.forall_mem_cons.mp hus
    rw [List.cons_append, lines, lines]
    split
    · rw [columnAfter_append hu, ih hus, List.append_assoc]
    · have hmark : ∀ c ∈ ['='], InLine c := by decide
      have hbreak (s : List Char) : columnAfter column (softBreak ++ s) = columnAfter 0 s := by
        have hs : softBreak ++ s = ['='] ++ '\r' :: '\n' :: s := rfl
        rw [hs, columnAfter_append hmark, columnAfter_break]
      simp only [List.append_assoc]
      rw [hbreak, columnAfter_append hu, Nat.zero_add, ih hus]

end

def row (us : List Bytes) : List Char :=
  (us.map Place.body.unit).flatten

def brokenRows (groups : List (List Bytes)) : List Char :=
  groups.flatMap fun us ↦ softBreak ++ row us

theorem lines_rows (column : Nat) (us : List Bytes) :
    ∃ first : List Bytes, ∃ rest : List (List Bytes), first ++ rest.flatten = us ∧
      lines column (us.map Place.body.unit) = row first ++ brokenRows rest := by
  induction us generalizing column with
  | nil => exact ⟨[], [], rfl, rfl⟩
  | cons u us ih =>
    rw [List.map_cons, lines]
    split
    · obtain ⟨first, rest, rfl, hrows⟩ := ih (column + (Place.body.unit u).length)
      refine ⟨u :: first, rest, rfl, ?_⟩
      simp only [hrows, row, List.map_cons, List.flatten_cons, List.append_assoc]
    · obtain ⟨first, rest, rfl, hrows⟩ := ih (Place.body.unit u).length
      refine ⟨[], (u :: first) :: rest, rfl, ?_⟩
      simp only [hrows, row, brokenRows, List.map_cons, List.map_nil, List.flatten_cons,
        List.flatten_nil, List.flatMap_cons, List.nil_append, List.append_assoc]

theorem inLine_row (us : List Bytes) : ∀ c ∈ row us, InLine c := by
  intro c hc
  obtain ⟨e, he, hc⟩ := List.mem_flatten.mp hc
  obtain ⟨u, -, rfl⟩ := List.mem_map.mp he
  exact Place.inLine_of_mem_unit hc

section

variable {t : List Char} (ht : t = [] ∨ t = ['='])

include ht

theorem inLine_row_append (us : List Bytes) : ∀ c ∈ row us ++ t, InLine c := by
  intro c hc
  rcases List.mem_append.mp hc with hc | hc
  · exact inLine_row us c hc
  · rcases ht with rfl | rfl
    · simp at hc
    · rw [List.mem_singleton.mp hc]
      decide

theorem decode_row {us : List Bytes} (h : ∀ c ∈ (row us ++ t).getLast?, ¬ IsBlank c) :
    decode (row us ++ t) = some us.flatten := by
  have hescaped : Escaped Place.body.IsLiteral (row us) := by
    rw [row, Place.flatten_map_unit]
    exact Place.body.escaped_unit us.flatten
  have htrim : trimLines (row us ++ t) = row us ++ t := by
    apply trimLines_eq
    rw [lines_of_inLine (inLine_row_append ht us)]
    simpa using h
  have hjoin : joinLines (row us ++ t) = row us := by
    rw [joinLines_append hescaped]
    rcases ht with rfl | rfl <;> simp [joinLines]
  rw [decode, htrim, hjoin, row, Place.unescape_flatten]

theorem decode_rows {us : List Bytes} {groups : List (List Bytes)}
    (h : ∀ l ∈ Text.lines (row us ++ brokenRows groups ++ t), ∀ c ∈ l.getLast?, ¬ IsBlank c) :
    (Text.lines (row us ++ brokenRows groups ++ t)).map decode =
      (us :: groups).map fun us ↦ some us.flatten := by
  induction groups generalizing us with
  | nil =>
    rw [brokenRows, List.flatMap_nil, List.append_nil, lines_of_inLine (inLine_row_append ht us)]
      at h ⊢
    simp only [List.map_cons, List.map_nil, decode_row ht (h _ List.mem_cons_self)]
  | cons us' groups ih =>
    have hmark : ['='] = [] ∨ ['='] = ['='] := .inr rfl
    have hbreak : row us ++ brokenRows (us' :: groups) ++ t =
        (row us ++ ['=']) ++ '\r' :: '\n' :: (row us' ++ brokenRows groups ++ t) := by
      simp [brokenRows, softBreak]
    rw [hbreak, lines_append_break, lines_of_inLine (inLine_row_append hmark us),
      List.singleton_append, List.forall_mem_cons] at h
    rw [hbreak, lines_append_break, lines_of_inLine (inLine_row_append hmark us),
      List.singleton_append, List.map_cons, ih h.2, decode_row hmark h.1]
    rfl

end

theorem ending_cases (s : Bytes) :
    (if endsInBlank s then ['='] else []) = [] ∨ (if endsInBlank s then ['='] else []) = ['='] := by
  split <;> simp

theorem decode_lines (text : List Char) :
    ∃ chunks : List (List Char), chunks.flatten = text ∧
      (Text.lines (encode (utf8 text))).map (fun l ↦ (decode l).bind ofUtf8?) =
        chunks.map some := by
  obtain ⟨first, rest, hflatten, hrows⟩ := lines_rows 0 (units (utf8 text))
  have hcut : (first :: rest).flatten = units (utf8 text) := hflatten
  obtain ⟨chunks, hchunks, hgroups⟩ := exists_chunks_of_units hcut
  have hlast := (quoted_encode (utf8 text)).getLast_lines (getLast?_encode (utf8 text))
  have hdecode : (Text.lines (encode (utf8 text))).map decode =
      (first :: rest).map fun us ↦ some us.flatten := by
    rw [encode, Place.encode, hrows] at hlast ⊢
    exact decode_rows (ending_cases _) hlast
  refine ⟨chunks, hchunks, ?_⟩
  have hcompose :
      (fun l ↦ (decode l).bind ofUtf8?) = (fun r ↦ Option.bind r ofUtf8?) ∘ decode := rfl
  rw [hcompose, ← List.map_map, hdecode, hgroups, List.map_map, List.map_map]
  apply List.map_congr_left
  intro chunk _
  exact ofUtf8?_utf8 chunk

theorem softBreak_not_suffix {us : List (List Char)} (hne : ∀ u ∈ us, u ≠ [])
    (hline : ∀ u ∈ us, ∀ c ∈ u, InLine c) : ¬ softBreak <:+ lines 0 us := by
  -- A soft break ends in a line feed, and no unit does.
  rintro ⟨s, hs⟩
  have hlast : us.flatten.getLast? = some '\n' := by
    rw [← getLast?_lines hne 0, ← hs]
    simp [softBreak]
  obtain ⟨u, hu, hc⟩ := List.mem_flatten.mp (List.mem_of_getLast? hlast)
  exact (hline u hu _ hc).2 rfl

theorem encode_utf8_append (p : Place) (s : List Char) (c : Char) (t : List Char) :
    p.encode (utf8 (s ++ c :: t)) =
      p.encode (utf8 s) ++ p.unit (String.utf8EncodeChar c) :: p.encode (utf8 t) := by
  simp only [Place.encode, units_utf8, List.map_append, List.map_cons]

theorem lines_cons_unit (column : Nat) (u : List Char) (us : List (List Char)) :
    ∃ column', lines column (u :: us) =
      (if 75 < column + u.length then softBreak else []) ++ u ++ lines column' us := by
  have hmax : maxColumn = 75 := rfl
  rw [lines]
  split
  · refine ⟨column + u.length, ?_⟩
    rw [if_neg (by omega), List.nil_append]
  · refine ⟨u.length, ?_⟩
    rw [if_pos (by omega)]

theorem unescape_joinLines_lines (s : Bytes) (column : Nat) {t : List Char}
    (ht : t = [] ∨ t = ['=']) :
    Place.body.unescape (joinLines (lines column (Place.body.encode s) ++ t)) = some s := by
  have hend : joinLines t = [] := by
    rcases ht with rfl | rfl <;> rfl
  rw [joinLines_lines fun u hu ↦ escaped_of_mem_encode hu, hend, List.append_nil,
    Place.unescape_encode]

/-- A quoted-printable text is a text on each of its lines. Every character is written behind those
before it, with a soft break between exactly if the line would otherwise pass column 75. -/
theorem breaks_between_characters :
    (∀ text : List Char, ∃ chunks : List (List Char), chunks.flatten = text ∧
      (Text.lines (encode (utf8 text))).map (fun l ↦ (decode l).bind ofUtf8?) =
        chunks.map some) ∧
    ∀ (before : List Char) (c : Char) (after : List Char),
      let char := Place.body.unit (String.utf8EncodeChar c)
      ∃ written rest : List Char,
        encode (utf8 (before ++ c :: after)) = written ++
          (if 75 < columnAfter 0 written + char.length then softBreak else []) ++ char ++ rest ∧
        ¬ softBreak <:+ written ∧
        Place.body.unescape (joinLines written) = some (utf8 before) ∧
        Place.body.unescape (joinLines rest) = some (utf8 after) := by
  refine ⟨decode_lines, ?_⟩
  intro before c after char
  have hline : ∀ u ∈ Place.body.encode (utf8 before), ∀ d ∈ u, InLine d :=
    fun u hu d hd ↦ Place.inLine_of_mem_encode hu hd
  have hne : ∀ u ∈ Place.body.encode (utf8 before), u ≠ [] :=
    fun u hu ↦ (Place.mem_encode hu).choose_spec.2
  let written := lines 0 (Place.body.encode (utf8 before))
  obtain ⟨column, hlines⟩ :=
    lines_cons_unit (columnAfter 0 written) char (Place.body.encode (utf8 after))
  refine ⟨written, _, ?_, softBreak_not_suffix hne hline, ?_,
    unescape_joinLines_lines _ column (ending_cases (utf8 (before ++ c :: after)))⟩
  · rw [encode, encode_utf8_append, lines_append_units hline, hlines]
    simp only [List.append_assoc]
    rfl
  · have h := unescape_joinLines_lines (utf8 before) 0 (.inl rfl)
    rwa [List.append_nil] at h

end MimeMail.Encoding.QuotedPrintable
