import MimeMail.Proofs.Encoding.EncodedWord
import MimeMail.Proofs.Text.Column

namespace MimeMail.Encoding

open Text

theorem columnAfter_fold (column : Nat) (s : List Char) :
    columnAfter column (fold ++ s) = columnAfter 1 s := by
  have hspace : InLine ' ' := by decide
  have hfold : fold ++ s = '\r' :: '\n' :: ' ' :: s := rfl
  rw [hfold, columnAfter_break, columnAfter_cons hspace]

namespace EncodedWord

theorem intercalate_words (us : List Bytes) (groups : List (List Bytes)) :
    fold.intercalate ((us :: groups).map word) = word us ++ foldedWords groups := by
  induction groups generalizing us with
  | nil => simp [foldedWords]
  | cons us' groups ih =>
    have h := ih us'
    rw [List.map_cons] at h
    rw [List.map_cons, List.map_cons, List.intercalate_cons_cons, h, foldedWords_cons,
      List.append_assoc]

theorem inLine_opening : ∀ c ∈ opening, InLine c := by
  decide

theorem inLine_closing : ∀ c ∈ closing, InLine c := by
  decide

theorem lines_foldedWords {s : List Char} (hs : ∀ c ∈ s, InLine c)
    (groups : List (List Bytes)) :
    lines (s ++ foldedWords groups) = s :: groups.map fun us ↦ ' ' :: word us := by
  induction groups generalizing s with
  | nil => simpa [foldedWords] using lines_of_inLine hs
  | cons us groups ih =>
    have hword : ∀ c ∈ ' ' :: word us, InLine c := by
      intro c hc
      rcases List.mem_cons.mp hc with rfl | hc
      · decide
      · exact inLine_word us c hc
    have hrest := ih hword
    rw [List.cons_append] at hrest
    have hfold : s ++ foldedWords (us :: groups) =
        s ++ '\r' :: '\n' :: ' ' :: (word us ++ foldedWords groups) := by
      rw [foldedWords_cons]
      rfl
    rw [hfold, lines_append_break, lines_of_inLine hs, hrest]
    rfl

section

variable {us : List (List Char)} (hus : ∀ u ∈ us, ∀ c ∈ u, InLine c)

include hus

theorem goOn_column (column : Nat) :
    (goOn column us).column = columnAfter column (goOn column us).text := by
  induction us generalizing column with
  | nil =>
    rw [goOn, columnAfter_of_inLine inLine_closing]
  | cons u us ih =>
    obtain ⟨hu, hus⟩ := List.forall_mem_cons.mp hus
    rw [goOn]
    split
    · dsimp only
      rw [columnAfter_append hu, ih hus]
    · simp only [List.append_assoc]
      rw [columnAfter_append inLine_closing, columnAfter_fold, columnAfter_append inLine_opening,
        columnAfter_append hu, ih hus]

theorem words_column (hne : us ≠ []) (offset : Nat) :
    (words offset us).column = columnAfter (max offset 1) (words offset us).text := by
  cases us with
  | nil => exact absurd rfl hne
  | cons u us =>
    obtain ⟨hu, hus⟩ := List.forall_mem_cons.mp hus
    rw [words]
    dsimp only
    split
    · simp only [List.append_assoc]
      rw [columnAfter_append inLine_opening, columnAfter_append hu, goOn_column hus]
    · simp only [List.append_assoc]
      rw [columnAfter_fold, columnAfter_append inLine_opening, columnAfter_append hu,
        goOn_column hus]

end

theorem encode_column {s : Bytes} (hs : s ≠ []) (offset : Nat) :
    (encode s offset).column = columnAfter (max offset 1) (encode s offset).text := by
  have hunits : ∀ u ∈ Place.header.encode s, ∀ c ∈ u, InLine c :=
    fun u hu c hc ↦ Place.inLine_of_mem_encode hu hc
  have hne : Place.header.encode s ≠ [] := by
    simpa [Place.encode] using units_ne_nil hs
  exact words_column hunits hne offset

theorem length_word (us : List Bytes) : (word us).length = 12 + (payload us).length := by
  have hopening : opening.length = 10 := rfl
  have hclosing : closing.length = 2 := rfl
  rw [word, List.length_append, List.length_append]
  omega

theorem length_word_le {column : Nat} {us : List Bytes} (h : Fits (column + opening.length) us) :
    column + (word us).length ≤ 76 := by
  have hopening : opening.length = 10 := rfl
  have hmax : maxColumn = 74 := rfl
  rw [Fits] at h
  rw [length_word]
  omega

theorem fits_char (c : Char) {column : Nat} (h : column + 12 ≤ maxColumn) :
    Fits column [String.utf8EncodeChar c] := by
  have hlength := Place.header.length_char_le c
  rw [fits_singleton]
  omega

theorem Filled.text {t : List Char} (h : Filled (units (utf8 t))) :
    t ≠ [] ∧ Fits foldColumn (units (utf8 t)) := by
  obtain ⟨u, us, hunits, hfits⟩ := h
  rw [units_utf8] at hunits hfits ⊢
  cases t with
  | nil => simp at hunits
  | cons c t =>
    obtain ⟨rfl, rfl⟩ := List.cons.inj hunits
    exact ⟨List.cons_ne_nil c t, hfits (fits_char c (by decide))⟩

/-- The words of a text cut it into pieces, each of which fits on a continuation line. -/
theorem encode_chunks (c : Char) (cs : List Char) (offset : Nat) :
    let fits := Fits (max offset 1 + opening.length)
    ∃ chunk : List Char, ∃ chunks : List (List Char), chunk ++ chunks.flatten = c :: cs ∧
      (encode (utf8 (c :: cs)) offset).text =
        (if fits [String.utf8EncodeChar c] then [] else fold) ++ word (units (utf8 chunk)) ++
          foldedWords (chunks.map fun t ↦ units (utf8 t)) ∧
      (fits [String.utf8EncodeChar c] → fits (units (utf8 chunk))) ∧
      ∀ t ∈ chunk :: chunks, t ≠ [] ∧ Fits foldColumn (units (utf8 t)) := by
  intro fits
  have hunits : units (utf8 (c :: cs)) =
      String.utf8EncodeChar c :: cs.map String.utf8EncodeChar := units_utf8 (c :: cs)
  obtain ⟨first, rest, hflatten, htext, hfirst, hfilled⟩ :=
    words_text offset (String.utf8EncodeChar c) (cs.map String.utf8EncodeChar)
  rw [← hunits] at htext
  have hcut : ((String.utf8EncodeChar c :: first) :: rest).flatten = units (utf8 (c :: cs)) := by
    rw [hunits, ← hflatten]
    rfl
  obtain ⟨_ | ⟨chunk, chunks⟩, hchunks, hgroups⟩ := exists_chunks_of_units hcut
  · simp at hgroups
  · obtain ⟨hword, hwords⟩ := List.cons.inj hgroups
    rw [hword, hwords] at htext
    rw [hword] at hfirst
    rw [hgroups] at hfilled
    simp only [← units_utf8] at htext hfirst hfilled
    refine ⟨chunk, chunks, hchunks, htext, hfirst, fun t ht ↦ ?_⟩
    exact (hfilled _ (List.mem_map_of_mem ht)).text

theorem lines_encoded {late : Prop} [Decidable late] (us : List Bytes)
    (groups : List (List Bytes)) :
    lines ((if late then fold else []) ++ word us ++ foldedWords groups) =
      if late then [] :: (us :: groups).map fun us ↦ ' ' :: word us
      else word us :: groups.map fun us ↦ ' ' :: word us := by
  split
  · have h := lines_foldedWords (s := []) (by simp) (us :: groups)
    rw [foldedWords_cons] at h
    simpa using h
  · exact lines_foldedWords (inLine_word us) groups

theorem eq_word_of_mem_tail {late : Prop} [Decidable late] {us : List Bytes}
    {groups : List (List Bytes)} {l : Line}
    (h : l ∈ (lines ((if late then fold else []) ++ word us ++ foldedWords groups)).tail) :
    ∃ g ∈ us :: groups, l = ' ' :: word g := by
  rw [lines_encoded] at h
  split at h
  · obtain ⟨g, hg, rfl⟩ := List.mem_map.mp h
    exact ⟨g, hg, rfl⟩
  · obtain ⟨g, hg, rfl⟩ := List.mem_map.mp h
    exact ⟨g, List.mem_cons_of_mem us hg, rfl⟩

theorem within_encode {t : List Char} (ht : t ≠ []) {limit offset : Nat} (hoffset : 1 ≤ offset)
    (hlimit : 76 ≤ limit) :
    Within limit offset (encode (utf8 t) offset).text ↔ offset ≤ limit := by
  refine ⟨Within.column_le, fun hstart ↦ ?_⟩
  obtain ⟨c, cs, rfl⟩ := List.exists_cons_of_ne_nil ht
  obtain ⟨chunk, chunks, -, htext, hfirst, hall⟩ := encode_chunks c cs offset
  rw [Nat.max_eq_left hoffset] at htext hfirst
  rw [← ite_not] at htext
  rw [htext]
  constructor
  · intro l hl
    rw [lines_encoded] at hl
    split at hl
    · rw [← Option.some.inj hl]
      exact hstart
    · rename_i hfits
      rw [← Option.some.inj hl]
      exact Nat.le_trans (length_word_le (hfirst (Decidable.not_not.mp hfits))) hlimit
  · intro l hl
    obtain ⟨g, hg, rfl⟩ := eq_word_of_mem_tail hl
    rw [← List.map_cons (f := fun t ↦ units (utf8 t))] at hg
    obtain ⟨t, htmem, rfl⟩ := List.mem_map.mp hg
    have hword : 1 + (word (units (utf8 t))).length ≤ 76 := length_word_le (hall t htmem).2
    rw [List.length_cons]
    omega

theorem payload_ne_nil {us : List Bytes} (h : us ≠ []) (hne : ∀ u ∈ us, u ≠ []) :
    payload us ≠ [] := by
  cases us with
  | nil => exact absurd rfl h
  | cons u us =>
    have hunit := Place.header.unit_ne_nil (hne u List.mem_cons_self)
    rw [payload_cons]
    simp [hunit]

theorem payload_text {t : List Char} (h : t ≠ []) : payload (units (utf8 t)) ≠ [] := by
  have hbytes : utf8 t ≠ [] := mt utf8_eq_nil.mp h
  exact payload_ne_nil (units_ne_nil hbytes) fun u hu ↦ ne_nil_of_mem_units hu

theorem decode_text (t : List Char) :
    (Place.header.unescape (payload (units (utf8 t)))).bind ofUtf8? = some t := by
  rw [unescape_payload, flatten_units, Option.bind_some, ofUtf8?_utf8]

/-- Text is encoded as words of at most 75 characters with a fold between two of them, and one
before the first word exactly if its first character would end past column 74. Each word decodes on
its own, and the decoded words make up the text. No line passes column 76, and the column that is
reported is the real one. -/
theorem encode_in_words (c : Char) (cs : List Char) (offset : Nat) :
    let start := max offset 1
    let out := encode (utf8 (c :: cs)) offset
    let late := 74 < start + 10 + (Place.header.unit (String.utf8EncodeChar c)).length
    ∃ payloads chunks : List (List Char),
      out.text = (if late then "\r\n ".toList else []) ++
        "\r\n ".toList.intercalate
          (payloads.map fun p ↦ "=?utf-8?q?".toList ++ p ++ "?=".toList) ∧
      (payloads.map fun p ↦ (Place.header.unescape p).bind ofUtf8?) = chunks.map some ∧
      chunks.flatten = c :: cs ∧
      (∀ p ∈ payloads, p ≠ [] ∧ (∀ d ∈ p, Printable d ∧ d ≠ ' ' ∧ d ≠ '?') ∧
        ("=?utf-8?q?".toList ++ p ++ "?=".toList).length ≤ 75) ∧
      (∀ l ∈ (lines out.text).tail, l.length ≤ 76) ∧
      (¬ late → ∀ l ∈ (lines out.text).head?, start + l.length ≤ 76) ∧
      out.column = columnAfter start out.text := by
  intro start out late
  obtain ⟨chunk, chunks, hchunks, htext, hfirst, hall⟩ := encode_chunks c cs offset
  have hlate : Fits (max offset 1 + opening.length) [String.utf8EncodeChar c] ↔ ¬ late := by
    have hopening : opening.length = 10 := rfl
    have hmax : maxColumn = 74 := rfl
    rw [fits_singleton]
    omega
  have hword : ∀ t ∈ chunk :: chunks, 1 + (word (units (utf8 t))).length ≤ 76 :=
    fun t ht ↦ length_word_le (hall t ht).2
  simp only [hlate, ite_not] at htext hfirst
  change out.text = _ at htext
  refine ⟨(chunk :: chunks).map fun t ↦ payload (units (utf8 t)), chunk :: chunks, ?_, ?_, hchunks,
    ?_, ?_, ?_, encode_column (mt utf8_eq_nil.mp (List.cons_ne_nil c cs)) offset⟩
  · have hrow := intercalate_words (units (utf8 chunk)) (chunks.map fun t ↦ units (utf8 t))
    rw [htext, List.append_assoc, ← hrow, ← List.map_cons (f := fun t ↦ units (utf8 t)),
      List.map_map, List.map_map]
    rfl
  · rw [List.map_map]
    exact List.map_congr_left fun t _ ↦ decode_text t
  · -- On its line a word has a space before it, so that it is one shorter than the line.
    intro p hp
    obtain ⟨t, ht, rfl⟩ := List.mem_map.mp hp
    have hlength := hword t ht
    have hword : word (units (utf8 t)) =
        "=?utf-8?q?".toList ++ payload (units (utf8 t)) ++ "?=".toList := rfl
    rw [hword] at hlength
    exact ⟨payload_text (hall t ht).1, fun d hd ↦ mem_payload hd, by omega⟩
  · intro l hl
    rw [htext] at hl
    obtain ⟨g, hg, rfl⟩ := eq_word_of_mem_tail hl
    rw [← List.map_cons (f := fun t ↦ units (utf8 t))] at hg
    obtain ⟨t, ht, rfl⟩ := List.mem_map.mp hg
    have hlength := hword t ht
    rw [List.length_cons]
    omega
  · intro hnot l hl
    rw [htext, lines_encoded, if_neg hnot] at hl
    rw [← Option.some.inj hl]
    exact length_word_le (hfirst hnot)

end EncodedWord

end MimeMail.Encoding
