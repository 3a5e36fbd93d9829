import MimeMail.Proofs.Address.MailboxList
import MimeMail.Proofs.Encoding.WordLines
import MimeMail.Proofs.Text.Space
import MimeMail.Proofs.Wire.Boundary

namespace MimeMail.Subject

open Encoding EncodedWord MailboxList Text

def behindWord (s : List Char) : List Char :=
  if (word? (run (skip (behind s)))).isSome then skip (behind s) else behind s

theorem length_behind_lt {c : Char} (hc : ¬ IsBlank c) (s : List Char) :
    (behind (c :: s)).length < (c :: s).length := by
  have hrun : run (c :: s) = c :: run s := run_append (u := [c]) (by simpa using hc) s
  have hsum := length_run_add (c :: s)
  rw [hrun, List.length_cons] at hsum
  omega

theorem length_behindWord_le (s : List Char) : (behindWord s).length ≤ (behind s).length := by
  rw [behindWord]
  split
  · exact length_skip_le _
  · exact Nat.le_refl _

def read (s : List Char) : Bytes :=
  match s with
  | [] => []
  | c :: t =>
    if _hc : IsBlank c then utf8 [c] ++ read t
    else
      match word? (run (c :: t)) with
      | some b => b ++ read (behindWord (c :: t))
      | none => utf8 (run (c :: t)) ++ read (behind (c :: t))
termination_by s.length
decreasing_by
  · simp
  · exact Nat.lt_of_le_of_lt (length_behindWord_le _) (length_behind_lt _hc _)
  · exact length_behind_lt _hc _

section Words

theorem run_word {us : List Bytes} {s : List Char} (hs : s = [] ∨ ∃ t, s = ' ' :: t) :
    run (word us ++ s) = word us ∧ behind (word us ++ s) = s := by
  have hword : ∀ c ∈ word us, ¬ IsBlank c := fun _ hc ↦ not_blank_of_mem_word hc
  rw [run_append hword, behind_append hword]
  rcases hs with rfl | ⟨t, rfl⟩
  · exact ⟨List.append_nil _, rfl⟩
  · exact ⟨List.append_nil _, rfl⟩

theorem read_word {us : List Bytes} {s : List Char} (hs : s = [] ∨ ∃ t, s = ' ' :: t) :
    read (word us ++ s) = us.flatten ++ read (behindWord (word us ++ s)) := by
  obtain ⟨w, hw⟩ := word_eq_cons us
  obtain ⟨hrun, -⟩ : run (word us ++ s) = word us ∧ _ := run_word hs
  rw [hw, List.cons_append] at hrun ⊢
  rw [read, dif_neg (by decide), hrun, ← hw, word?_word]

theorem skip_word (us : List Bytes) (s : List Char) : skip (word us ++ s) = word us ++ s := by
  obtain ⟨w, hw⟩ := word_eq_cons us
  rw [hw, List.cons_append, skip_cons (by decide)]

theorem read_words (first : List Bytes) (rest : List (List Bytes)) :
    read (word first ++ spacedWords rest) = (first :: rest).flatten.flatten := by
  induction rest generalizing first with
  | nil =>
    have hnil : behindWord (word first ++ []) = [] := by
      rw [behindWord, (run_word (.inl rfl)).2]
      rfl
    rw [spacedWords, List.flatMap_nil, read_word (.inl rfl), hnil, read]
    simp
  | cons us rest ih =>
    have hcons : spacedWords (us :: rest) = ' ' :: (word us ++ spacedWords rest) := rfl
    have hrest : spacedWords rest = [] ∨ ∃ t, spacedWords rest = ' ' :: t := by
      cases rest with
      | nil => exact .inl rfl
      | cons us' rest => exact .inr ⟨_, rfl⟩
    have hbehind : behindWord (word first ++ spacedWords (us :: rest)) =
        word us ++ spacedWords rest := by
      rw [behindWord, (run_word (.inr ⟨_, hcons⟩)).2, hcons, skip_space, skip_word,
        (run_word hrest).1, word?_word]
      rfl
    rw [read_word (.inr ⟨_, hcons⟩), hbehind, ih]
    simp

end Words

/-- The first unit of what is encoded does not fit on the line at hand. -/
def IsLate (s : Bytes) (offset : Nat) : Prop :=
  ∃ u ∈ (units s).head?, 74 < max offset 1 + 10 + (Place.header.unit u).length

variable {s : Bytes} {offset : Nat}

theorem unfold_encode (hs : s ≠ []) (offset : Nat) :
    ∃ lead first rest, (first :: rest).flatten.flatten = s ∧
      (IsLate s offset → lead = [' ']) ∧ (¬ IsLate s offset → lead = []) ∧
      deleteBreaks (encode s offset).text = lead ++ (word first ++ spacedWords rest) := by
  rw [encode, Place.encode]
  cases hunits : units s with
  | nil => exact absurd hunits (units_ne_nil hs)
  | cons u us =>
    obtain ⟨first, rest, rfl, htext, -, -⟩ := words_text offset u us
    have hlate : IsLate s offset ↔ ¬ Fits (max offset 1 + opening.length) [u] := by
      have hopening : opening.length = 10 := rfl
      have hmax : maxColumn = 74 := rfl
      rw [IsLate, hunits, fits_singleton, hopening, hmax, Nat.not_le]
      simp
    have hflatten : ((u :: first) :: rest).flatten.flatten = s := by
      rw [← flatten_units s, hunits]
      rfl
    have hwords : deleteBreaks (word (u :: first) ++ foldedWords rest) =
        word (u :: first) ++ spacedWords rest := by
      rw [deleteBreaks_append (inLine_word _), deleteBreaks_foldedWords]
    rw [htext, List.append_assoc]
    by_cases hfits : Fits (max offset 1 + opening.length) [u]
    · refine ⟨[], u :: first, rest, hflatten, fun h ↦ absurd hfits (hlate.mp h), fun _ ↦ rfl, ?_⟩
      rw [if_pos hfits, List.nil_append, hwords, List.nil_append]
    · refine ⟨[' '], u :: first, rest, hflatten, fun _ ↦ rfl,
        fun h ↦ absurd (hlate.mpr hfits) h, ?_⟩
      have hfold (t : List Char) : deleteBreaks (fold ++ t) = [' '] ++ deleteBreaks t := rfl
      rw [if_neg hfits, hfold, hwords]

theorem read_space (s : List Char) : read (' ' :: s) = 32 :: read s := by
  rw [read, dif_pos (by decide)]
  rfl

theorem read_encode (hs : s ≠ []) (offset : Nat) :
    (IsLate s offset → read (deleteBreaks (encode s offset).text) = 32 :: s) ∧
      (¬ IsLate s offset → read (deleteBreaks (encode s offset).text) = s) := by
  obtain ⟨lead, first, rest, rfl, hlate, hfits, htext⟩ := unfold_encode hs offset
  rw [htext]
  constructor
  · intro h
    rw [hlate h, List.singleton_append, read_space, read_words]
  · intro h
    rw [hfits h, List.nil_append, read_words]

theorem encode_injective {s' : Bytes} (hs : s ≠ []) (hs' : s' ≠ [])
    (h : (encode s offset).text = (encode s' offset).text) : s = s' := by
  -- A blank before the first word is skipped, so that it does not matter which of the two is late.
  have hskip {s : Bytes} (hs : s ≠ []) : read (skip (deleteBreaks (encode s offset).text)) = s := by
    obtain ⟨lead, first, rest, rfl, hlate, hfits, htext⟩ := unfold_encode hs offset
    have hlead : skip (lead ++ (word first ++ spacedWords rest)) =
        word first ++ spacedWords rest := by
      by_cases hl : IsLate (first :: rest).flatten.flatten offset
      · rw [hlate hl, List.singleton_append, skip_space, skip_word]
      · rw [hfits hl, List.nil_append, skip_word]
    rw [htext, hlead, read_words]
  rw [← hskip hs, h, hskip hs']

theorem not_late_subject (t : List Char) : ¬ IsLate (utf8 t) 9 := by
  rintro ⟨u, hu, hlate⟩
  rw [units_utf8] at hu
  obtain ⟨c, -, rfl⟩ := List.mem_map.mp (List.mem_of_mem_head? hu)
  have hlength := Place.header.length_char_le c
  omega

section Verbatim

theorem utf8_ofBytes (h : s.all isPrintable = true) : utf8 (ofBytes s) = s := by
  have hbyte : ∀ b : UInt8, isPrintable b = true →
      String.utf8EncodeChar (Char.ofNat b.toNat) = [b] := by
    apply forall_byte
    decide +kernel
  induction s with
  | nil => rfl
  | cons b s ih =>
    obtain ⟨hb, hs⟩ := Bool.and_eq_true_iff.mp h
    exact congrArg₂ (· ++ ·) (hbyte b hb) (ih hs)

theorem printable_ofBytes (h : s.all isPrintable = true) : ∀ c ∈ ofBytes s, Printable c :=
  printable_of_utf8 (by rwa [utf8_ofBytes h])

theorem ofBytes_utf8_of_printable {t : List Char} (h : ∀ c ∈ t, Printable c) :
    ofBytes (utf8 t) = t :=
  ofBytes_utf8 fun c hc ↦ Plain.toNat_lt (.inr (h c hc))

theorem encodeIfNeeded_of_printable (h : s.all isPrintable = true) (offset : Nat) :
    encodeIfNeeded s offset = ofBytes s :=
  if_pos h

theorem encodeIfNeeded_of_not (h : s.all isPrintable = false) (offset : Nat) :
    encodeIfNeeded s offset = (encode s offset).text :=
  if_neg (by simp [h])

theorem ne_nil_of_not (h : s.all isPrintable = false) : s ≠ [] := by
  rintro rfl
  cases h

theorem length_unescape_le {p : Encoding.Place} {t : List Char} {b : Bytes}
    (h : p.unescape t = some b) : b.length ≤ t.length := by
  fun_induction Encoding.Place.unescape p t generalizing b with
  | case1 c d t ih =>
    simp only [Option.bind_eq_bind, Option.bind_eq_some_iff, Option.map_eq_some_iff] at h
    obtain ⟨-, -, -, -, b', hb', rfl⟩ := h
    have hle := ih hb'
    simp only [List.length_cons]
    omega
  | case2 c t _ ih =>
    simp only [Option.bind_eq_bind, Option.bind_eq_some_iff, Option.map_eq_some_iff] at h
    obtain ⟨-, -, b', hb', rfl⟩ := h
    exact Nat.succ_le_succ (ih hb')
  | case3 => simp [← Option.some.inj h]

theorem length_lt_of_word? {w : List Char} {b : Bytes} (h : word? w = some b) :
    b.length < w.length := by
  obtain ⟨t, ht, hpayload⟩ := Option.bind_eq_some_iff.mp h
  obtain ⟨payload, hclosing, hbytes⟩ := Option.bind_eq_some_iff.mp hpayload
  obtain rfl := Wire.dropPrefix?_eq_some.mp ht
  obtain rfl := Wire.dropSuffix?_eq_some.mp hclosing
  have hopening : "=?utf-8?q?".toList.length = 10 := rfl
  have hle : b.length ≤ payload.length := by
    split at hbytes
    · cases hbytes
    · exact length_unescape_le hbytes
  simp only [List.length_append]
  omega

theorem length_le_utf8 (t : List Char) : t.length ≤ (utf8 t).length := by
  induction t with
  | nil => exact Nat.le_refl 0
  | cons c t ih =>
    have hpos := c.utf8Size_pos
    rw [utf8_cons, List.length_append, List.length_cons, String.length_utf8EncodeChar]
    omega

theorem length_utf8_run_add (t : List Char) :
    (utf8 (run t)).length + (utf8 (behind t)).length = (utf8 t).length := by
  rw [← List.length_append, ← utf8_append, run, behind, List.takeWhile_append_dropWhile]

theorem length_utf8_behindWord_le (t : List Char) :
    (utf8 (behindWord t)).length ≤ (utf8 (behind t)).length := by
  have hsuffix : behindWord t <:+ behind t := by
    rw [behindWord]
    split
    · exact List.dropWhile_suffix _
    · exact List.suffix_rfl
  obtain ⟨u, hu⟩ := hsuffix
  rw [← hu, utf8_append, List.length_append]
  omega

theorem length_word_add_lt {t : List Char} {b : Bytes} (h : word? (run t) = some b) :
    b.length + (utf8 (behindWord t)).length < (utf8 t).length := by
  have hword := length_lt_of_word? h
  have hrun := length_le_utf8 (run t)
  have hsum := length_utf8_run_add t
  have hbehind := length_utf8_behindWord_le t
  omega

theorem length_read_le (t : List Char) : (read t).length ≤ (utf8 t).length := by
  fun_induction read t with
  | case1 => exact Nat.le_refl 0
  | case2 c t _ ih =>
    have hcons : utf8 (c :: t) = utf8 [c] ++ utf8 t := utf8_append [c] t
    rw [hcons, List.length_append, List.length_append]
    exact Nat.add_le_add_left ih _
  | case3 c t _ b hb ih =>
    have hword := length_word_add_lt hb
    rw [List.length_append]
    omega
  | case4 c t _ _ ih =>
    have hsum := length_utf8_run_add (c :: t)
    rw [List.length_append]
    omega

theorem words_eq_run_cons {c : Char} {t : List Char} (hc : ¬ IsBlank c)
    (ht : ∀ d ∈ c :: t, Printable d) :
    Text.words (c :: t) = run (c :: t) :: Text.words (behind (c :: t)) := by
  have hne : run (c :: t) ≠ [] := by
    have hrun : run (c :: t) = c :: run t := run_append (u := [c]) (by simpa using hc) t
    simp [hrun]
  have hseen : ∀ d ∈ run (c :: t), isSpace d = false := by
    intro d hd
    have hblank : ¬ IsBlank d := by simpa using List.mem_takeWhile_imp hd
    have hmem := (List.takeWhile_sublist _).subset hd
    exact Visible.isSpace ⟨ht d hmem, fun h ↦ hblank (.inl h)⟩
  have happend : run (c :: t) ++ behind (c :: t) = c :: t := List.takeWhile_append_dropWhile
  cases hbehind : behind (c :: t) with
  | nil =>
    rw [hbehind, List.append_nil] at happend
    rw [words_nil, ← words_of_forall hne hseen, happend]
  | cons b u =>
    have hb : isSpace b = true := by
      have hhead := List.head?_dropWhile_not (fun d ↦ !decide (IsBlank d)) (c :: t)
      rw [← behind, hbehind] at hhead
      have hblank : IsBlank b := by simpa using hhead
      rcases hblank with rfl | rfl <;> decide
    rw [hbehind] at happend
    have hwords := words_append_cons hb (run (c :: t)) u
    rw [happend, words_of_forall hne hseen] at hwords
    rw [hwords, words_cons hb]
    rfl

/-- Printable text is read as it is if none of its words is an encoded one, and else as something
shorter. -/
theorem read_printable {t : List Char} (ht : ∀ c ∈ t, Printable c) :
    ((∀ w ∈ Text.words t, word? w = none) ∧ read t = utf8 t) ∨
      (¬ (∀ w ∈ Text.words t, word? w = none) ∧ (read t).length < (utf8 t).length) := by
  fun_induction read t with
  | case1 => exact .inl ⟨by simp, rfl⟩
  | case2 c t hc ih =>
    have hspace : isSpace c = true := by rcases hc with rfl | rfl <;> decide
    have hcons : utf8 (c :: t) = utf8 [c] ++ utf8 t := utf8_append [c] t
    rw [words_cons hspace, hcons]
    rcases ih (List.forall_mem_cons.mp ht).2 with ⟨hnone, hread⟩ | ⟨hsome, hlt⟩
    · exact .inl ⟨hnone, by rw [hread]⟩
    · refine .inr ⟨hsome, ?_⟩
      rw [List.length_append, List.length_append]
      exact Nat.add_lt_add_left hlt _
  | case3 c t hc b hb ih =>
    refine .inr ⟨fun hnone ↦ ?_, ?_⟩
    · rw [words_eq_run_cons hc ht] at hnone
      rw [hnone _ List.mem_cons_self] at hb
      cases hb
    · have hword := length_word_add_lt hb
      have hrest := length_read_le (behindWord (c :: t))
      rw [List.length_append]
      omega
  | case4 c t hc hb ih =>
    have hbehind : ∀ d ∈ behind (c :: t), Printable d :=
      fun d hd ↦ ht d ((List.dropWhile_sublist _).subset hd)
    have happend : run (c :: t) ++ behind (c :: t) = c :: t := List.takeWhile_append_dropWhile
    rw [words_eq_run_cons hc ht, List.forall_mem_cons]
    rcases ih hbehind with ⟨hnone, hread⟩ | ⟨hsome, hlt⟩
    · exact .inl ⟨⟨hb, hnone⟩, by rw [hread, ← utf8_append, happend]⟩
    · have hsum := length_utf8_run_add (c :: t)
      refine .inr ⟨fun h ↦ hsome h.2, ?_⟩
      rw [List.length_append]
      omega

theorem read_printable_iff {t : List Char} (ht : ∀ c ∈ t, Printable c) :
    read t = utf8 t ↔ ∀ w ∈ Text.words t, word? w = none := by
  rcases read_printable ht with ⟨hnone, hread⟩ | ⟨hsome, hlt⟩
  · exact ⟨fun _ ↦ hnone, fun _ ↦ hread⟩
  · refine ⟨fun h ↦ ?_, fun h ↦ absurd h hsome⟩
    rw [h] at hlt
    exact absurd hlt (Nat.lt_irrefl _)

end Verbatim

/-- Printable bytes that are what other bytes are encoded as. -/
def IsTwin (offset : Nat) (s s' : Bytes) : Prop :=
  s.all isPrintable = true ∧ s'.all isPrintable = false ∧ s = utf8 (encode s' offset).text

theorem IsTwin.encodeIfNeeded_eq {s' : Bytes} (h : IsTwin offset s s') :
    encodeIfNeeded s offset = encodeIfNeeded s' offset := by
  obtain ⟨hs, hs', rfl⟩ := h
  rw [encodeIfNeeded_of_printable hs, encodeIfNeeded_of_not hs',
    ofBytes_utf8_of_printable (printable_of_utf8 hs)]

theorem isTwin_of_eq {s' : Bytes} (hs : s.all isPrintable = true)
    (hs' : s'.all isPrintable = false) (h : encodeIfNeeded s offset = encodeIfNeeded s' offset) :
    IsTwin offset s s' := by
  rw [encodeIfNeeded_of_printable hs, encodeIfNeeded_of_not hs'] at h
  exact ⟨hs, hs', by rw [← h, utf8_ofBytes hs]⟩

theorem encodeIfNeeded_eq_iff {s' : Bytes} (hne : s ≠ s') :
    encodeIfNeeded s offset = encodeIfNeeded s' offset ↔
      IsTwin offset s s' ∨ IsTwin offset s' s := by
  constructor
  · intro h
    cases hs : s.all isPrintable <;> cases hs' : s'.all isPrintable
    · rw [encodeIfNeeded_of_not hs, encodeIfNeeded_of_not hs'] at h
      exact absurd (encode_injective (ne_nil_of_not hs) (ne_nil_of_not hs') h) hne
    · exact .inr (isTwin_of_eq hs' hs h.symm)
    · exact .inl (isTwin_of_eq hs hs' h)
    · rw [encodeIfNeeded_of_printable hs, encodeIfNeeded_of_printable hs'] at h
      have hbytes := congrArg utf8 h
      rw [utf8_ofBytes hs, utf8_ofBytes hs'] at hbytes
      exact absurd hbytes hne
  · rintro (h | h)
    · exact h.encodeIfNeeded_eq
    · exact h.encodeIfNeeded_eq.symm

/-- A subject that is encoded is read back, behind the space of the fold if its first character does
not fit on the line, as any character does on the line of a subject. A printable subject is written
as it is, and is read back exactly if none of its words is an encoded word. Two subjects have the
same text only if one of them is printable and is the encoded text of the other. -/
theorem subject_reads_back (s : Bytes) (offset : Nat) :
    let out := encodeIfNeeded s offset
    (s.all isPrintable = false →
      (¬ IsLate s offset → read (deleteBreaks out) = s) ∧
      (IsLate s offset → read (deleteBreaks out) = 32 :: s)) ∧
    (s.all isPrintable = true → utf8 out = s ∧
      (read (deleteBreaks out) = s ↔ ∀ w ∈ Text.words out, word? w = none)) ∧
    (∀ t, ¬ IsLate (utf8 t) 9) ∧
    ∀ s', s ≠ s' → (out = encodeIfNeeded s' offset ↔ IsTwin offset s s' ∨ IsTwin offset s' s) := by
  intro out
  refine ⟨fun hs ↦ ?_, fun hs ↦ ?_, not_late_subject, fun s' hne ↦ encodeIfNeeded_eq_iff hne⟩
  · obtain ⟨hlate, hfits⟩ := read_encode (ne_nil_of_not hs) offset
    rw [← encodeIfNeeded_of_not hs] at hlate hfits
    exact ⟨hfits, hlate⟩
  · have hout : out = ofBytes s := encodeIfNeeded_of_printable hs offset
    have hprintable := printable_ofBytes hs
    have hunfold : deleteBreaks (ofBytes s) = ofBytes s := by
      have hdelete := deleteBreaks_append (fun c hc ↦ (hprintable c hc).inLine) []
      rwa [List.append_nil, deleteBreaks, List.append_nil] at hdelete
    have hiff := read_printable_iff hprintable
    rw [utf8_ofBytes hs] at hiff
    rw [hout, hunfold]
    exact ⟨utf8_ofBytes hs, hiff⟩

theorem lookalike_reads_back :
    let cut := utf8 "Re: =?utf-8?q?x".toList
    let mixed := utf8 "ä =?utf-8?q?x?=".toList
    read (deleteBreaks (encodeIfNeeded cut 9)) = cut ∧
      read (deleteBreaks (encodeIfNeeded mixed 9)) = mixed := by
  intro cut mixed
  obtain ⟨-, hcut, -, -⟩ := subject_reads_back cut 9
  obtain ⟨hmixed, -, hlate, -⟩ := subject_reads_back mixed 9
  refine ⟨(hcut (by decide +kernel)).2.mpr (by decide +kernel), ?_⟩
  exact (hmixed (by decide +kernel)).1 (hlate _)

/-- An encoded word for a subject has the text of what it stands for. A late character is read with
a space before it. -/
theorem encodedWord_reads_as_letter :
    let word := utf8 "=?utf-8?q?=C3=A4?=".toList
    let letter := utf8 ['ä']
    encodeIfNeeded word 9 = encodeIfNeeded letter 9 ∧ word ≠ letter ∧
      read (deleteBreaks (encodeIfNeeded word 9)) = letter ∧
      read (deleteBreaks (encodeIfNeeded letter 70)) ≠ letter := by
  decide +kernel

end MimeMail.Subject
