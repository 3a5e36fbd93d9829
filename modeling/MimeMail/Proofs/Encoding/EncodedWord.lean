import MimeMail.Encoding.EncodedWord
import MimeMail.Proofs.Encoding.Unit

namespace MimeMail.Encoding.EncodedWord

open Text

def payload (us : List Bytes) : List Char :=
  (us.map Place.header.unit).flatten

def word (us : List Bytes) : List Char :=
  opening ++ payload us ++ closing

def foldedWords (groups : List (List Bytes)) : List Char :=
  groups.flatMap fun us ↦ fold ++ word us

theorem word_eq_cons (us : List Bytes) : ∃ t, word us = '=' :: t :=
  ⟨_, rfl⟩

theorem foldedWords_cons (us : List Bytes) (groups : List (List Bytes)) :
    foldedWords (us :: groups) = fold ++ (word us ++ foldedWords groups) := by
  rw [foldedWords, List.flatMap_cons, List.append_assoc, foldedWords]

theorem unescape_payload (us : List Bytes) :
    Place.header.unescape (payload us) = some us.flatten :=
  Place.header.unescape_flatten us

theorem payload_cons (u : Bytes) (us : List Bytes) :
    payload (u :: us) = Place.header.unit u ++ payload us := rfl

/-- Units that stand in one word, the first of them at a column. -/
def Fits (column : Nat) (us : List Bytes) : Prop :=
  column + (payload us).length ≤ maxColumn

instance (column : Nat) (us : List Bytes) : Decidable (Fits column us) :=
  inferInstanceAs (Decidable (_ ≤ _))

def foldColumn : Nat := 1 + opening.length

/-- Units of which all fit on a continuation line if the first one does. -/
def Filled (us : List Bytes) : Prop :=
  ∃ u us', us = u :: us' ∧ (Fits foldColumn [u] → Fits foldColumn us)

theorem fits_cons {column : Nat} {u : Bytes} {us : List Bytes} :
    Fits column (u :: us) ↔ Fits (column + (Place.header.unit u).length) us := by
  rw [Fits, Fits, payload_cons, List.length_append, Nat.add_assoc]

theorem fits_singleton {column : Nat} {u : Bytes} :
    Fits column [u] ↔ column + (Place.header.unit u).length ≤ maxColumn := by
  rw [fits_cons]
  exact Iff.rfl

theorem Fits.mono {column column' : Nat} {us : List Bytes} (h : Fits column us)
    (hle : column' ≤ column) : Fits column' us :=
  Nat.le_trans (Nat.add_le_add_right hle _) h

theorem goOn_text (column : Nat) (us : List Bytes) :
    ∃ first : List Bytes, ∃ rest : List (List Bytes), first ++ rest.flatten = us ∧
      (goOn column (us.map Place.header.unit)).text =
        payload first ++ closing ++ foldedWords rest ∧
      (Fits column [] → Fits column first) ∧ ∀ g ∈ rest, Filled g := by
  induction us generalizing column with
  | nil => exact ⟨[], [], rfl, rfl, id, by simp⟩
  | cons u us ih =>
    rw [List.map_cons, goOn]
    split
    · rename_i hfits
      obtain ⟨first, rest, rfl, htext, hfirst, hrest⟩ :=
        ih (column + (Place.header.unit u).length)
      refine ⟨u :: first, rest, rfl, ?_, fun _ ↦ fits_cons.mpr (hfirst hfits), hrest⟩
      simp only [htext, payload_cons, List.append_assoc]
    · obtain ⟨first, rest, rfl, htext, hfirst, hrest⟩ :=
        ih (foldColumn + (Place.header.unit u).length)
      refine ⟨[], (u :: first) :: rest, rfl, ?_, id, ?_⟩
      · rw [foldColumn] at htext
        simp only [htext, foldedWords, word, List.flatMap_cons, payload_cons, List.append_assoc]
        rfl
      · -- The unit that opens a word is written there even if it does not fit.
        intro g hg
        rcases List.mem_cons.mp hg with rfl | hg
        · exact ⟨u, first, rfl, fun h ↦ fits_cons.mpr (hfirst (fits_cons.mp h))⟩
        · exact hrest g hg

/-- Units are written as words on lines of their own, but for the first word, which goes on the
line at hand if its first unit fits there. -/
theorem words_text (offset : Nat) (u : Bytes) (us : List Bytes) :
    ∃ first : List Bytes, ∃ rest : List (List Bytes), first ++ rest.flatten = us ∧
      (words offset ((u :: us).map Place.header.unit)).text =
        (if Fits (max offset 1 + opening.length) [u] then [] else fold) ++
          word (u :: first) ++ foldedWords rest ∧
      (Fits (max offset 1 + opening.length) [u] →
        Fits (max offset 1 + opening.length) (u :: first)) ∧
      ∀ g ∈ (u :: first) :: rest, Filled g := by
  rw [List.map_cons, words]
  dsimp only
  split
  · rename_i hfits
    obtain ⟨first, rest, rfl, htext, hfirst, hrest⟩ :=
      goOn_text (max offset 1 + opening.length + (Place.header.unit u).length) us
    have hword := fits_cons.mpr (hfirst hfits)
    refine ⟨first, rest, rfl, ?_, fun _ ↦ hword, List.forall_mem_cons.mpr ⟨?_, hrest⟩⟩
    · rw [if_pos (fits_singleton.mpr hfits)]
      simp only [htext, word, payload_cons, List.append_assoc, List.nil_append]
    · have hcolumn : foldColumn ≤ max offset 1 + opening.length := by
        rw [foldColumn]
        omega
      exact ⟨u, first, rfl, fun _ ↦ hword.mono hcolumn⟩
  · rename_i hfits
    obtain ⟨first, rest, rfl, htext, hfirst, hrest⟩ :=
      goOn_text (foldColumn + (Place.header.unit u).length) us
    have hnot := mt fits_singleton.mp hfits
    refine ⟨first, rest, rfl, ?_, fun h ↦ absurd h hnot, List.forall_mem_cons.mpr ⟨?_, hrest⟩⟩
    · rw [foldColumn] at htext
      rw [if_neg hnot]
      simp only [htext, word, payload_cons, List.append_assoc]
    · exact ⟨u, first, rfl, fun h ↦ fits_cons.mpr (hfirst (fits_cons.mp h))⟩

theorem encode_text {s : Bytes} (hs : s ≠ []) (offset : Nat) :
    ∃ lead : List Char, ∃ first : List Bytes, ∃ rest : List (List Bytes),
      (lead = [] ∨ lead = fold) ∧ (first :: rest).flatten = units s ∧
        (encode s offset).text = lead ++ word first ++ foldedWords rest := by
  rw [encode, Place.encode]
  cases hu : units s with
  | nil => exact absurd hu (units_ne_nil hs)
  | cons u us =>
    obtain ⟨first, rest, rfl, htext, -, -⟩ := words_text offset u us
    refine ⟨_, u :: first, rest, ?_, rfl, htext⟩
    split
    · exact .inl rfl
    · exact .inr rfl

theorem mem_payload {us : List Bytes} {c : Char} (h : c ∈ payload us) :
    Printable c ∧ c ≠ ' ' ∧ c ≠ '?' := by
  obtain ⟨e, he, hc⟩ := List.mem_flatten.mp h
  obtain ⟨u, -, rfl⟩ := List.mem_map.mp he
  rcases (Place.header.escaped_unit u).mem hc with ⟨h, -⟩ | rfl | h
  · exact ⟨h.1, h.2.2.2, h.2.2.1⟩
  · decide
  · refine ⟨h.printable, ?_, ?_⟩
    · rintro rfl
      exact absurd h (by decide)
    · rintro rfl
      exact absurd h (by decide)

theorem mem_word {us : List Bytes} {c : Char} (h : c ∈ word us) : Printable c ∧ c ≠ ' ' := by
  have hopening : ∀ c ∈ opening, Printable c ∧ c ≠ ' ' := by decide
  have hclosing : ∀ c ∈ closing, Printable c ∧ c ≠ ' ' := by decide
  rw [word, List.mem_append, List.mem_append] at h
  rcases h with (h | h) | h
  · exact hopening c h
  · exact ⟨(mem_payload h).1, (mem_payload h).2.1⟩
  · exact hclosing c h

theorem inLine_word (us : List Bytes) : ∀ c ∈ word us, InLine c :=
  fun _ hc ↦ (mem_word hc).1.inLine

theorem folded_word (us : List Bytes) : Folded Printable (word us) :=
  .of_forall fun _ hc ↦ (mem_word hc).1

theorem folded_fold {p : Char → Prop} : Folded p fold :=
  .fold (.inl rfl) .nil

theorem folded_foldedWords (groups : List (List Bytes)) :
    Folded Printable (foldedWords groups) := by
  induction groups with
  | nil => exact .nil
  | cons us groups ih =>
    rw [foldedWords_cons]
    exact folded_fold.append ((folded_word us).append ih)

theorem folded_encode (s : Bytes) (offset : Nat) : Folded Printable (encode s offset).text := by
  by_cases hs : s = []
  · subst hs
    rw [encode, Place.encode, units]
    exact .nil
  · obtain ⟨lead, first, rest, hlead, -, htext⟩ := encode_text hs offset
    rw [htext]
    refine .append (.append ?_ (folded_word first)) (folded_foldedWords rest)
    rcases hlead with rfl | rfl
    · exact .nil
    · exact folded_fold

theorem printable_of_isPrintable {b : UInt8} (h : isPrintable b = true) :
    Printable (Char.ofNat b.toNat) := by
  have hall : ∀ b : UInt8, isPrintable b = true → Printable (Char.ofNat b.toNat) := by
    apply forall_byte
    decide +kernel
  exact hall b h

theorem folded_encodeIfNeeded (s : Bytes) (offset : Nat) :
    Folded Printable (encodeIfNeeded s offset) := by
  rw [encodeIfNeeded]
  split
  · rename_i h
    refine .of_forall fun c hc ↦ ?_
    obtain ⟨b, hb, rfl⟩ := List.mem_map.mp hc
    exact printable_of_isPrintable (List.all_eq_true.mp h b hb)
  · exact folded_encode s offset

end MimeMail.Encoding.EncodedWord
