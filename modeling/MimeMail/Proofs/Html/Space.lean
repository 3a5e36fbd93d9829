import MimeMail.Html.Pass
import MimeMail.Proofs.Text.Space

namespace MimeMail.Html

open Text

variable {c : Char} {s : List Char}

theorem normalizeSpace_nil : normalizeSpace [] = [] :=
  spaceRun.apply_nil

theorem normalizeSpace_cons_of_not (hc : isSpace c = false) (s : List Char) :
    normalizeSpace (c :: s) = c :: normalizeSpace s :=
  Rule.apply_of_none (by simp [spaceRun, hc])

theorem normalizeSpace_cons (hc : isSpace c = true) (s : List Char) :
    normalizeSpace (c :: s) =
      reducedRun (c :: s.takeWhile isSpace) ++ normalizeSpace (s.dropWhile isSpace) := by
  have hrun : spaceRun (c :: s) = some ⟨reducedRun (c :: s.takeWhile isSpace),
      s.dropWhile isSpace, Nat.lt_succ_of_le (List.dropWhile_sublist _).length_le⟩ := by
    simp [spaceRun, hc]
  exact Rule.apply_of_some hrun

def Flush (s : List Char) : Prop :=
  ∀ c ∈ s.head?, isSpace c = false

@[simp] theorem flush_nil : Flush [] := by
  simp [Flush]

@[simp] theorem flush_cons_iff : Flush (c :: s) ↔ isSpace c = false := by
  simp [Flush]

theorem flush_or_space (s : List Char) :
    Flush s ∨ ∃ c t, s = c :: t ∧ isSpace c = true := by
  cases s with
  | nil => exact .inl flush_nil
  | cons c t =>
    cases hc : isSpace c with
    | false => exact .inl (flush_cons_iff.mpr hc)
    | true => exact .inr ⟨c, t, rfl, hc⟩

/-- Reduced text as it stands behind a line feed, which takes a space in front with it. -/
def reduced (s : List Char) : List Char :=
  (normalizeSpace s).dropWhile (· == ' ')

theorem Flush.takeWhile (h : Flush s) : s.takeWhile isSpace = [] := by
  cases s with
  | nil => rfl
  | cons c s => exact List.takeWhile_cons_of_neg (by simp [h c rfl])

theorem Flush.dropWhile (h : Flush s) : s.dropWhile isSpace = s := by
  cases s with
  | nil => rfl
  | cons c s => exact List.dropWhile_cons_of_neg (by simp [h c rfl])

theorem Flush.reduced (h : Flush s) : reduced s = normalizeSpace s := by
  cases s with
  | nil => rw [Html.reduced, normalizeSpace_nil]; rfl
  | cons c s =>
    have hc : isSpace c = false := h c rfl
    have hne : (c == ' ') = false := by
      rw [beq_eq_false_iff_ne]
      rintro rfl
      exact absurd hc (by decide)
    rw [Html.reduced, normalizeSpace_cons_of_not hc, List.dropWhile_cons_of_neg (by simp [hne])]

theorem flush_dropWhile (s : List Char) : Flush (s.dropWhile isSpace) :=
  head_dropWhile_isSpace s

@[simp] theorem reduced_nil : reduced [] = [] := by
  rw [reduced, normalizeSpace_nil]
  rfl

theorem normalizeSpace_lineFeed (s : List Char) :
    normalizeSpace ('\n' :: s) = '\n' :: reduced s := by
  have hspace : isSpace '\n' = true := by decide
  rw [normalizeSpace_cons hspace]
  rcases flush_or_space s with hs | ⟨c, t, rfl, hc⟩
  · rw [hs.takeWhile, hs.dropWhile, hs.reduced]
    rfl
  · have hrest := (flush_dropWhile t).reduced
    rw [List.takeWhile_cons_of_pos hc, List.dropWhile_cons_of_pos hc, reduced,
      normalizeSpace_cons hc, reducedRun, reducedRun, List.count_cons_self]
    generalize List.count '\n' (c :: List.takeWhile isSpace t) = n
    cases n with
    | zero => simpa [reduced] using hrest.symm
    | succ n => simp [List.replicate_succ]

theorem normalizeSpace_blank (hc : isSpace c = true) (hne : c ≠ '\n') :
    (Flush s → normalizeSpace (c :: s) = ' ' :: normalizeSpace s) ∧
      (¬ Flush s → normalizeSpace (c :: s) = normalizeSpace s) := by
  rw [normalizeSpace_cons hc]
  constructor
  · intro hs
    rw [hs.takeWhile, hs.dropWhile, reducedRun, List.count_singleton]
    simp [hne]
  · intro hs
    obtain hflush | ⟨d, t, rfl, hd⟩ := flush_or_space s
    · exact absurd hflush hs
    · rw [List.takeWhile_cons_of_pos hd, List.dropWhile_cons_of_pos hd, normalizeSpace_cons hd,
        reducedRun, List.count_cons_of_ne (by simp [hne]), ← reducedRun]

theorem reduced_cons_of_not (hc : isSpace c = false) (s : List Char) :
    reduced (c :: s) = c :: normalizeSpace s := by
  have hflush : Flush (c :: s) := flush_cons_iff.mpr hc
  rw [hflush.reduced, normalizeSpace_cons_of_not hc]

theorem reduced_lineFeed (s : List Char) : reduced ('\n' :: s) = '\n' :: reduced s := by
  rw [reduced, normalizeSpace_lineFeed]
  rfl

theorem reduced_blank (hc : isSpace c = true) (hne : c ≠ '\n') (s : List Char) :
    reduced (c :: s) = reduced s := by
  obtain ⟨hblank, hskip⟩ := normalizeSpace_blank (s := s) hc hne
  by_cases hs : Flush s
  · rw [reduced, hblank hs]
    rfl
  · rw [reduced, hskip hs, reduced]

theorem normalizeSpace_eq_reduced (h : ∀ c ∈ s.head?, c = '\n') :
    normalizeSpace s = reduced s := by
  cases s with
  | nil => rw [reduced_nil, normalizeSpace_nil]
  | cons c s =>
    obtain rfl : c = '\n' := h c rfl
    rw [normalizeSpace_lineFeed, reduced_lineFeed]

theorem trimEnd_word_blank {t u : List Char} (ht : ∀ c ∈ t.head?, c = '\n')
    (hne : u ≠ []) (hu : ∀ c ∈ u, isSpace c = false) (hc : isSpace c = true) (hline : c ≠ '\n')
    (hword : trimEnd (u ++ normalizeSpace (s ++ t)) =
      trimEnd (unwords (words (u ++ s)) ++ reduced t))
    (hrest : trimEnd (reduced (s ++ t)) = trimEnd (unwords (words s) ++ reduced t)) :
    trimEnd (u ++ normalizeSpace (c :: (s ++ t))) =
      trimEnd (unwords (words (u ++ c :: s)) ++ reduced t) := by
  obtain ⟨hblank, hskip⟩ := normalizeSpace_blank (s := s ++ t) hc hline
  rw [words_append_cons hc]
  rcases flush_or_space s with hs | ⟨d, s, rfl, hd⟩
  · cases s with
    | nil =>
      have hspace : trimEnd [' '] = trimEnd [] := by decide
      cases t with
      | nil =>
        rw [hblank hs, List.append_nil, normalizeSpace_nil, words_of_forall hne hu]
        simpa using trimEnd_append_congr hspace u
      | cons d t =>
        obtain rfl : d = '\n' := ht d rfl
        have hbreak : ¬ Flush ([] ++ '\n' :: t) := by simp; decide
        rw [hskip hbreak, hword]
        simp
    | cons d s =>
      have hseen : ∃ e ∈ d :: s, isSpace e = false := ⟨d, List.mem_cons_self, hs d rfl⟩
      have hflush : Flush (d :: s ++ t) := by simpa [Flush] using hs
      rw [hblank hflush, ← hflush.reduced, words_of_forall hne hu, List.singleton_append,
        unwords_cons u (words_ne_nil hseen)]
      simpa using trimEnd_append_congr hrest (u ++ [' '])
  · have hnot : ¬ Flush (d :: s ++ t) := by simp [hd]
    rw [hskip hnot, hword, words_append_cons hd, words_cons hd]

/-- Up to the next line feed the words are kept, both those behind a line feed and those that go on
from the characters `u` of one. -/
theorem trimEnd_line {t : List Char} (ht : ∀ c ∈ t.head?, c = '\n') (hs : '\n' ∉ s) :
    (∀ u ≠ [], (∀ c ∈ u, isSpace c = false) → trimEnd (u ++ normalizeSpace (s ++ t)) =
      trimEnd (unwords (words (u ++ s)) ++ reduced t)) ∧
    trimEnd (reduced (s ++ t)) = trimEnd (unwords (words s) ++ reduced t) := by
  induction s with
  | nil =>
    refine ⟨fun u hne hu ↦ ?_, by simp⟩
    rw [List.nil_append, List.append_nil, normalizeSpace_eq_reduced ht, words_of_forall hne hu,
      unwords_singleton]
  | cons c s ih =>
    obtain ⟨hword, hrest⟩ := ih (List.not_mem_of_not_mem_cons hs)
    rw [List.cons_append]
    cases hc : isSpace c with
    | false =>
      rw [normalizeSpace_cons_of_not hc, reduced_cons_of_not hc]
      refine ⟨fun u hne hu ↦ ?_, hword [c] (by simp) (by simp [hc])⟩
      have hlonger := hword (u ++ [c]) (by simp) (List.forall_mem_append.mpr ⟨hu, by simp [hc]⟩)
      rwa [List.append_assoc, List.append_assoc] at hlonger
    | true =>
      have hline : c ≠ '\n' := by
        rintro rfl
        exact hs List.mem_cons_self
      rw [reduced_blank hc hline, words_cons hc]
      exact ⟨fun u hne hu ↦ trimEnd_word_blank ht hne hu hc hline (hword u hne hu) hrest, hrest⟩

theorem trimEnd_reduced {ls : List (List Char)} (hs : '\n' ∉ s) (hls : ∀ l ∈ ls, '\n' ∉ l) :
    trimEnd (reduced (s ++ ls.flatMap ('\n' :: ·))) =
      trimEnd (unwords (words s) ++ ls.flatMap fun l ↦ '\n' :: unwords (words l)) := by
  induction ls generalizing s with
  | nil => simpa using (trimEnd_line (t := []) (by simp) hs).2
  | cons l ls ih =>
    obtain ⟨hl, hls⟩ := List.forall_mem_cons.mp hls
    rw [(trimEnd_line (by simp) hs).2, List.flatMap_cons, List.flatMap_cons, List.cons_append,
      reduced_lineFeed]
    exact trimEnd_append_congr (trimEnd_append_congr (ih hl hls) ['\n']) _

/-- White space between the words of a line is reduced to one space, and line feeds are kept. -/
theorem trim_normalizeSpace {ls : List (List Char)} (hs : '\n' ∉ s) (hls : ∀ l ∈ ls, '\n' ∉ l) :
    trim (normalizeSpace (s ++ ls.flatMap ('\n' :: ·))) =
      trim (unwords (words s) ++ ls.flatMap fun l ↦ '\n' :: unwords (words l)) := by
  have hstart (t : List Char) : trimStart (normalizeSpace t) = trimStart (reduced t) := by
    rw [reduced]
    generalize normalizeSpace t = u
    induction u with
    | nil => rfl
    | cons c u ih =>
      by_cases hc : c = ' '
      · subst hc
        exact ih
      · rw [List.dropWhile_cons_of_neg (by simpa using hc)]
  rw [← trim_congr (trimEnd_reduced hs hls), trim, hstart]
  rfl

end MimeMail.Html
