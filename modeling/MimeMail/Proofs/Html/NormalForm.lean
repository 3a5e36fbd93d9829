import Mathlib.Data.List.Chain
import MimeMail.Html.Pass
import MimeMail.Proofs.Html.Space

namespace MimeMail.Html

open Text

def Adjoins (c d : Char) : Prop :=
  isSpace c = true → isSpace d = true → c = '\n' ∧ d = '\n'

/-- All white space of a text is spaces and line feeds, and no space stands beside other white
space. -/
structure IsReduced (s : List Char) : Prop where
  space : ∀ c ∈ s, isSpace c = true → c = ' ' ∨ c = '\n'
  adjoins : s.IsChain Adjoins

variable {c : Char} {s t : List Char}

theorem IsReduced.within (h : IsReduced s) (ht : t <:+: s) : IsReduced t :=
  ⟨fun c hc ↦ h.space c (ht.subset hc), List.IsChain.infix h.adjoins ht⟩

theorem IsReduced.cons (hs : IsReduced s) (hc : isSpace c = true → c = ' ' ∨ c = '\n')
    (hhead : ∀ d ∈ s.head?, Adjoins c d) : IsReduced (c :: s) :=
  ⟨List.forall_mem_cons.mpr ⟨hc, hs.space⟩, List.isChain_cons.mpr ⟨hhead, hs.adjoins⟩⟩

theorem Flush.normalizeSpace (h : Flush s) : Flush (normalizeSpace s) := by
  cases s with
  | nil => rwa [normalizeSpace_nil]
  | cons c s =>
    have hc : isSpace c = false := h c rfl
    rw [normalizeSpace_cons_of_not hc]
    exact flush_cons_iff.mpr hc

theorem head_reduced (hs : IsReduced (normalizeSpace s)) :
    ∀ d ∈ (reduced s).head?, isSpace d = true → d = '\n' := by
  intro d hd hspace
  have hne : d ≠ ' ' := by
    have hhead := List.head?_dropWhile_not (· == ' ') (normalizeSpace s)
    rw [reduced] at hd
    rw [hd] at hhead
    simpa using hhead
  have hmem : d ∈ normalizeSpace s :=
    (List.dropWhile_sublist _).subset (List.mem_of_mem_head? hd)
  exact (hs.space d hmem hspace).resolve_left hne

theorem isReduced_normalizeSpace (s : List Char) : IsReduced (normalizeSpace s) := by
  induction s with
  | nil =>
    rw [normalizeSpace_nil]
    exact ⟨by simp, .nil⟩
  | cons c s ih =>
    cases hc : isSpace c with
    | false =>
      rw [normalizeSpace_cons_of_not hc]
      exact ih.cons (by simp [hc]) fun d _ hspace ↦ by simp [hc] at hspace
    | true =>
      by_cases hline : c = '\n'
      · subst hline
        rw [normalizeSpace_lineFeed]
        have htail : IsReduced (reduced s) := ih.within (List.dropWhile_suffix _).isInfix
        exact htail.cons (fun _ ↦ .inr rfl) fun d hd _ hspace ↦ ⟨rfl, head_reduced ih d hd hspace⟩
      · -- A run of blanks becomes one space where it ends.
        obtain ⟨hblank, hskip⟩ := normalizeSpace_blank (s := s) hc hline
        by_cases hs : Flush s
        · rw [hblank hs]
          refine ih.cons (fun _ ↦ .inl rfl) fun d hd _ hspace ↦ ?_
          have hseen := hs.normalizeSpace d hd
          rw [hseen] at hspace
          cases hspace
        · rwa [hskip hs]

theorem IsReduced.normalizeSpace_eq_self (h : IsReduced s) : normalizeSpace s = s := by
  induction s with
  | nil => exact normalizeSpace_nil
  | cons c s ih =>
    have hs : normalizeSpace s = s := ih (h.within (List.suffix_cons c s).isInfix)
    obtain ⟨hadjoins, -⟩ := List.isChain_cons.mp h.adjoins
    cases hc : isSpace c with
    | false => rw [normalizeSpace_cons_of_not hc, hs]
    | true =>
      rcases h.space c List.mem_cons_self hc with rfl | rfl
      · have hflush : Flush s := by
          intro d hd
          by_contra hspace
          exact absurd (hadjoins d hd hc (by simpa using hspace)).1 (by decide)
        rw [(normalizeSpace_blank hc (by decide)).1 hflush, hs]
      · have hline : ∀ d ∈ s.head?, d ≠ ' ' := by
          rintro d hd rfl
          exact absurd (hadjoins ' ' hd hc (by decide)).2 (by decide)
        rw [normalizeSpace_lineFeed, reduced, hs]
        cases s with
        | nil => rfl
        | cons d s => rw [List.dropWhile_cons_of_neg (by simpa using hline d rfl)]

theorem IsReduced.run (h : IsReduced s) (hspace : ∀ c ∈ s, isSpace c = true) :
    s = [' '] ∨ ∀ c ∈ s, c = '\n' := by
  induction s with
  | nil => exact .inr (by simp)
  | cons c s ih =>
    obtain ⟨hc, hs⟩ := List.forall_mem_cons.mp hspace
    cases s with
    | nil =>
      rcases h.space c (by simp) hc with rfl | rfl
      · exact .inl rfl
      · exact .inr (by simp)
    | cons d s =>
      obtain ⟨hadjoins, -⟩ := List.isChain_cons_cons.mp h.adjoins
      obtain ⟨rfl, rfl⟩ := hadjoins hc (hs d (by simp))
      have htail : IsReduced ('\n' :: s) := h.within (List.suffix_cons _ _).isInfix
      rcases ih htail hs with hone | hall
      · cases hone
      · exact .inr (List.forall_mem_cons.mpr ⟨rfl, hall⟩)

/-- Text whose white space is single spaces and rows of line feeds, none of it at either end. -/
structure IsNormal (s : List Char) : Prop where
  head : ∀ c ∈ s.head?, isSpace c = false
  last : ∀ c ∈ s.getLast?, isSpace c = false
  space : ∀ c ∈ s, isSpace c = true → c = ' ' ∨ c = '\n'
  run : ∀ run, run <:+: s → (∀ c ∈ run, isSpace c = true) → run = [' '] ∨ ∀ c ∈ run, c = '\n'

theorem isNormal_trim (h : IsReduced s) : IsNormal (trim s) :=
  have htrim : IsReduced (trim s) := h.within (trim_isInfix s)
  ⟨head_trim s, last_trim s, htrim.space, fun _ hrun hspace ↦ (htrim.within hrun).run hspace⟩

/-- The plain text of any markup, well-formed or not, is in normal form. -/
theorem plainText_isNormal (markup : List Char) : IsNormal (plainText markup) :=
  isNormal_trim (isReduced_normalizeSpace _)

end MimeMail.Html
