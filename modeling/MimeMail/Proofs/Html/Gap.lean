import Mathlib.Data.List.Forall2
import Mathlib.Data.List.TakeWhile
import MimeMail.Proofs.Html.Space

namespace MimeMail.Html

open Text

variable {c : Char} {s t : List Char}

/-- White space that stands before, between and behind the characters of a text that are seen. Each
of these is a whole run of white space, or nothing. -/
def gaps (s : List Char) : List (List Char) :=
  s.splitOnP fun c ↦ !isSpace c

/-- The same is seen of two texts, with white space at the same places and as many line feeds in
each run of it. -/
structure KeepsBreaks (s t : List Char) : Prop where
  seen : t.filter (fun c ↦ !isSpace c) = s.filter fun c ↦ !isSpace c
  breaks :
    List.Forall₂ (fun g h ↦ (h = [] ↔ g = []) ∧ h.count '\n' = g.count '\n') (gaps s) (gaps t)

theorem gaps_of_forall (h : ∀ c ∈ s, isSpace c = true) : gaps s = [s] :=
  List.splitOnP_eq_singleton fun c hc ↦ by simp [h c hc]

theorem gaps_append_cons (hc : isSpace c = false) (s t : List Char) :
    gaps (s ++ c :: t) = gaps s ++ gaps t :=
  List.splitOnP_append_cons s t (by simp [hc])

theorem KeepsBreaks.append_cons {s' t' : List Char} (hs : KeepsBreaks s s') (ht : KeepsBreaks t t')
    (hc : isSpace c = false) : KeepsBreaks (s ++ c :: t) (s' ++ c :: t') := by
  refine ⟨by simp [hs.seen, ht.seen, hc], ?_⟩
  rw [gaps_append_cons hc, gaps_append_cons hc]
  exact List.rel_append hs.breaks ht.breaks

theorem count_reducedRun (s : List Char) : (reducedRun s).count '\n' = s.count '\n' := by
  rw [reducedRun]
  split
  case h_1 hcount => simp [hcount]
  case h_2 => simp

theorem mem_reducedRun (hc : c ∈ reducedRun s) : isSpace c = true := by
  rw [reducedRun] at hc
  split at hc
  · obtain rfl := List.mem_singleton.mp hc
    decide
  · obtain rfl := List.eq_of_mem_replicate hc
    decide

theorem reducedRun_ne_nil (s : List Char) : reducedRun s ≠ [] := by
  rw [reducedRun]
  split
  case h_1 => exact List.cons_ne_nil _ _
  case h_2 hcount => simpa using hcount

theorem normalizeSpace_of_run (hne : s ≠ []) (h : ∀ c ∈ s, isSpace c = true) :
    normalizeSpace s = reducedRun s := by
  obtain ⟨c, s, rfl⟩ := List.exists_cons_of_ne_nil hne
  obtain ⟨hc, hs⟩ := List.forall_mem_cons.mp h
  rw [normalizeSpace_cons hc, List.takeWhile_eq_self_iff.mpr hs, List.dropWhile_eq_nil_iff.mpr hs,
    normalizeSpace_nil, List.append_nil]

theorem normalizeSpace_run_append (h : ∀ d ∈ s, isSpace d = true) (hc : isSpace c = false)
    (t : List Char) : normalizeSpace (s ++ c :: t) = normalizeSpace s ++ c :: normalizeSpace t := by
  cases s with
  | nil => rw [normalizeSpace_nil, List.nil_append, List.nil_append, normalizeSpace_cons_of_not hc]
  | cons d s =>
    obtain ⟨hd, hs⟩ := List.forall_mem_cons.mp h
    have hflush : Flush (c :: t) := flush_cons_iff.mpr hc
    rw [normalizeSpace_of_run (List.cons_ne_nil d s) h, List.cons_append, normalizeSpace_cons hd,
      List.takeWhile_append_of_pos hs, List.dropWhile_append_of_pos hs, hflush.takeWhile,
      hflush.dropWhile, List.append_nil, normalizeSpace_cons_of_not hc]

theorem keepsBreaks_of_run (h : ∀ c ∈ s, isSpace c = true) : KeepsBreaks s (normalizeSpace s) := by
  by_cases hne : s = []
  · subst hne
    rw [normalizeSpace_nil]
    exact ⟨rfl, .cons ⟨Iff.rfl, rfl⟩ .nil⟩
  · rw [normalizeSpace_of_run hne h]
    have hreduced : ∀ c ∈ reducedRun s, isSpace c = true := fun _ ↦ mem_reducedRun
    constructor
    · rw [List.filter_eq_nil_iff.mpr (by simpa using hreduced),
        List.filter_eq_nil_iff.mpr (by simpa using h)]
    · rw [gaps_of_forall h, gaps_of_forall hreduced]
      exact .cons ⟨by simp [hne, reducedRun_ne_nil], count_reducedRun s⟩ .nil

theorem keepsBreaks_normalizeSpace (s : List Char) : KeepsBreaks s (normalizeSpace s) := by
  -- The run of white space before what is still to be read is kept apart.
  suffices h : ∀ u, (∀ c ∈ u, isSpace c = true) → KeepsBreaks (u ++ s) (normalizeSpace (u ++ s)) by
    simpa using h []
  induction s with
  | nil => simpa using fun u ↦ keepsBreaks_of_run (s := u)
  | cons c s ih =>
    intro u hu
    cases hc : isSpace c with
    | true =>
      have hlonger := ih (u ++ [c]) (List.forall_mem_append.mpr ⟨hu, by simp [hc]⟩)
      rwa [List.append_assoc] at hlonger
    | false =>
      have hrest : KeepsBreaks s (normalizeSpace s) := by simpa using ih []
      rw [normalizeSpace_run_append hu hc]
      exact (keepsBreaks_of_run hu).append_cons hrest hc

end MimeMail.Html
