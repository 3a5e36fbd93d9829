import MimeMail.Proofs.Text.Lines
import MimeMail.Text.Basic

namespace MimeMail.Text

def Visible (c : Char) : Prop :=
  Printable c ∧ c ≠ ' '

instance : DecidablePred Visible := fun _ ↦ inferInstanceAs (Decidable (_ ∧ _))

theorem Visible.inLine {c : Char} (h : Visible c) : InLine c :=
  h.1.inLine

theorem Visible.isSpace {c : Char} (h : Visible c) : isSpace c = false := by
  obtain ⟨⟨hlo, hhi⟩, hne⟩ := h
  have hlo' : 32 ≤ c.toNat := Char.le_def.mp hlo
  have hhi' : c.toNat ≤ 126 := Char.le_def.mp hhi
  have hne' : c.toNat ≠ 32 := fun h ↦ hne (Char.toNat_inj.mp h)
  simp only [Text.isSpace, Bool.or_eq_false_iff, Bool.and_eq_false_iff, decide_eq_false_iff_not,
    beq_eq_false_iff_ne]
  omega

def words (s : List Char) : List (List Char) :=
  (s.splitOnP isSpace).filter fun w ↦ !w.isEmpty

def unwords (ws : List (List Char)) : List Char :=
  [' '].intercalate ws

@[simp] theorem unwords_nil : unwords [] = [] :=
  List.intercalate_nil

@[simp] theorem unwords_singleton (w : List Char) : unwords [w] = w :=
  List.intercalate_singleton

theorem unwords_cons (w : List Char) {ws : List (List Char)} (h : ws ≠ []) :
    unwords (w :: ws) = w ++ [' '] ++ unwords ws :=
  List.intercalate_cons_of_ne_nil h

section Words

variable {c : Char}

@[simp] theorem words_nil : words [] = [] := by
  simp [words, List.splitOnP_nil]

theorem words_append_cons (hc : isSpace c = true) (s t : List Char) :
    words (s ++ c :: t) = words s ++ words t := by
  rw [words, List.splitOnP_append_cons _ _ hc, List.filter_append]
  rfl

theorem words_cons (hc : isSpace c = true) (s : List Char) : words (c :: s) = words s := by
  simpa using words_append_cons hc [] s

theorem words_of_forall {s : List Char} (hne : s ≠ []) (h : ∀ c ∈ s, isSpace c = false) :
    words s = [s] := by
  rw [words, List.splitOnP_eq_singleton h]
  simp [hne]

theorem forall_or_exists_space (s : List Char) : (∀ c ∈ s, isSpace c = false) ∨
    ∃ u c v, s = u ++ c :: v ∧ (∀ d ∈ u, isSpace d = false) ∧ isSpace c = true := by
  induction s with
  | nil => exact .inl (by simp)
  | cons d s ih =>
    cases hd : isSpace d with
    | true => exact .inr ⟨[], d, s, rfl, by simp, hd⟩
    | false =>
      rcases ih with h | ⟨u, c, v, rfl, hu, hc⟩
      · exact .inl (List.forall_mem_cons.mpr ⟨hd, h⟩)
      · exact .inr ⟨d :: u, c, v, rfl, List.forall_mem_cons.mpr ⟨hd, hu⟩, hc⟩

theorem words_spec {s w : List Char} (h : w ∈ words s) : w ≠ [] ∧ ∀ c ∈ w, isSpace c = false := by
  rcases forall_or_exists_space s with hs | ⟨u, c, v, rfl, hu, hc⟩
  · by_cases hne : s = []
    · simp [hne] at h
    · rw [words_of_forall hne hs, List.mem_singleton] at h
      exact h ▸ ⟨hne, hs⟩
  · rw [words_append_cons hc, List.mem_append] at h
    rcases h with h | h
    · exact words_spec h
    · exact words_spec h
termination_by s.length

theorem words_ne_nil {s : List Char} (h : ∃ c ∈ s, isSpace c = false) : words s ≠ [] := by
  obtain ⟨c, hmem, hc⟩ := h
  rcases forall_or_exists_space s with hs | ⟨u, d, v, rfl, hu, hd⟩
  · rw [words_of_forall (List.ne_nil_of_mem hmem) hs]
    exact List.cons_ne_nil _ _
  · rw [words_append_cons hd]
    rcases List.mem_append.mp hmem with hu' | hv
    · exact List.append_ne_nil_of_left_ne_nil (words_ne_nil ⟨c, hu', hc⟩) _
    · rcases List.mem_cons.mp hv with rfl | hv
      · exact absurd hd (by simp [hc])
      · exact List.append_ne_nil_of_right_ne_nil _ (words_ne_nil ⟨c, hv, hc⟩)
termination_by s.length

end Words

section Trim

variable {s t : List Char}

theorem trimEnd_cons (c : Char) (s : List Char) :
    trimEnd (c :: s) = if isSpace c ∧ trimEnd s = [] then [] else c :: trimEnd s := by
  simp only [trimEnd, dropTail, List.reverse_cons, List.dropWhile_append, List.reverse_eq_nil_iff,
    List.isEmpty_iff]
  by_cases hs : List.dropWhile isSpace s.reverse = []
  · by_cases hc : isSpace c <;> simp [hs, hc, List.dropWhile]
  · simp [hs]

theorem trimEnd_append_congr (h : trimEnd s = trimEnd t) (u : List Char) :
    trimEnd (u ++ s) = trimEnd (u ++ t) := by
  induction u with
  | nil => exact h
  | cons c u ih => rw [List.cons_append, List.cons_append, trimEnd_cons, trimEnd_cons, ih]

theorem trim_eq (s : List Char) : trim s = trimStart (trimEnd s) := by
  induction s with
  | nil => rfl
  | cons c s ih =>
    by_cases hc : isSpace c = true
    · have hstart : trim (c :: s) = trim s := by simp [trim, trimStart, hc]
      rw [hstart, ih, trimEnd_cons]
      split
      · rename_i h
        rw [h.2]
      · simp [trimStart, hc]
    · have hstart : trim (c :: s) = trimEnd (c :: s) := by simp [trim, trimStart, hc]
      rw [hstart, trimEnd_cons, if_neg fun h ↦ hc h.1]
      simp [trimStart, hc]

theorem trim_congr (h : trimEnd s = trimEnd t) : trim s = trim t := by
  rw [trim_eq, h, ← trim_eq]

theorem trim_isInfix (s : List Char) : trim s <:+: s := by
  have hend : trimEnd s <+: s := by
    rw [← List.reverse_suffix, trimEnd, dropTail, List.reverse_reverse]
    exact List.dropWhile_suffix isSpace
  rw [trim_eq]
  exact (List.dropWhile_suffix isSpace).isInfix.trans hend.isInfix

theorem head_dropWhile_isSpace (s : List Char) :
    ∀ c ∈ (s.dropWhile isSpace).head?, isSpace c = false := by
  intro c hc
  have hhead := List.head?_dropWhile_not isSpace s
  rw [hc] at hhead
  simpa using hhead

theorem head_trim (s : List Char) : ∀ c ∈ (trim s).head?, isSpace c = false := by
  rw [trim_eq]
  exact head_dropWhile_isSpace _

theorem last_trim (s : List Char) : ∀ c ∈ (trim s).getLast?, isSpace c = false := by
  rw [trim, trimEnd, dropTail, List.getLast?_reverse]
  exact head_dropWhile_isSpace _

/-- A text with something to be seen at both ends. -/
def IsTrimmed (s : List Char) : Prop :=
  (∃ c ∈ s.head?, isSpace c = false) ∧ ∃ c ∈ s.getLast?, isSpace c = false

theorem isTrimmed_of_forall (hne : s ≠ []) (h : ∀ c ∈ s, isSpace c = false) : IsTrimmed s :=
  ⟨⟨s.head hne, List.head?_eq_some_head hne, h _ (List.head_mem hne)⟩,
    ⟨s.getLast hne, List.getLast?_eq_some_getLast hne, h _ (List.getLast_mem hne)⟩⟩

theorem IsTrimmed.append (hs : IsTrimmed s) (ht : IsTrimmed t) (u : List Char) :
    IsTrimmed (s ++ u ++ t) := by
  obtain ⟨⟨c, hc, hhead⟩, -⟩ := hs
  obtain ⟨-, d, hd, hlast⟩ := ht
  refine ⟨⟨c, ?_, hhead⟩, d, ?_, hlast⟩
  · rw [List.append_assoc, List.head?_append, hc]
    rfl
  · rw [List.getLast?_append, hd]
    rfl

theorem isTrimmed_intercalate (sep : List Char) {xs : List (List Char)} (hne : xs ≠ [])
    (h : ∀ x ∈ xs, IsTrimmed x) : IsTrimmed (sep.intercalate xs) := by
  induction xs with
  | nil => exact absurd rfl hne
  | cons x xs ih =>
    obtain ⟨hx, hxs⟩ := List.forall_mem_cons.mp h
    cases xs with
    | nil => rwa [List.intercalate_singleton]
    | cons y ys =>
      rw [List.intercalate_cons_cons]
      exact hx.append (ih (List.cons_ne_nil y ys) hxs) sep

theorem IsTrimmed.trim_append (h : IsTrimmed s) {u v : List Char} (hu : ∀ c ∈ u, isSpace c = true)
    (hv : ∀ c ∈ v, isSpace c = true) : trim (u ++ s ++ v) = s := by
  obtain ⟨⟨c, hc, hhead⟩, d, hd, hlast⟩ := h
  have hstart : trimStart (u ++ s ++ v) = s ++ v := by
    obtain ⟨s, rfl⟩ := List.head?_eq_some_iff.mp hc
    rw [List.append_assoc, trimStart, List.dropWhile_append_of_pos hu, List.cons_append,
      List.dropWhile_cons_of_neg (by simp [hhead])]
  obtain ⟨s, rfl⟩ := List.getLast?_eq_some_iff.mp hd
  rw [trim, hstart, trimEnd, dropTail, List.reverse_append,
    List.dropWhile_append_of_pos (by simpa using hv), List.reverse_append, List.reverse_singleton,
    List.singleton_append, List.dropWhile_cons_of_neg (by simp [hlast])]
  simp

theorem IsTrimmed.trim_eq_self (h : IsTrimmed s) : trim s = s := by
  simpa using h.trim_append (u := []) (v := []) (by simp) (by simp)

end Trim

end MimeMail.Text
