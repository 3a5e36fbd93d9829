import Mathlib.Data.List.ModifyLast

namespace MimeMail.Text

abbrev Line := List Char

def lines : List Char → List Line
  | [] => [[]]
  | '\r' :: '\n' :: s => [] :: lines s
  | c :: s => (lines s).modifyHead (c :: ·)

def unlines (ls : List Line) : List Char :=
  ['\r', '\n'].intercalate ls

def deleteBreaks : List Char → List Char
  | '\r' :: '\n' :: s => deleteBreaks s
  | c :: s => c :: deleteBreaks s
  | [] => []

def InLine (c : Char) : Prop :=
  c ≠ '\r' ∧ c ≠ '\n'

def Printable (c : Char) : Prop :=
  ' ' ≤ c ∧ c ≤ '~'

/-- What a mail line is made of where nothing but ASCII is written. -/
def Plain (c : Char) : Prop :=
  c = '\t' ∨ Printable c

def IsBlank (c : Char) : Prop :=
  c = ' ' ∨ c = '\t'

instance : DecidablePred InLine := fun _ ↦ inferInstanceAs (Decidable (_ ∧ _))

instance : DecidablePred Printable := fun _ ↦ inferInstanceAs (Decidable (_ ∧ _))

instance : DecidablePred Plain := fun _ ↦ inferInstanceAs (Decidable (_ ∨ _))

instance : DecidablePred IsBlank := fun _ ↦ inferInstanceAs (Decidable (_ ∨ _))

instance decidableForallMem {p : Char → Prop} [DecidablePred p] (s : List Char) :
    Decidable (∀ c ∈ s, p c) :=
  List.decidableBAll p s

theorem Printable.inLine {c : Char} (h : Printable c) : InLine c := by
  constructor
  · rintro rfl
    exact absurd h (by decide)
  · rintro rfl
    exact absurd h (by decide)

theorem Plain.inLine {c : Char} (h : Plain c) : InLine c := by
  rcases h with rfl | h
  · exact ⟨by decide, by decide⟩
  · exact h.inLine

theorem IsBlank.inLine {c : Char} (h : IsBlank c) : InLine c := by
  rcases h with rfl | rfl <;> exact ⟨by decide, by decide⟩

theorem Plain.toNat_lt {c : Char} (h : Plain c) : c.toNat < 128 := by
  rcases h with rfl | h
  · decide
  · exact Nat.lt_of_le_of_lt (Char.le_def.mp h.2) (by decide)

theorem lines_ne_nil (s : List Char) : lines s ≠ [] := by
  fun_induction lines s with
  | case1 => simp
  | case2 => simp
  | case3 c s h ih => cases hl : lines s <;> simp_all

theorem lines_cons {c : Char} (hc : c ≠ '\r') (s : List Char) :
    lines (c :: s) = (lines s).modifyHead (c :: ·) := by
  rw [lines]
  rintro s' rfl
  exact absurd rfl hc

theorem forall_mem_modifyHead {α : Type} {p : α → Prop} {f : α → α} {xs : List α}
    (h : ∀ x ∈ xs, p x) (hf : ∀ x, p x → p (f x)) : ∀ x ∈ xs.modifyHead f, p x := by
  cases xs with
  | nil => simp
  | cons x xs =>
    intro y hy
    rcases List.mem_cons.mp hy with rfl | hy
    · exact hf x (h x List.mem_cons_self)
    · exact h y (List.mem_cons_of_mem x hy)

theorem lines_append_break (s t : List Char) :
    lines (s ++ '\r' :: '\n' :: t) = lines s ++ lines t := by
  fun_induction lines s with
  | case1 => simp [lines]
  | case2 s ih => simp [lines, ih]
  | case3 c s h ih =>
    have hs : lines (c :: (s ++ '\r' :: '\n' :: t)) =
        (lines (s ++ '\r' :: '\n' :: t)).modifyHead (c :: ·) := by
      rw [lines]
      rintro s' rfl hs'
      cases s with
      | nil => simp at hs'
      | cons d s =>
        obtain ⟨rfl, rfl⟩ := List.cons.inj hs'
        exact h s rfl rfl
    rw [List.cons_append, hs, ih]
    cases hl : lines s with
    | nil => exact absurd hl (lines_ne_nil s)
    | cons l ls => rfl

theorem lines_isInfix (before s after : List Char) :
    lines s <:+: lines (before ++ '\r' :: '\n' :: (s ++ '\r' :: '\n' :: after)) := by
  refine ⟨lines before, lines after, ?_⟩
  rw [lines_append_break, lines_append_break, List.append_assoc]

theorem lines_append {s : List Char} (h : ∀ c ∈ s, InLine c) (t : List Char) :
    lines (s ++ t) = (lines t).modifyHead (s ++ ·) := by
  induction s with
  | nil => cases hl : lines t <;> simp [hl]
  | cons c s ih =>
    have hs := ih fun d hd ↦ h d (List.mem_cons_of_mem c hd)
    rw [List.cons_append, lines_cons (h c List.mem_cons_self).1, hs]
    cases hl : lines t <;> simp

theorem lines_of_inLine {s : List Char} (h : ∀ c ∈ s, InLine c) : lines s = [s] := by
  have hs := lines_append h []
  simpa [lines] using hs

theorem modifyLast_cons {α : Type} (f : α → α) (x : α) {xs : List α} (h : xs ≠ []) :
    (x :: xs).modifyLast f = x :: xs.modifyLast f :=
  List.modifyLast_append_of_right_ne_nil f [x] xs h

theorem lines_append_inLine (s : List Char) {t : List Char} (ht : ∀ c ∈ t, InLine c) :
    lines (s ++ t) = (lines s).modifyLast (· ++ t) := by
  fun_induction lines s with
  | case1 => exact lines_of_inLine ht
  | case2 s ih =>
    rw [List.cons_append, List.cons_append, lines, ih, modifyLast_cons _ _ (lines_ne_nil s)]
  | case3 c s h ih =>
    have hs : lines (c :: (s ++ t)) = (lines (s ++ t)).modifyHead (c :: ·) := by
      rw [lines]
      rintro s' rfl hs'
      cases s with
      | nil =>
        rw [List.nil_append] at hs'
        exact absurd rfl (ht '\n' (by simp [hs'])).2
      | cons d s =>
        obtain ⟨rfl, rfl⟩ := List.cons.inj hs'
        exact h s rfl rfl
    rw [List.cons_append, hs, ih]
    obtain ⟨l, ls, hl⟩ := List.exists_cons_of_ne_nil (lines_ne_nil s)
    rw [hl]
    cases ls with
    | nil => rfl
    | cons k ls =>
      rw [modifyLast_cons _ _ (List.cons_ne_nil k ls), List.modifyHead_cons, List.modifyHead_cons,
        modifyLast_cons _ _ (List.cons_ne_nil k ls)]

theorem unlines_lines (s : List Char) : unlines (lines s) = s := by
  fun_induction lines s with
  | case1 => rfl
  | case2 s ih =>
    cases hl : lines s with
    | nil => exact absurd hl (lines_ne_nil s)
    | cons l ls =>
      rw [hl] at ih
      simpa [unlines, List.intercalate] using ih
  | case3 c s h ih =>
    cases hl : lines s with
    | nil => exact absurd hl (lines_ne_nil s)
    | cons l ls =>
      rw [hl] at ih
      cases ls <;> simpa [unlines, List.intercalate] using ih

theorem unlines_cons (l : Line) {ls : List Line} (h : ls ≠ []) :
    unlines (l :: ls) = l ++ '\r' :: '\n' :: unlines ls := by
  cases ls with
  | nil => exact absurd rfl h
  | cons k ls => simp [unlines, List.intercalate_cons_cons]

theorem lines_unlines {ls : List Line} (hne : ls ≠ []) (h : ∀ l ∈ ls, ∀ c ∈ l, InLine c) :
    lines (unlines ls) = ls := by
  induction ls with
  | nil => exact absurd rfl hne
  | cons l ls ih =>
    obtain ⟨hl, hls⟩ := List.forall_mem_cons.mp h
    rcases ls with _ | ⟨k, ls⟩
    · simpa [unlines, List.intercalate] using lines_of_inLine hl
    · rw [unlines_cons l (List.cons_ne_nil k ls), lines_append_break, lines_of_inLine hl,
        ih (List.cons_ne_nil k ls) hls, List.singleton_append]

theorem flatten_lines (s : List Char) : (lines s).flatten = deleteBreaks s := by
  fun_induction lines s with
  | case1 => rfl
  | case2 s ih => rw [deleteBreaks, List.flatten_cons, ih, List.nil_append]
  | case3 c s h ih =>
    rw [deleteBreaks, ← ih]
    · cases hl : lines s with
      | nil => exact absurd hl (lines_ne_nil s)
      | cons l ls => rfl
    · exact h

theorem deleteBreaks_sublist (s : List Char) : (deleteBreaks s).Sublist s := by
  fun_induction deleteBreaks s with
  | case1 s ih => exact (ih.cons '\n').cons '\r'
  | case2 c s h ih => exact ih.cons_cons c
  | case3 => exact .slnil

theorem mem_of_mem_lines {s : List Char} {l : Line} {c : Char} (hl : l ∈ lines s) (hc : c ∈ l) :
    c ∈ s := by
  have hflat : c ∈ (lines s).flatten := List.mem_flatten.mpr ⟨l, hl, hc⟩
  rw [flatten_lines] at hflat
  exact (deleteBreaks_sublist s).subset hflat

theorem deleteBreaks_cons {c : Char} (hc : c ≠ '\r') (s : List Char) :
    deleteBreaks (c :: s) = c :: deleteBreaks s := by
  rw [deleteBreaks]
  rintro s' rfl
  exact absurd rfl hc

theorem deleteBreaks_append {s : List Char} (h : ∀ c ∈ s, InLine c) (t : List Char) :
    deleteBreaks (s ++ t) = s ++ deleteBreaks t := by
  induction s with
  | nil => rfl
  | cons c s ih =>
    have hs := ih fun d hd ↦ h d (List.mem_cons_of_mem c hd)
    rw [List.cons_append, deleteBreaks_cons (h c List.mem_cons_self).1, hs, List.cons_append]

theorem deleteBreaks_break {s u : List Char} (hs : ∀ c ∈ s, InLine c) (hu : ∀ c ∈ u, InLine c)
    (t : List Char) :
    deleteBreaks (s ++ '\r' :: '\n' :: (u ++ t)) = s ++ (u ++ deleteBreaks t) := by
  rw [deleteBreaks_append hs, deleteBreaks, deleteBreaks_append hu]

/-- Characters of `p`, and line breaks. -/
inductive Broken (p : Char → Prop) : List Char → Prop
  | nil : Broken p []
  | char {c : Char} {s : List Char} : p c → Broken p s → Broken p (c :: s)
  | lineBreak {s : List Char} : Broken p s → Broken p ('\r' :: '\n' :: s)

/-- Characters of `p`, and line breaks with a blank behind them. -/
inductive Folded (p : Char → Prop) : List Char → Prop
  | nil : Folded p []
  | char {c : Char} {s : List Char} : p c → Folded p s → Folded p (c :: s)
  | fold {b : Char} {s : List Char} : IsBlank b → Folded p s → Folded p ('\r' :: '\n' :: b :: s)

variable {p q : Char → Prop} {s t : List Char}

theorem Broken.of_forall (h : ∀ c ∈ s, p c) : Broken p s := by
  induction s with
  | nil => exact .nil
  | cons c s ih =>
    exact .char (h c List.mem_cons_self) (ih fun d hd ↦ h d (List.mem_cons_of_mem c hd))

theorem Broken.append (hs : Broken p s) (ht : Broken p t) : Broken p (s ++ t) := by
  induction hs with
  | nil => exact ht
  | char hc _ ih => exact .char hc ih
  | lineBreak _ ih => exact .lineBreak ih

theorem Broken.mono (h : Broken p s) (hpq : ∀ c, p c → q c) : Broken q s := by
  induction h with
  | nil => exact .nil
  | char hc _ ih => exact .char (hpq _ hc) ih
  | lineBreak _ ih => exact .lineBreak ih

theorem Broken.mem (h : Broken p s) {c : Char} (hc : c ∈ s) : p c ∨ c = '\r' ∨ c = '\n' := by
  induction h with
  | nil => simp at hc
  | char hd _ ih =>
    rcases List.mem_cons.mp hc with rfl | hc
    · exact .inl hd
    · exact ih hc
  | lineBreak _ ih =>
    rcases List.mem_cons.mp hc with rfl | hc
    · exact .inr (.inl rfl)
    · rcases List.mem_cons.mp hc with rfl | hc
      · exact .inr (.inr rfl)
      · exact ih hc

theorem Broken.behind_cr (hp : ∀ c, p c → InLine c) {u v : List Char}
    (h : Broken p (u ++ '\r' :: v)) : v.head? = some '\n' := by
  generalize hs : u ++ '\r' :: v = s at h
  induction h generalizing u with
  | nil => simp at hs
  | @char c s hc _ ih =>
    cases u with
    | nil =>
      obtain ⟨rfl, -⟩ := List.cons.inj hs
      exact absurd rfl (hp _ hc).1
    | cons d u => exact ih (List.cons.inj hs).2
  | @lineBreak s _ ih =>
    cases u with
    | nil => simp [(List.cons.inj hs).2]
    | cons d u =>
      cases u with
      | nil => simp at hs
      | cons e u =>
        simp only [List.cons_append, List.cons.injEq] at hs
        exact ih hs.2.2

theorem Broken.before_lf (hp : ∀ c, p c → InLine c) {u v : List Char}
    (h : Broken p (u ++ '\n' :: v)) : u.getLast? = some '\r' := by
  generalize hs : u ++ '\n' :: v = s at h
  induction h generalizing u with
  | nil => simp at hs
  | @char c s hc _ ih =>
    cases u with
    | nil =>
      obtain ⟨rfl, -⟩ := List.cons.inj hs
      exact absurd rfl (hp _ hc).2
    | cons d u =>
      have hu := ih (List.cons.inj hs).2
      cases u with
      | nil => simp at hu
      | cons e u => simpa using hu
  | @lineBreak s _ ih =>
    cases u with
    | nil => simp at hs
    | cons d u =>
      simp only [List.cons_append, List.cons.injEq] at hs
      obtain ⟨rfl, hs⟩ := hs
      cases u with
      | nil => rfl
      | cons e u =>
        simp only [List.cons_append, List.cons.injEq] at hs
        have hu := ih hs.2
        cases u with
        | nil => simp at hu
        | cons f u => simpa using hu

theorem Folded.of_forall (h : ∀ c ∈ s, p c) : Folded p s := by
  induction s with
  | nil => exact .nil
  | cons c s ih =>
    exact .char (h c List.mem_cons_self) (ih fun d hd ↦ h d (List.mem_cons_of_mem c hd))

theorem Folded.append (hs : Folded p s) (ht : Folded p t) : Folded p (s ++ t) := by
  induction hs with
  | nil => exact ht
  | char hc _ ih => exact .char hc ih
  | fold hb _ ih => exact .fold hb ih

theorem Folded.mono (h : Folded p s) (hpq : ∀ c, p c → q c) : Folded q s := by
  induction h with
  | nil => exact .nil
  | char hc _ ih => exact .char (hpq _ hc) ih
  | fold hb _ ih => exact .fold hb ih

theorem Folded.deleteBreaks_append (hp : ∀ c, p c → InLine c) (h : Folded p s) (t : List Char) :
    deleteBreaks (s ++ t) = deleteBreaks s ++ deleteBreaks t := by
  induction h with
  | nil => rfl
  | char hc _ ih =>
    rw [List.cons_append, deleteBreaks_cons (hp _ hc).1, ih, deleteBreaks_cons (hp _ hc).1,
      List.cons_append]
  | @fold b s hb _ ih =>
    have hcr : b ≠ '\r' := hb.inLine.1
    rw [List.cons_append, List.cons_append, List.cons_append, deleteBreaks, deleteBreaks,
      deleteBreaks_cons hcr, deleteBreaks_cons hcr, ih, List.cons_append]

theorem Folded.broken (hp : ∀ b, IsBlank b → p b) (h : Folded p s) : Broken p s := by
  induction h with
  | nil => exact .nil
  | char hc _ ih => exact .char hc ih
  | fold hb _ ih => exact .lineBreak (.char (hp _ hb) ih)

theorem Folded.tail_lines (hp : ∀ c, p c → InLine c) (h : Folded p s) :
    ∀ l ∈ (lines s).tail, ∃ b, IsBlank b ∧ l.head? = some b := by
  induction h with
  | nil => simp [lines]
  | @char c s hc _ ih => rwa [lines_cons (hp c hc).1, List.tail_modifyHead]
  | @fold b s hb _ ih =>
    have hcr : b ≠ '\r' := hb.inLine.1
    rw [lines, List.tail_cons, lines_cons hcr]
    cases hl : lines s with
    | nil => exact absurd hl (lines_ne_nil s)
    | cons l ls =>
      intro k hk
      rcases List.mem_cons.mp hk with rfl | hk
      · exact ⟨b, hb, rfl⟩
      · exact ih k (by simpa [hl] using hk)

end MimeMail.Text
