import MimeMail.Proofs.Text.Lines

namespace MimeMail.Text

/-- The column behind a text that starts at a column. -/
def columnAfter (column : Nat) (s : List Char) : Nat :=
  match (lines s).tail.getLast? with
  | some l => l.length
  | none => column + s.length

/-- Of a text that starts at a column no line goes beyond the limit. -/
def Within (limit column : Nat) (s : List Char) : Prop :=
  (∀ l ∈ (lines s).head?, column + l.length ≤ limit) ∧ ∀ l ∈ (lines s).tail, l.length ≤ limit

instance (limit column : Nat) (s : List Char) : Decidable (Within limit column s) :=
  inferInstanceAs (Decidable (_ ∧ _))

variable {limit column : Nat} {s : List Char}

theorem columnAfter_append (hs : ∀ c ∈ s, InLine c) (t : List Char) :
    columnAfter column (s ++ t) = columnAfter (column + s.length) t := by
  rw [columnAfter, columnAfter, lines_append hs, List.tail_modifyHead]
  cases (lines t).tail.getLast? with
  | some l => rfl
  | none => simp only [List.length_append, Nat.add_assoc]

theorem columnAfter_of_inLine (hs : ∀ c ∈ s, InLine c) :
    columnAfter column s = column + s.length := by
  have h : columnAfter column (s ++ []) = column + s.length := columnAfter_append hs []
  rwa [List.append_nil] at h

theorem columnAfter_cons {c : Char} (hc : InLine c) (s : List Char) :
    columnAfter column (c :: s) = columnAfter (column + 1) s := by
  have hline : ∀ d ∈ [c], InLine d := by simpa using hc
  exact columnAfter_append hline s

theorem columnAfter_break (s : List Char) :
    columnAfter column ('\r' :: '\n' :: s) = columnAfter 0 s := by
  rw [columnAfter, columnAfter, lines, List.tail_cons]
  obtain ⟨l, ls, hs⟩ := List.exists_cons_of_ne_nil (lines_ne_nil s)
  rw [hs]
  cases ls with
  | nil =>
    have hl : l = s := by
      have h := unlines_lines s
      rw [hs] at h
      simpa [unlines, List.intercalate] using h
    simp [hl]
  | cons k ls => simp [List.getLast?_cons]

theorem Folded.columnAfter_append (h : Folded Printable s) (t : List Char) :
    columnAfter column (s ++ t) = columnAfter (columnAfter column s) t := by
  induction h generalizing column with
  | nil => rfl
  | char hc _ ih =>
    have hline := hc.inLine
    rw [List.cons_append, columnAfter_cons hline, columnAfter_cons hline, ih]
  | fold hb _ ih =>
    have hline := hb.inLine
    simp only [List.cons_append, columnAfter_break, columnAfter_cons hline, ih]

theorem within_append (hs : ∀ c ∈ s, InLine c) (t : List Char) :
    Within limit column (s ++ t) ↔ Within limit (column + s.length) t := by
  rw [Within, Within, lines_append hs]
  cases lines t <;> simp [Nat.add_assoc]

theorem within_of_inLine (hs : ∀ c ∈ s, InLine c) :
    Within limit column s ↔ column + s.length ≤ limit := by
  rw [Within, lines_of_inLine hs]
  simp

theorem within_cons {c : Char} (hc : InLine c) (s : List Char) :
    Within limit column (c :: s) ↔ Within limit (column + 1) s := by
  have hline : ∀ d ∈ [c], InLine d := by simpa using hc
  exact within_append hline s

theorem within_break (s : List Char) :
    Within limit column ('\r' :: '\n' :: s) ↔ column ≤ limit ∧ Within limit 0 s := by
  obtain ⟨l, ls, hs⟩ := List.exists_cons_of_ne_nil (lines_ne_nil s)
  rw [Within, Within, lines, hs]
  simp

theorem Within.column_le (h : Within limit column s) : column ≤ limit := by
  obtain ⟨l, ls, hs⟩ := List.exists_cons_of_ne_nil (lines_ne_nil s)
  have hl : column + l.length ≤ limit := h.1 l (by rw [hs]; rfl)
  exact Nat.le_trans (Nat.le_add_right ..) hl

theorem Folded.within_append (h : Folded Printable s) (t : List Char) :
    Within limit column (s ++ t) ↔
      Within limit column s ∧ Within limit (columnAfter column s) t := by
  induction h generalizing column with
  | nil =>
    have hstart : Within limit column [] ↔ column ≤ limit := within_of_inLine (by simp)
    rw [List.nil_append, hstart]
    exact ⟨fun ht ↦ ⟨ht.column_le, ht⟩, And.right⟩
  | char hc _ ih =>
    have hline := hc.inLine
    rw [List.cons_append, within_cons hline, within_cons hline, columnAfter_cons hline, ih]
  | fold hb _ ih =>
    have hline := hb.inLine
    simp only [List.cons_append, within_break, within_cons hline, columnAfter_break,
      columnAfter_cons hline, ih, and_assoc]

theorem Within.columnAfter_le (hs : Folded Printable s) (h : Within limit column s) :
    columnAfter column s ≤ limit := by
  have hend : Within limit column (s ++ []) ↔ _ := hs.within_append []
  rw [List.append_nil] at hend
  exact (hend.mp h).2.column_le

end MimeMail.Text
