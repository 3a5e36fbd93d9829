import Mathlib.Data.List.TakeWhile

namespace MimeMail.Text

variable {d : Char} {s s' t t' : List Char}

theorem bne_of_not_mem (hs : d ∉ s) : ∀ c ∈ s, (c != d) = true := by
  intro c hc
  rw [bne_iff_ne]
  rintro rfl
  exact hs hc

theorem takeWhile_append_cons (hs : d ∉ s) (t : List Char) :
    (s ++ d :: t).takeWhile (· != d) = s := by
  rw [List.takeWhile_append_of_pos (bne_of_not_mem hs), List.takeWhile_cons_of_neg (by simp),
    List.append_nil]

theorem dropWhile_append_cons {p : Char → Bool} (hs : ∀ c ∈ s, p c = true) (hd : p d = false)
    (t : List Char) : (s ++ d :: t).dropWhile p = d :: t := by
  rw [List.dropWhile_append_of_pos hs, List.dropWhile_cons_of_neg (by simp [hd])]

theorem eq_of_append_cons_eq (hs : d ∉ s) (hs' : d ∉ s') (h : s ++ d :: t = s' ++ d :: t') :
    s = s' ∧ t = t' := by
  have hfront : s = s' := by
    rw [← takeWhile_append_cons hs t, h, takeWhile_append_cons hs']
  rw [hfront] at h
  exact ⟨hfront, (List.cons.inj (List.append_cancel_left h)).2⟩

variable {β : Type} (sep : List Char) (f : β → List Char)

theorem flatMap_append_comm (xs : List β) :
    (xs.flatMap fun x ↦ sep ++ f x) ++ sep = sep ++ xs.flatMap fun x ↦ f x ++ sep := by
  induction xs with
  | nil => simp
  | cons x xs ih => simp only [List.flatMap_cons, List.append_assoc, ih]

theorem intercalate_map (x : β) (xs : List β) :
    sep.intercalate ((x :: xs).map f) = f x ++ xs.flatMap (sep ++ f ·) := by
  induction xs generalizing x with
  | nil => simp
  | cons y ys ih =>
    rw [List.map_cons, List.map_cons, List.intercalate_cons_cons, ← List.map_cons, ih,
      List.flatMap_cons, List.append_assoc, List.append_assoc]

end MimeMail.Text
