import MimeMail.Html.Pass
import MimeMail.Proofs.Text.Replace

namespace MimeMail.Html

open Text

theorem dropWord?_eq_some_iff {w s t : List Char} :
    dropWord? w s = some t ↔ ∃ u, s = u ++ t ∧ u.map foldCase = w := by
  induction w generalizing s with
  | nil => simp [dropWord?, eq_comm]
  | cons d w ih =>
    cases s with
    | nil => simp [dropWord?]
    | cons c s =>
      rw [dropWord?]
      constructor
      · intro h
        split at h
        · rename_i hc
          obtain ⟨u, rfl, rfl⟩ := ih.mp h
          exact ⟨c :: u, rfl, by rw [List.map_cons, beq_iff_eq.mp hc]⟩
        · exact absurd h (by simp)
      · rintro ⟨u, hs, hu⟩
        cases u with
        | nil => simp at hu
        | cons e u =>
          obtain ⟨rfl, rfl⟩ := List.cons.inj hs
          obtain ⟨rfl, rfl⟩ := List.cons.inj hu
          rw [if_pos (beq_self_eq_true _)]
          exact ih.mpr ⟨u, rfl, rfl⟩

theorem dropWord?_append {w u : List Char} (h : u.map foldCase = w) (t : List Char) :
    dropWord? w (u ++ t) = some t :=
  dropWord?_eq_some_iff.mpr ⟨u, rfl, h⟩

theorem dropWord?_eq_none_iff {w s : List Char} :
    dropWord? w s = none ↔ ¬ w <+: s.map foldCase := by
  rw [Option.eq_none_iff_forall_ne_some]
  constructor
  · rintro h ⟨t, ht⟩
    obtain ⟨u, v, rfl, hu, -⟩ := List.map_eq_append_iff.mp ht.symm
    exact h v (dropWord?_append hu v)
  · rintro h t ht
    obtain ⟨u, rfl, rfl⟩ := dropWord?_eq_some_iff.mp ht
    exact h ⟨t.map foldCase, by rw [List.map_append]⟩

theorem foldCase_eq_iff {c d : Char} (hd : d < 'A') : foldCase c = d ↔ c = d := by
  have hd' : d.toNat < 65 := hd
  have hne (e : Char) (he : 65 ≤ e.toNat) : e ≠ d := by
    rintro rfl
    omega
  unfold foldCase
  split
  · rename_i h
    rw [beq_iff_eq.mp h]
    exact iff_of_false (hne _ (by decide)) (hne _ (by decide))
  · split
    · rename_i h
      rw [beq_iff_eq.mp h]
      exact iff_of_false (hne _ (by decide)) (hne _ (by decide))
    · unfold Char.toLower
      split
      · rename_i h
        have hlo : 65 ≤ c.val.toNat := UInt32.le_iff_toNat_le.mp h.1
        have hhi : c.val.toNat ≤ 90 := UInt32.le_iff_toNat_le.mp h.2
        have hlower : 65 ≤ (c.val + ('a'.val - 'A'.val)).toNat := by
          rw [UInt32.toNat_add]
          have hdiff : ('a'.val - 'A'.val).toNat = 32 := rfl
          omega
        exact iff_of_false (hne _ hlower) (hne _ hlo)
      · exact Iff.rfl

theorem mem_map_foldCase {d : Char} (hd : d < 'A') {s : List Char} :
    d ∈ s.map foldCase ↔ d ∈ s := by
  simp [foldCase_eq_iff hd]

theorem dropWord?_cons_of_ne {c d : Char} {w : List Char} (hw : w.head? = some d)
    (hc : foldCase c ≠ d) (s : List Char) : dropWord? w (c :: s) = none := by
  obtain ⟨w, rfl⟩ := List.head?_eq_some_iff.mp hw
  rw [dropWord?, if_neg (mt beq_iff_eq.mp hc)]

theorem dropWord?_of_ne_bracket {c : Char} {w : List Char} (hw : w.head? = some '<')
    (hc : c ≠ '<') (s : List Char) : dropWord? w (c :: s) = none :=
  dropWord?_cons_of_ne hw (mt (foldCase_eq_iff (by decide)).mp hc) s

theorem declines_of_bracket_not_mem {w s t : List Char} (hw : w.head? = some '<') (hs : '<' ∉ s) :
    Declines (dropWord? w) s t :=
  .of_forall fun _ hc u ↦ dropWord?_of_ne_bracket hw (fun h ↦ hs (h ▸ hc)) u

end MimeMail.Html
