import Mathlib.Data.List.Induction
import MimeMail.Proofs.Text.Lines
import MimeMail.Text.Basic

namespace MimeMail.Text

theorem isDigit_of_mem_toString {n : Nat} {c : Char} (h : c ∈ (toString n).toList) :
    c.isDigit = true := by
  have hdigits : (toString n).toList = Nat.toDigits 10 n := by simp
  rw [hdigits] at h
  exact Nat.isDigit_of_mem_toDigits (by decide) (by decide) h

theorem printable_of_isDigit {c : Char} (h : c.isDigit = true) : Printable c := by
  obtain ⟨hlo, hhi⟩ := Char.isDigit_iff_toNat.mp h
  exact ⟨Char.le_trans (by decide) (Char.le_def.mpr hlo : '0' ≤ c),
    Char.le_trans (Char.le_def.mpr hhi : c ≤ '9') (by decide)⟩

theorem printable_toString (n : Nat) : ∀ c ∈ (toString n).toList, Printable c :=
  fun _ hc ↦ printable_of_isDigit (isDigit_of_mem_toString hc)

/-- The digits of a number, perhaps with zeros before them. -/
def IsDecimal (s : List Char) (n : Nat) : Prop :=
  ∃ zeros, s = List.replicate zeros '0' ++ Nat.toDigits 10 n

section Decimal

variable {s : List Char} {m n : Nat}

theorem IsDecimal.value (h : IsDecimal s n) : Nat.ofDigitChars 10 s 0 = n := by
  obtain ⟨zeros, rfl⟩ := h
  rw [Nat.ofDigitChars_append, Nat.ofDigitChars_replicate_zero, Nat.mul_zero,
    Nat.ofDigitChars_ten_toDigits]

theorem IsDecimal.eq (h : IsDecimal s m) (h' : IsDecimal s n) : m = n :=
  h.value.symm.trans h'.value

theorem IsDecimal.ne_nil (h : IsDecimal s n) : s ≠ [] := by
  obtain ⟨zeros, rfl⟩ := h
  simp

theorem IsDecimal.isDigit (h : IsDecimal s n) : ∀ c ∈ s, c.isDigit = true := by
  obtain ⟨zeros, rfl⟩ := h
  intro c hc
  rcases List.mem_append.mp hc with hc | hc
  · rw [List.eq_of_mem_replicate hc]
    rfl
  · exact Nat.isDigit_of_mem_toDigits (by decide) (by decide) hc

theorem toDigits_of_isDigit {c : Char} (h : c.isDigit = true) :
    c.toNat - 48 < 10 ∧ Nat.toDigits 10 (c.toNat - 48) = [c] := by
  obtain ⟨hlo, hhi⟩ := Char.isDigit_iff_toNat.mp h
  have hlt : c.toNat - 48 < 10 := by
    have hlo' : 48 ≤ c.toNat := hlo
    have hhi' : c.toNat ≤ 57 := hhi
    omega
  have hchar : (c.toNat - 48).digitChar = c := by
    apply Char.toNat_inj.mp
    rw [Nat.toNat_digitChar_of_lt_ten hlt]
    have hlo' : 48 ≤ c.toNat := hlo
    omega
  rw [Nat.toDigits_of_lt_base hlt, hchar]
  exact ⟨hlt, rfl⟩

theorem IsDecimal.concat (h : IsDecimal s n) {c : Char} (hc : c.isDigit = true) :
    IsDecimal (s ++ [c]) (10 * n + (c.toNat - 48)) := by
  obtain ⟨zeros, rfl⟩ := h
  obtain ⟨hlt, hdigit⟩ := toDigits_of_isDigit hc
  rcases Nat.eq_zero_or_pos n with rfl | hn
  · refine ⟨zeros + 1, ?_⟩
    rw [Nat.mul_zero, Nat.zero_add, hdigit, List.replicate_succ']
    rfl
  · refine ⟨zeros, ?_⟩
    rw [List.append_assoc, ← hdigit, Nat.toDigits_append_toDigits (by decide) hn hlt]

theorem isDecimal_of_isDigit (hne : s ≠ []) (h : ∀ c ∈ s, c.isDigit = true) :
    IsDecimal s (Nat.ofDigitChars 10 s 0) := by
  induction s using List.reverseRecOn with
  | nil => exact absurd rfl hne
  | append_singleton s c ih =>
    obtain ⟨hs, hc⟩ := List.forall_mem_append.mp h
    have hdigit := hc c List.mem_cons_self
    rw [Nat.ofDigitChars_append, Nat.ofDigitChars_cons, Nat.ofDigitChars_nil]
    by_cases hnil : s = []
    · subst hnil
      exact ⟨0, by simpa using (toDigits_of_isDigit hdigit).2.symm⟩
    · exact (ih hnil hs).concat hdigit

theorem digitsValue?_of_isDigit (hne : s ≠ []) (h : ∀ c ∈ s, c.isDigit = true) :
    digitsValue? 10 s = some (Nat.ofDigitChars 10 s 0) := by
  have hfold (n : Nat) : s.foldlM (fun n c ↦ do
      let d ← hexValue? c
      if d < 10 then some (n * 10 + d) else none) n = some (Nat.ofDigitChars 10 s n) := by
    clear hne
    induction s generalizing n with
    | nil => rfl
    | cons c s ih =>
      obtain ⟨hc, hs⟩ := List.forall_mem_cons.mp h
      obtain ⟨hlo, hhi⟩ := Char.isDigit_iff_toNat.mp hc
      have hvalue : hexValue? c = some (c.toNat - 48) :=
        if_pos ⟨Char.le_def.mpr hlo, Char.le_def.mpr hhi⟩
      rw [List.foldlM_cons, hvalue, Nat.ofDigitChars_cons]
      simp only [Option.bind_eq_bind, Option.bind_some, (toDigits_of_isDigit hc).1, if_true]
      rw [Nat.mul_comm]
      exact ih hs _
  rw [digitsValue?, if_neg (by simpa using hne), hfold]

end Decimal

end MimeMail.Text
