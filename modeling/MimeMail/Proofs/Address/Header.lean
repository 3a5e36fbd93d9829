import MimeMail.Address.Header
import MimeMail.Proofs.Encoding.EncodedWord
import MimeMail.Proofs.Encoding.QuotedString
import MimeMail.Proofs.Text.Utf8

namespace MimeMail

open Encoding Text

theorem AddrSpec.isGraphic_of_step {s t : Scan} {c : Char} (h : s.step c = some t) :
    isGraphic c = true := by
  unfold Scan.step at h
  split at h
  · rename_i hat
    rw [beq_iff_eq.mp hat]
    decide
  · split at h
    · exact absurd h (by simp)
    · rename_i hg
      simpa using hg

theorem AddrSpec.isGraphic_of_foldlM {addr : List Char} {s t : Scan}
    (h : addr.foldlM Scan.step s = some t) : ∀ c ∈ addr, isGraphic c = true := by
  induction addr generalizing s with
  | nil => simp
  | cons c addr ih =>
    rw [List.foldlM_cons] at h
    obtain ⟨u, hu, h⟩ := Option.bind_eq_some_iff.mp h
    intro d hd
    rcases List.mem_cons.mp hd with rfl | hd
    · exact isGraphic_of_step hu
    · exact ih h d hd

theorem AddrSpec.isGraphic_of_isValid {addr : List Char} (h : isValid addr = true) :
    ∀ c ∈ addr, isGraphic c = true := by
  unfold isValid at h
  cases hs : addr.foldlM Scan.step {} with
  | none => rw [hs] at h; exact absurd h (by simp)
  | some s => exact isGraphic_of_foldlM hs

theorem AddrSpec.printable_of_isGraphic {c : Char} (h : isGraphic c = true) :
    Printable c ∧ c ≠ ' ' := by
  have hc : '!' ≤ c ∧ c ≤ '~' := by simpa [isGraphic] using h
  refine ⟨⟨Char.le_trans (by decide) hc.1, hc.2⟩, ?_⟩
  rintro rfl
  exact absurd hc.1 (by decide)

namespace Address

theorem addr_printable (a : Address) : ∀ c ∈ a.addr.toList, Printable c ∧ c ≠ ' ' :=
  fun c hc ↦ AddrSpec.printable_of_isGraphic (AddrSpec.isGraphic_of_isValid a.valid c hc)

end Address

theorem mem_of_splitLast {c : Char} {s before after : List Char}
    (h : splitLast c s = some (before, after)) : s = before ++ c :: after := by
  induction s generalizing before with
  | nil => simp [splitLast] at h
  | cons d s ih =>
    rw [splitLast] at h
    split at h
    · rename_i b e hs
      simp only [Option.some.injEq, Prod.mk.injEq] at h
      obtain ⟨rfl, rfl⟩ := h
      rw [ih hs, List.cons_append]
    · split at h
      · rename_i hd
        simp only [Option.some.injEq, Prod.mk.injEq] at h
        obtain ⟨rfl, rfl⟩ := h
        rw [beq_iff_eq.mp hd, List.nil_append]
      · exact absurd h (by simp)

theorem splitLast_of_not_mem {c : Char} {s : List Char} (h : c ∉ s) : splitLast c s = none := by
  induction s with
  | nil => rfl
  | cons d s ih =>
    simp only [List.mem_cons, not_or] at h
    simp [splitLast, ih h.2, Ne.symm h.1]

theorem splitLast_append {c : Char} (s : List Char) {t : List Char} (h : c ∉ t) :
    splitLast c (s ++ c :: t) = some (s, t) := by
  induction s with
  | nil => simp [splitLast, splitLast_of_not_mem h]
  | cons d s ih => rw [List.cons_append, splitLast, ih]

theorem Address.domain_printable (a : Address) : ∀ c ∈ a.domain.toList, Printable c := by
  unfold domain
  split
  · rename_i b d hs
    intro c hc
    have hmem : c ∈ a.addr.toList := by
      rw [mem_of_splitLast hs]
      simp only [String.toList_ofList] at hc
      simp [hc]
    exact (a.addr_printable c hmem).1
  · simp

theorem printable_of_utf8 {s : List Char} (h : (utf8 s).all EncodedWord.isPrintable = true) :
    ∀ c ∈ s, Printable c := by
  intro c hc
  have hbytes : ∀ b ∈ String.utf8EncodeChar c, EncodedWord.isPrintable b = true :=
    fun b hb ↦ List.all_eq_true.mp h b (List.mem_flatMap.mpr ⟨c, hc, hb⟩)
  by_cases hlt : c.toNat < 128
  · rw [utf8EncodeChar_of_lt hlt] at hbytes
    have hb := EncodedWord.printable_of_isPrintable (hbytes _ List.mem_cons_self)
    rwa [UInt8.toNat_ofNat', Nat.mod_eq_of_lt (by omega), Char.ofNat_toNat] at hb
  · obtain ⟨b, t, hbt, hb⟩ := utf8EncodeChar_of_ge (Nat.le_of_not_lt hlt)
    have hp := hbytes b (by rw [hbt]; exact List.mem_cons_self)
    have hle : b ≤ 126 := (by simpa [EncodedWord.isPrintable] using hp : 32 ≤ b ∧ b ≤ 126).2
    exact absurd (UInt8.le_trans hb hle) (by decide)

namespace Address

theorem folded_encodeName (a : Address) (offset : Nat) :
    Folded Printable (a.encodeName offset).text := by
  unfold encodeName
  dsimp only
  split
  · exact .nil
  · split
    · rename_i h
      exact .of_forall (QuotedString.printable_encode (printable_of_utf8 h))
    · exact EncodedWord.folded_encode _ offset

/-- What stands between a name and its addr-spec on one line. -/
def space (a : Address) : List Char :=
  if a.name.toList.isEmpty then [] else [' ']

def angle (a : Address) : List Char :=
  '<' :: a.addr.toList ++ ['>']

theorem encode_eq (a : Address) (offset : Nat) :
    a.encode offset =
      if (a.encodeName offset).column + a.addr.toList.length ≤ maxColumn then
        ⟨(a.encodeName offset).text ++ a.space ++ a.angle,
          (a.encodeName offset).column + a.addr.toList.length + 2⟩
      else ⟨(a.encodeName offset).text ++ fold ++ a.angle, 1 + a.addr.toList.length + 2⟩ := by
  simp only [encode, space, angle, List.append_assoc, List.cons_append]

theorem printable_space (a : Address) : ∀ c ∈ a.space, Printable c := by
  unfold space
  split <;> decide

theorem printable_angle (a : Address) : ∀ c ∈ a.angle, Printable c := by
  intro c hc
  rw [angle, List.cons_append, List.mem_cons, List.mem_append, List.mem_singleton] at hc
  rcases hc with rfl | hc | rfl
  · decide
  · exact (a.addr_printable c hc).1
  · decide

theorem folded_encode (a : Address) (offset : Nat) :
    Folded Printable (a.encode offset).text := by
  have hname := a.folded_encodeName offset
  have hspace : Folded Printable a.space := .of_forall a.printable_space
  have hangle : Folded Printable a.angle := .of_forall a.printable_angle
  rw [encode_eq]
  split
  · exact (hname.append hspace).append hangle
  · exact (hname.append EncodedWord.folded_fold).append hangle

theorem folded_separator (column : Nat) : Folded Printable (separator column).text := by
  have hcomma : Printable ',' := by decide
  have hspace : Printable ' ' := by decide
  unfold separator
  split
  · exact .char hcomma (.char hspace .nil)
  · split
    · exact .char hcomma (.fold (.inl rfl) .nil)
    · exact .fold (.inl rfl) (.char hcomma (.char hspace .nil))

theorem folded_encodeRest (column : Nat) (as : List Address) :
    Folded Printable (encodeRest column as).text := by
  induction as generalizing column with
  | nil => exact .nil
  | cons a as ih =>
    exact ((folded_separator column).append (a.folded_encode _)).append (ih _)

theorem folded_encodeList (list : List Address) (offset : Nat) :
    Folded Printable (encodeList list offset) := by
  cases list with
  | nil => exact .nil
  | cons a as => exact (a.folded_encode offset).append (folded_encodeRest _ as)

end Address

end MimeMail
