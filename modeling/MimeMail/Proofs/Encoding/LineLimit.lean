import MimeMail.Proofs.Encoding.Base64Lines
import MimeMail.Proofs.Encoding.QuotedPrintable
import MimeMail.Proofs.Text.Column

namespace MimeMail.Encoding

open Text

def lineLimit : Nat := 76

def WithinLimit (s : List Char) : Prop :=
  ∀ l ∈ lines s, l.length ≤ lineLimit

def WithinLimitFrom (column : Nat) (s : List Char) : Prop :=
  (∀ l ∈ (lines s).head?, column + l.length ≤ lineLimit) ∧
    ∀ l ∈ (lines s).tail, l.length ≤ lineLimit

def bytesPerLine : Nat := 25

/-- A lead byte with so many continuation bytes behind it that they do not fit on a line. -/
def Overlong (s : Bytes) : Prop :=
  ∃ before lead run after, s = before ++ lead :: (run ++ after) ∧ isLead lead = true ∧
    (∀ b ∈ run, isContinuation b = true) ∧ run.length = bytesPerLine

section

variable {column : Nat} {s t u : List Char}

theorem withinLimitFrom_zero : WithinLimitFrom 0 s ↔ WithinLimit s := by
  rw [WithinLimitFrom, WithinLimit]
  cases hl : lines s with
  | nil => exact absurd hl (lines_ne_nil s)
  | cons l ls => simp

theorem WithinLimitFrom.column_le (h : WithinLimitFrom column s) : column ≤ lineLimit :=
  Within.column_le h

theorem withinLimitFrom_of_inLine (hs : ∀ c ∈ s, InLine c) :
    WithinLimitFrom column s ↔ column + s.length ≤ lineLimit :=
  within_of_inLine hs

theorem withinLimitFrom_append (hu : ∀ c ∈ u, InLine c) :
    WithinLimitFrom column (u ++ s) ↔ WithinLimitFrom (column + u.length) s :=
  within_append hu s

theorem withinLimitFrom_softBreak :
    WithinLimitFrom column (QuotedPrintable.softBreak ++ s) ↔
      column + 1 ≤ lineLimit ∧ WithinLimit s := by
  have hbreak : QuotedPrintable.softBreak ++ s = ['='] ++ '\r' :: '\n' :: s := rfl
  rw [WithinLimitFrom, hbreak, lines_append_break, lines_of_inLine (by decide)]
  simp [WithinLimit]

end

theorem overlong_of_units {s u : Bytes} (h : u ∈ units s) (hu : bytesPerLine < u.length) :
    Overlong s := by
  obtain ⟨lead, run, rfl, halone, hrun⟩ := eq_of_mem_units h
  have hlead : isLead lead = true := by
    cases hl : isLead lead with
    | true => rfl
    | false =>
      rw [halone hl] at hu
      exact absurd hu (by decide : ¬ bytesPerLine < 1)
  obtain ⟨us, us', hus⟩ := List.append_of_mem h
  refine ⟨us.flatten, lead, run.take bytesPerLine, run.drop bytesPerLine ++ us'.flatten, ?_, hlead,
    fun b hb ↦ hrun b (List.mem_of_mem_take hb), ?_⟩
  · rw [← flatten_units s, hus, List.flatten_append, List.flatten_cons,
      ← List.append_assoc (run.take _), List.take_append_drop, List.cons_append]
  · exact List.length_take_of_le (Nat.le_of_lt_succ hu)

theorem dropWhile_append_cons {p : UInt8 → Bool} {b : UInt8} (hb : p b = false) (s t : Bytes) :
    ∃ s', (s ++ b :: t).dropWhile p = s' ++ b :: t := by
  rw [List.dropWhile_append]
  split
  · exact ⟨[], List.dropWhile_cons_of_neg (ne_true_of_eq_false hb)⟩
  · exact ⟨_, rfl⟩

theorem exists_units_of_overlong {s : Bytes} (h : Overlong s) :
    ∃ u ∈ units s, bytesPerLine < u.length := by
  obtain ⟨before, lead, run, after, hs, hlead, hrun, hlength⟩ := h
  fun_induction units s generalizing before with
  | case1 => simp at hs
  | case2 b s hb ih =>
    cases before with
    | nil =>
      obtain ⟨rfl, rfl⟩ := List.cons.inj hs
      refine ⟨_, List.mem_cons_self, ?_⟩
      rw [List.takeWhile_append_of_pos hrun, List.length_cons, List.length_append, hlength]
      exact Nat.lt_succ_of_le (Nat.le_add_right ..)
    | cons c before =>
      obtain ⟨rfl, rfl⟩ := List.cons.inj hs
      -- The first unit ends before the lead byte, which is no continuation byte.
      obtain ⟨before', hbefore⟩ :=
        dropWhile_append_cons (isContinuation_of_isLead hlead) before (run ++ after)
      obtain ⟨u, hu, hlong⟩ := ih before' hbefore
      exact ⟨u, List.mem_cons_of_mem _ hu, hlong⟩
  | case3 b s hb ih =>
    cases before with
    | nil =>
      obtain ⟨rfl, -⟩ := List.cons.inj hs
      exact absurd hlead hb
    | cons c before =>
      obtain ⟨u, hu, hlong⟩ := ih before (List.cons.inj hs).2
      exact ⟨u, List.mem_cons_of_mem _ hu, hlong⟩

theorem overlong_iff {s : Bytes} : Overlong s ↔ ∃ u ∈ units s, bytesPerLine < u.length :=
  ⟨exists_units_of_overlong, fun ⟨_, hu, hlong⟩ ↦ overlong_of_units hu hlong⟩

theorem not_overlong_utf8 (s : List Char) : ¬ Overlong (utf8 s) := by
  rw [overlong_iff, units_utf8]
  rintro ⟨u, hu, hlong⟩
  obtain ⟨c, -, rfl⟩ := List.mem_map.mp hu
  rw [String.length_utf8EncodeChar] at hlong
  exact absurd (Nat.lt_of_lt_of_le hlong c.utf8Size_le_four) (by decide)

theorem length_byte (b : UInt8) : (Place.body.byte b).length ≤ 3 ∧
    (0x80 ≤ b → (Place.body.byte b).length = 3) := by
  revert b
  apply forall_byte
  decide +kernel

theorem length_unit_of_escaped {u : Bytes} (h : ∀ b ∈ u, 0x80 ≤ b) :
    (Place.body.unit u).length = 3 * u.length := by
  induction u with
  | nil => rfl
  | cons b u ih =>
    obtain ⟨hb, hu⟩ := List.forall_mem_cons.mp h
    have hrest := ih hu
    rw [Place.unit] at hrest ⊢
    rw [List.flatMap_cons, List.length_append, (length_byte b).2 hb, hrest, List.length_cons]
    omega

theorem length_unit {s u : Bytes} (h : u ∈ units s) :
    (u.length = 1 ∧ (Place.body.unit u).length ≤ 3) ∨
      (Place.body.unit u).length = 3 * u.length := by
  obtain ⟨b, run, rfl, halone, hrun⟩ := eq_of_mem_units h
  cases hb : isLead b with
  | false =>
    rw [halone hb, Place.unit, List.flatMap_singleton]
    exact .inl ⟨rfl, (length_byte b).1⟩
  | true =>
    refine .inr (length_unit_of_escaped (List.forall_mem_cons.mpr ⟨?_, fun d hd ↦ ?_⟩))
    · exact UInt8.le_trans (by decide) (of_decide_eq_true hb)
    · exact of_decide_eq_true (Bool.and_eq_true_iff.mp (hrun d hd)).1

theorem length_unit_le {s u : Bytes} (h : u ∈ units s) :
    (Place.body.unit u).length ≤ QuotedPrintable.maxColumn ↔ u.length ≤ bytesPerLine := by
  have hmax : QuotedPrintable.maxColumn = 75 := rfl
  have hbytes : bytesPerLine = 25 := rfl
  rcases length_unit h with ⟨h₁, h₃⟩ | hlength <;> omega

theorem length_unit_ne {s u : Bytes} (h : u ∈ units s) :
    (Place.body.unit u).length ≠ lineLimit := by
  have hlimit : lineLimit = 76 := rfl
  rcases length_unit h with ⟨h₁, h₃⟩ | hlength <;> omega

namespace QuotedPrintable

/-- Units that fit on a line each are written on lines within the limit, and only these. -/
theorem withinLimitFrom_lines {us : List (List Char)} (hline : ∀ u ∈ us, ∀ c ∈ u, InLine c)
    (hlength : ∀ u ∈ us, u.length ≠ lineLimit) {t : List Char} (ht : t = [] ∨ t = ['='])
    {column : Nat} (hc : column ≤ maxColumn) :
    WithinLimitFrom column (lines column us ++ t) ↔ ∀ u ∈ us, u.length ≤ maxColumn := by
  have hlimit : lineLimit = maxColumn + 1 := rfl
  induction us generalizing column with
  | nil =>
    have hend : WithinLimitFrom column t := by
      have hequals : ∀ c ∈ t, InLine c := by
        rcases ht with rfl | rfl <;> decide
      rw [withinLimitFrom_of_inLine hequals]
      rcases ht with rfl | rfl
      · exact Nat.le_succ_of_le hc
      · exact Nat.succ_le_succ hc
    simpa [lines] using hend
  | cons u us ih =>
    obtain ⟨hu, hus⟩ := List.forall_mem_cons.mp hline
    obtain ⟨hne, hnes⟩ := List.forall_mem_cons.mp hlength
    rw [List.forall_mem_cons, lines]
    split
    · rename_i hfits
      rw [List.append_assoc, withinLimitFrom_append hu]
      refine (ih hus hnes hfits).trans ⟨fun h ↦ ⟨?_, h⟩, And.right⟩
      exact Nat.le_trans (Nat.le_add_left ..) hfits
    · rw [List.append_assoc, List.append_assoc, withinLimitFrom_softBreak, ← withinLimitFrom_zero,
        withinLimitFrom_append hu, Nat.zero_add]
      constructor
      · rintro ⟨-, h⟩
        have hfits : u.length ≤ maxColumn := by
          have hle := h.column_le
          omega
        exact ⟨hfits, (ih hus hnes hfits).mp h⟩
      · rintro ⟨hfits, h⟩
        exact ⟨Nat.succ_le_succ hc, (ih hus hnes hfits).mpr h⟩

theorem withinLimit_encode {s : Bytes} : WithinLimit (encode s) ↔ ¬ Overlong s := by
  have hline : ∀ u ∈ Place.body.encode s, ∀ c ∈ u, InLine c :=
    fun u hu c hc ↦ Place.inLine_of_mem_encode hu hc
  have hne : ∀ u ∈ Place.body.encode s, u.length ≠ lineLimit :=
    List.forall_mem_map.mpr fun u hu ↦ length_unit_ne hu
  have htail : (if endsInBlank s then ['='] else []) = [] ∨
      (if endsInBlank s then ['='] else []) = ['='] := by
    split <;> simp
  rw [← withinLimitFrom_zero, encode, withinLimitFrom_lines hline hne htail (Nat.zero_le _),
    Place.encode, List.forall_mem_map, overlong_iff]
  simp only [not_exists, not_and, Nat.not_lt]
  exact forall₂_congr fun u hu ↦ length_unit_le hu

end QuotedPrintable

theorem Base64.withinLimit_encode (s : Bytes) : WithinLimit (Base64.encode s) := by
  rw [WithinLimit, Base64.lines_encode]
  exact fun l hl ↦ Base64.length_le_of_mem_cut (by decide) hl

end MimeMail.Encoding
