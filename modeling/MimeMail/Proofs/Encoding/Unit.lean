import MimeMail.Encoding.QuotedPrintable
import MimeMail.Proofs.Text.Lines
import MimeMail.Proofs.Text.Utf8
import MimeMail.Text.Basic

namespace MimeMail.Encoding

open Text

theorem flatten_units (s : Bytes) : (units s).flatten = s := by
  fun_induction units s with
  | case1 => rfl
  | case2 b s h ih =>
    rw [List.flatten_cons, ih, List.cons_append, List.takeWhile_append_dropWhile]
  | case3 b s h ih => rw [List.flatten_cons, ih, List.singleton_append]

/-- A unit is a lead byte with the continuation bytes behind it, or any byte alone. -/
theorem eq_of_mem_units {s u : Bytes} (h : u ∈ units s) :
    ∃ b run, u = b :: run ∧ (isLead b = false → run = []) ∧
      ∀ d ∈ run, isContinuation d = true := by
  fun_induction units s with
  | case1 => simp at h
  | case2 b s hb ih =>
    rcases List.mem_cons.mp h with rfl | h
    · exact ⟨b, _, rfl, fun h ↦ (ne_true_of_eq_false h hb).elim,
        List.all_eq_true.mp List.all_takeWhile⟩
    · exact ih h
  | case3 b s hb ih =>
    rcases List.mem_cons.mp h with rfl | h
    · exact ⟨b, [], rfl, fun _ ↦ rfl, List.forall_mem_nil _⟩
    · exact ih h

theorem ne_nil_of_mem_units {s u : Bytes} (h : u ∈ units s) : u ≠ [] := by
  obtain ⟨b, run, rfl, -, -⟩ := eq_of_mem_units h
  exact List.cons_ne_nil b run

theorem units_ne_nil {s : Bytes} (h : s ≠ []) : units s ≠ [] := by
  intro hs
  have hf := flatten_units s
  rw [hs] at hf
  exact h hf.symm

theorem units_of_lead {b : UInt8} (hb : isLead b = true) (s : Bytes) :
    units (b :: s) = (b :: s.takeWhile isContinuation) :: units (s.dropWhile isContinuation) := by
  rw [units, if_pos hb]

theorem units_of_not_lead {b : UInt8} (hb : isLead b = false) (s : Bytes) :
    units (b :: s) = [b] :: units s := by
  rw [units, if_neg (ne_true_of_eq_false hb)]

theorem isContinuation_of_isLead {b : UInt8} (hb : isLead b = true) : isContinuation b = false := by
  have hle : 0xC0 ≤ b := of_decide_eq_true hb
  simpa [isContinuation] using fun _ ↦ hle

theorem utf8EncodeChar_eq (c : Char) :
    ∃ b run, String.utf8EncodeChar c = b :: run ∧ isContinuation b = false ∧
      (∀ d ∈ run, isContinuation d = true) ∧ (isLead b = false → run = []) := by
  rcases Nat.lt_or_ge c.toNat 128 with hc | hc
  · have hbyte : UInt8.ofNat c.toNat < 0x80 := by
      rw [UInt8.lt_iff_toNat_lt, UInt8.toNat_ofNat', Nat.mod_eq_of_lt (Nat.lt_trans hc (by decide))]
      exact hc
    refine ⟨_, [], utf8EncodeChar_of_lt hc, ?_, List.forall_mem_nil _, fun _ ↦ rfl⟩
    simp [isContinuation, UInt8.not_le.mpr hbyte]
  · obtain ⟨b, run, he, hb⟩ := utf8EncodeChar_of_ge hc
    have hlead : isLead b = true := decide_eq_true hb
    refine ⟨b, run, he, isContinuation_of_isLead hlead, fun d hd ↦ ?_, fun h ↦ ?_⟩
    · have htail := tail_utf8EncodeChar c d (by rwa [he])
      simpa [isContinuation] using htail
    · cases hlead.symm.trans h

theorem head_utf8 (s : List Char) : ∀ b ∈ (utf8 s).head?, isContinuation b = false := by
  cases s with
  | nil => simp
  | cons c s =>
    obtain ⟨b, run, he, hb, -, -⟩ := utf8EncodeChar_eq c
    simpa [he] using hb

/-- The units of a text are its characters. -/
theorem units_utf8 (s : List Char) : units (utf8 s) = s.map String.utf8EncodeChar := by
  induction s with
  | nil => simp [units]
  | cons c s ih =>
    obtain ⟨b, run, he, -, hrun, halone⟩ := utf8EncodeChar_eq c
    rw [utf8_cons, List.map_cons, he, List.cons_append]
    cases hb : isLead b with
    | false =>
      rw [halone hb, List.nil_append, units_of_not_lead hb, ih]
    | true =>
      have hnext : (utf8 s).takeWhile isContinuation = [] ∧
          (utf8 s).dropWhile isContinuation = utf8 s := by
        have hhead := head_utf8 s
        cases hs : utf8 s with
        | nil => simp
        | cons d t =>
          rw [hs] at hhead
          simp [hhead d rfl]
      rw [units_of_lead hb, List.takeWhile_append_of_pos hrun, List.dropWhile_append_of_pos hrun,
        hnext.1, hnext.2, List.append_nil, ih]

/-- To cut the units of a text is to cut the text. -/
theorem exists_chunks_of_units {groups : List (List Bytes)} {s : List Char}
    (h : groups.flatten = units (utf8 s)) :
    ∃ chunks : List (List Char), chunks.flatten = s ∧
      groups = chunks.map (·.map String.utf8EncodeChar) := by
  rw [units_utf8] at h
  induction groups generalizing s with
  | nil =>
    have hs : s = [] := by simpa using h
    exact ⟨[], by simp [hs], rfl⟩
  | cons g groups ih =>
    rw [List.flatten_cons] at h
    obtain ⟨t, t', rfl, hg, hgroups⟩ := List.map_eq_append_iff.mp h.symm
    obtain ⟨chunks, hflatten, hchunks⟩ := ih hgroups.symm
    exact ⟨t :: chunks, by simp [hflatten], by simp [hg, hchunks]⟩

theorem forall_byte {p : UInt8 → Prop} (h : ∀ n : Fin 256, p (UInt8.ofFin n)) (b : UInt8) : p b :=
  h b.toFin

def UpperHex (c : Char) : Prop :=
  ('0' ≤ c ∧ c ≤ '9') ∨ ('A' ≤ c ∧ c ≤ 'F')

instance : DecidablePred UpperHex := fun _ ↦ inferInstanceAs (Decidable (_ ∨ _))

theorem hexDigit_high (b : UInt8) :
    UpperHex (hexDigit (b >>> 4)) ∧ hexValue? (hexDigit (b >>> 4)) = some (b.toNat / 16) := by
  revert b
  apply forall_byte
  decide +kernel

theorem hexDigit_low (b : UInt8) :
    UpperHex (hexDigit (b &&& 0x0F)) ∧ hexValue? (hexDigit (b &&& 0x0F)) = some (b.toNat % 16) := by
  revert b
  apply forall_byte
  decide +kernel

theorem UpperHex.printable {c : Char} (h : UpperHex c) : Printable c := by
  rcases h with h | h
  · exact ⟨Char.le_trans (by decide) h.1, Char.le_trans h.2 (by decide)⟩
  · exact ⟨Char.le_trans (by decide) h.1, Char.le_trans h.2 (by decide)⟩

def Place.IsLiteral : Place → Char → Prop
  | .body, c => Plain c ∧ c ≠ '='
  | .header, c => Printable c ∧ c ≠ '=' ∧ c ≠ '?' ∧ c ≠ ' '

instance (p : Place) : DecidablePred p.IsLiteral := fun _ ↦
  match p with
  | .body => inferInstanceAs (Decidable (_ ∧ _))
  | .header => inferInstanceAs (Decidable (_ ∧ _))

def Place.literalByte? (p : Place) (c : Char) : Option UInt8 :=
  if c = '=' then none
  else if p = .header ∧ c = '_' then some 32
  else if c.toNat < 128 then some (UInt8.ofNat c.toNat)
  else none

/-- Turns every `=` with two hexadecimal digits behind it, and every other character, into the byte
that it stands for. -/
def Place.unescape (p : Place) : List Char → Option Bytes
  | '=' :: a :: b :: s => do
    let high ← hexValue? a
    let low ← hexValue? b
    (p.unescape s).map (UInt8.ofNat (16 * high + low) :: ·)
  | c :: s => do
    let b ← p.literalByte? c
    (p.unescape s).map (b :: ·)
  | [] => some []

theorem Place.literal_spec {p : Place} {b : UInt8} {c : Char} (h : p.literal? b = some c) :
    p.IsLiteral c ∧ p.literalByte? c = some b := by
  have hall : ∀ b : UInt8, (p.literal? b).all fun c ↦
      decide (p.IsLiteral c ∧ p.literalByte? c = some b) := by
    apply forall_byte
    cases p <;> decide +kernel
  have hb := hall b
  rw [h] at hb
  simpa using hb

theorem Place.IsLiteral.ne_eq {p : Place} {c : Char} (h : p.IsLiteral c) : c ≠ '=' := by
  cases p
  · exact h.2
  · exact h.2.1

theorem Place.IsLiteral.inLine {p : Place} {c : Char} (h : p.IsLiteral c) : InLine c := by
  cases p with
  | body => exact h.1.inLine
  | header => exact h.1.inLine

theorem Place.unescape_byte (p : Place) (b : UInt8) (s : List Char) :
    p.unescape (p.byte b ++ s) = (p.unescape s).map (b :: ·) := by
  cases h : p.literal? b with
  | some c =>
    obtain ⟨hc, hb⟩ := literal_spec h
    have hcs : p.unescape (c :: s) = (p.literalByte? c).bind fun b ↦
        (p.unescape s).map (b :: ·) := by
      rw [unescape]
      · rfl
      · rintro a d s' rfl
        exact absurd rfl hc.ne_eq
    rw [byte, h, List.singleton_append, hcs, hb]
    rfl
  | none =>
    have hsum : 16 * (b.toNat / 16) + b.toNat % 16 = b.toNat := by omega
    rw [byte, h, escaped, List.cons_append, List.cons_append, List.singleton_append, unescape,
      (hexDigit_high b).2, (hexDigit_low b).2]
    simp only [Option.bind_eq_bind, Option.bind_some, hsum, UInt8.ofNat_toNat]

theorem Place.unescape_unit (p : Place) (u : Bytes) (s : List Char) :
    p.unescape (p.unit u ++ s) = (p.unescape s).map (u ++ ·) := by
  induction u with
  | nil => simp [unit]
  | cons b u ih =>
    rw [unit] at ih ⊢
    rw [List.flatMap_cons, List.append_assoc, unescape_byte, ih, Option.map_map]
    rfl

theorem Place.flatten_map_unit (p : Place) (us : List Bytes) :
    (us.map p.unit).flatten = p.unit us.flatten := by
  induction us with
  | nil => rfl
  | cons u us ih =>
    rw [List.map_cons, List.flatten_cons, ih, List.flatten_cons, unit, unit, unit,
      List.flatMap_append]

theorem Place.unescape_flatten (p : Place) (us : List Bytes) :
    p.unescape (us.map p.unit).flatten = some us.flatten := by
  induction us with
  | nil => rfl
  | cons u us ih => rw [List.map_cons, List.flatten_cons, unescape_unit, ih]; rfl

theorem Place.unescape_encode (p : Place) (s : Bytes) :
    p.unescape (p.encode s).flatten = some s := by
  rw [encode, unescape_flatten, flatten_units]

inductive Escaped (q : Char → Prop) : List Char → Prop
  | nil : Escaped q []
  | char {c : Char} {s : List Char} : q c → c ≠ '=' → Escaped q s → Escaped q (c :: s)
  | escape {a b : Char} {s : List Char} :
      UpperHex a → UpperHex b → Escaped q s → Escaped q ('=' :: a :: b :: s)

theorem Escaped.mem {q : Char → Prop} {s : List Char} (h : Escaped q s) {c : Char} (hc : c ∈ s) :
    (q c ∧ c ≠ '=') ∨ c = '=' ∨ UpperHex c := by
  induction h with
  | nil => simp at hc
  | char hd hne _ ih =>
    rcases List.mem_cons.mp hc with rfl | hc
    · exact .inl ⟨hd, hne⟩
    · exact ih hc
  | escape ha hb _ ih =>
    rcases List.mem_cons.mp hc with rfl | hc
    · exact .inr (.inl rfl)
    · rcases List.mem_cons.mp hc with rfl | hc
      · exact .inr (.inr ha)
      · rcases List.mem_cons.mp hc with rfl | hc
        · exact .inr (.inr hb)
        · exact ih hc

theorem Place.escaped_unit (p : Place) (u : Bytes) : Escaped p.IsLiteral (p.unit u) := by
  induction u with
  | nil => exact .nil
  | cons b u ih =>
    rw [unit, List.flatMap_cons]
    cases h : p.literal? b with
    | some c =>
      have hc := (literal_spec h).1
      rw [byte, h]
      exact .char hc hc.ne_eq ih
    | none =>
      rw [byte, h]
      exact .escape (hexDigit_high b).1 (hexDigit_low b).1 ih

theorem Place.inLine_of_mem_unit {p : Place} {u : Bytes} {c : Char} (h : c ∈ p.unit u) :
    InLine c := by
  rcases (p.escaped_unit u).mem h with ⟨hc, -⟩ | rfl | hc
  · exact hc.inLine
  · decide
  · exact hc.printable.inLine

theorem Place.length_unit_le (p : Place) (u : Bytes) : (p.unit u).length ≤ 3 * u.length := by
  have hbyte (b : UInt8) : (p.byte b).length ≤ 3 := by
    cases h : p.literal? b <;> simp [byte, h, escaped]
  induction u with
  | nil => simp [unit]
  | cons b u ih =>
    have hb := hbyte b
    rw [unit] at ih ⊢
    simp only [List.flatMap_cons, List.length_append, List.length_cons]
    omega

theorem Place.length_char_le (p : Place) (c : Char) :
    (p.unit (String.utf8EncodeChar c)).length ≤ 12 := by
  have hunit := p.length_unit_le (String.utf8EncodeChar c)
  have hsize := c.utf8Size_le_four
  rw [String.length_utf8EncodeChar] at hunit
  omega

theorem Place.unit_ne_nil (p : Place) {u : Bytes} (h : u ≠ []) : p.unit u ≠ [] := by
  cases u with
  | nil => exact absurd rfl h
  | cons b u =>
    cases hb : p.literal? b <;> simp [unit, byte, hb, escaped]

theorem Place.mem_encode {p : Place} {s : Bytes} {e : List Char} (h : e ∈ p.encode s) :
    ∃ u : Bytes, e = p.unit u ∧ e ≠ [] := by
  obtain ⟨u, hu, rfl⟩ := List.mem_map.mp h
  exact ⟨u, rfl, p.unit_ne_nil (ne_nil_of_mem_units hu)⟩

theorem Place.inLine_of_mem_encode {p : Place} {s : Bytes} {e : List Char} {c : Char}
    (h : e ∈ p.encode s) (hc : c ∈ e) : InLine c := by
  obtain ⟨u, rfl, -⟩ := mem_encode h
  exact inLine_of_mem_unit hc

end MimeMail.Encoding
