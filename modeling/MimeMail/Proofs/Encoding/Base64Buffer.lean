import MimeMail.Proofs.Encoding.Base64Lines

namespace MimeMail.Encoding.Base64

open Text

/-- A buffer of fixed size with nothing where no character has been written yet, the offset at which
the text goes on, and the columns that are used on the line. -/
structure Buffer where
  chars : List (Option Char)
  position : Nat
  column : Nat

/-- Where a group goes: the offset of a line break before or inside it, those of its characters, and
the columns that are used behind it. -/
structure Slots where
  lineBreak? : Option Nat
  first : Nat
  second : Nat
  third : Nat
  fourth : Nat
  column : Nat

namespace Slots

def behind (p column : Nat) : Slots :=
  match lineLength - column with
  | 0 => ⟨some p, p + 2, p + 3, p + 4, p + 5, 4⟩
  | 1 => ⟨some (p + 1), p, p + 3, p + 4, p + 5, 3⟩
  | 2 => ⟨some (p + 2), p, p + 1, p + 4, p + 5, 2⟩
  | 3 => ⟨some (p + 3), p, p + 1, p + 2, p + 5, 1⟩
  | _ => ⟨none, p, p + 1, p + 2, p + 3, column + 4⟩

def writes (s : Slots) (g : List Char) : List (Char × Nat) :=
  (s.lineBreak?.toList.flatMap fun i ↦ [('\r', i), ('\n', i + 1)]) ++
    g.zip [s.first, s.second, s.third, s.fourth]

end Slots

namespace Buffer

def blank (size : Nat) : Buffer :=
  ⟨List.replicate size none, 0, 0⟩

/-- Writes a character. An offset out of bounds gives no buffer. -/
def write (chars : List (Option Char)) (w : Char × Nat) : Option (List (Option Char)) :=
  if w.2 < chars.length then some (chars.set w.2 (some w.1)) else none

def put (b : Buffer) (g : List Char) : Option Buffer :=
  if b.column ≤ lineLength then
    let s := Slots.behind b.position b.column
    ((s.writes g).foldlM write b.chars).map (⟨·, s.fourth + 1, s.column⟩)
  else none

/-- How a buffer stands that is to hold a text in the end, with some groups yet to be written. The
line breaks where the text does, and what is left of the text fits in exactly. -/
structure Awaits (text : List Char) (gs : List (List Char)) (b : Buffer) : Prop where
  chars : ∃ done, text = done ++ wrapped (lineLength - b.column) gs ∧ b.position = done.length ∧
    b.chars = done.map some ++ List.replicate (wrapped (lineLength - b.column) gs).length none
  multiple : 4 ∣ b.column
  bound : b.column ≤ lineLength

theorem write_next (done : List Char) (c : Char) (left : Nat) :
    write (done.map some ++ List.replicate (left + 1) none) (c, done.length) =
      some ((done ++ [c]).map some ++ List.replicate left none) := by
  have hinside : done.length <
      (done.map some ++ List.replicate (left + 1) (none : Option Char)).length := by
    rw [List.length_append, List.length_map, List.length_replicate]
    exact Nat.lt_add_of_pos_right (Nat.succ_pos left)
  rw [write, if_pos hinside, List.replicate_succ]
  simp

theorem foldlM_write (done cs : List Char) (left : Nat) :
    (cs.zipIdx done.length).foldlM write
        (done.map some ++ List.replicate (cs.length + left) none) =
      some ((done ++ cs).map some ++ List.replicate left none) := by
  induction cs generalizing done with
  | nil => simp
  | cons c cs ih =>
    have hlength : (c :: cs).length + left = cs.length + left + 1 := Nat.add_right_comm ..
    have hrest := ih (done ++ [c])
    rw [List.length_append, List.length_singleton] at hrest
    rw [hlength, List.zipIdx_cons, List.foldlM_cons, write_next]
    simpa using hrest

theorem slots_of_room {p column : Nat} (h : column + 4 ≤ lineLength) :
    Slots.behind p column = ⟨none, p, p + 1, p + 2, p + 3, column + 4⟩ := by
  unfold Slots.behind
  split <;> first | omega | rfl

theorem slots_of_full (p : Nat) :
    Slots.behind p lineLength = ⟨some p, p + 2, p + 3, p + 4, p + 5, 4⟩ :=
  rfl

theorem writes_of_room {p column : Nat} {g : List Char} (h : column + 4 ≤ lineLength)
    (hg : g.length = 4) : (Slots.behind p column).writes g = g.zipIdx p := by
  rw [slots_of_room h]
  match g, hg with
  | [c, d, e, f], _ => rfl

theorem writes_of_full {p : Nat} {g : List Char} (hg : g.length = 4) :
    (Slots.behind p lineLength).writes g = (Base64.lineBreak ++ g).zipIdx p := by
  match g, hg with
  | [c, d, e, f], _ => rfl

theorem exists_writes {column : Nat} (hmultiple : 4 ∣ column) (hbound : column ≤ lineLength)
    {g : List Char} (hg : g.length = 4) (gs : List (List Char)) (p : Nat) :
    ∃ cs, wrapped (lineLength - column) (g :: gs) =
        cs ++ wrapped (lineLength - (Slots.behind p column).column) gs ∧
      (Slots.behind p column).writes g = cs.zipIdx p ∧
      (Slots.behind p column).fourth + 1 = p + cs.length ∧
      4 ∣ (Slots.behind p column).column ∧ (Slots.behind p column).column ≤ lineLength := by
  by_cases hroom : column + 4 ≤ lineLength
  · have hfits : 4 ≤ lineLength - column := Nat.le_sub_of_add_le' hroom
    refine ⟨g, ?_, writes_of_room hroom hg, ?_⟩
    · rw [slots_of_room hroom, wrapped, if_pos hfits, Nat.sub_sub]
    · rw [slots_of_room hroom, hg]
      exact ⟨rfl, Nat.dvd_add hmultiple (Nat.dvd_refl 4), hroom⟩
  · have hfull : column = lineLength := by
      have hlength : lineLength = 76 := rfl
      omega
    subst hfull
    refine ⟨Base64.lineBreak ++ g, rfl, writes_of_full hg, ?_⟩
    rw [slots_of_full, List.length_append, hg]
    exact ⟨rfl, Nat.dvd_refl 4, (by decide : 4 ≤ lineLength)⟩

theorem Awaits.put {text g : List Char} {gs : List (List Char)} {b : Buffer}
    (h : b.Awaits text (g :: gs)) (hg : g.length = 4) :
    ∃ b', b.put g = some b' ∧ b'.Awaits text gs := by
  obtain ⟨⟨done, htext, hposition, hchars⟩, hmultiple, hbound⟩ := h
  obtain ⟨cs, hwrapped, hwrites, hfourth, hmultiple', hbound'⟩ :=
    exists_writes hmultiple hbound hg gs b.position
  let column := (Slots.behind b.position b.column).column
  refine ⟨⟨(done ++ cs).map some ++ List.replicate (wrapped (lineLength - column) gs).length none,
    b.position + cs.length, column⟩, ?_, ⟨done ++ cs, ?_, ?_, rfl⟩, hmultiple', hbound'⟩
  · rw [Buffer.put, if_pos hbound]
    dsimp only
    rw [hwrites, hposition, hchars, hwrapped, List.length_append, foldlM_write, ← hposition,
      Option.map_some, hfourth]
  · rw [htext, hwrapped, List.append_assoc]
  · rw [List.length_append, hposition]

theorem Awaits.foldlM {text : List Char} {gs₁ gs₂ : List (List Char)} {b : Buffer}
    (h : b.Awaits text (gs₁ ++ gs₂)) (hgs : ∀ g ∈ gs₁, g.length = 4) :
    ∃ b', gs₁.foldlM Buffer.put b = some b' ∧ b'.Awaits text gs₂ := by
  induction gs₁ generalizing b with
  | nil => exact ⟨b, rfl, h⟩
  | cons g gs₁ ih =>
    obtain ⟨hg, hgs⟩ := List.forall_mem_cons.mp hgs
    obtain ⟨b', hput, hb'⟩ := h.put hg
    obtain ⟨b'', hrest, hb''⟩ := ih hb' hgs
    exact ⟨b'', by rw [List.foldlM_cons, hput]; exact hrest, hb''⟩

theorem awaits_blank (s : Bytes) : (blank (encode s).length).Awaits (encode s) (groups s) :=
  ⟨⟨[], rfl, rfl, rfl⟩, ⟨0, rfl⟩, Nat.zero_le _⟩

theorem Awaits.chars_of_nil {text : List Char} {b : Buffer} (h : b.Awaits text []) :
    b.chars = text.map some := by
  obtain ⟨done, htext, -, hchars⟩ := h.chars
  rw [hchars, htext]
  simp [wrapped]

end Buffer

/-- Base64 text is written in one pass. It is the plain text, cut into lines of 76 characters, its
length is known beforehand, and it decodes to the bytes. A buffer of that length takes it up: every
offset that is written at is in bounds, and there is nothing left out. Before every group and at the
end the columns used are a multiple of four up to 76, so that a line never breaks inside a group. -/
theorem encode_in_place (s : Bytes) :
    encode s = unlines (cut lineLength (standard s)) ∧
    (encode s).length = encodedLength s.length ∧
    decode (encode s) = some s ∧
    (∃ b, (groups s).foldlM Buffer.put (.blank (encodedLength s.length)) = some b ∧
      b.chars = (encode s).map some) ∧
    ∀ gs₁ gs₂, groups s = gs₁ ++ gs₂ →
      ∃ b, gs₁.foldlM Buffer.put (.blank (encodedLength s.length)) = some b ∧
        4 ∣ b.column ∧ b.column ≤ lineLength ∧
        ∀ left ∈ [1, 2, 3], lineLength - b.column ≠ left := by
  have hblank := Buffer.awaits_blank s
  rw [length_encode] at hblank
  refine ⟨?_, length_encode s, decode_encode s, ?_, fun gs₁ gs₂ hgs ↦ ?_⟩
  · rw [encode_eq_unlines, standard_eq_plain]
  · obtain ⟨b, hfold, hb⟩ := Buffer.Awaits.foldlM ((List.append_nil (groups s)).symm ▸ hblank)
      length_of_mem_groups
    exact ⟨b, hfold, hb.chars_of_nil⟩
  · have hlength : ∀ g ∈ gs₁, g.length = 4 := fun g hg ↦
      length_of_mem_groups g (hgs ▸ List.mem_append_left gs₂ hg)
    obtain ⟨b, hfold, hb⟩ := Buffer.Awaits.foldlM (hgs ▸ hblank) hlength
    obtain ⟨k, hk⟩ := hb.multiple
    have hline : lineLength = 76 := rfl
    refine ⟨b, hfold, hb.multiple, hb.bound, fun left hleft ↦ ?_⟩
    simp only [List.mem_cons, List.not_mem_nil, or_false] at hleft
    omega

end MimeMail.Encoding.Base64
