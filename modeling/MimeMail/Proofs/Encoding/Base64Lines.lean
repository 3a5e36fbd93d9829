import MimeMail.Proofs.Encoding.Base64
import MimeMail.Proofs.Encoding.Unit

namespace MimeMail.Encoding.Base64

open Text

def alphabet : List Char :=
  "ABCDEFGHIJKLMNOPQRSTUVWXYZabcdefghijklmnopqrstuvwxyz0123456789+/".toList

def bits (b : UInt8) : List Bool :=
  [7, 6, 5, 4, 3, 2, 1, 0].map b.toNat.testBit

def ofBits (bs : List Bool) : Nat :=
  bs.foldl (fun n b ↦ 2 * n + b.toNat) 0

/-- Six bits at a time, with zeros behind the last ones. -/
def sextets : List Bool → List (List Bool)
  | [] => []
  | a :: b :: c :: d :: e :: f :: bs => [a, b, c, d, e, f] :: sextets bs
  | bs => [bs ++ List.replicate (6 - bs.length) false]

def digitOf (bs : List Bool) : Char :=
  alphabet.getD (ofBits bs) '='

def padding (n : Nat) : List Char :=
  List.replicate ((4 - n % 4) % 4) '='

/-- Base64 on one line. -/
def standard (s : Bytes) : List Char :=
  let digits := (sextets (s.flatMap bits)).map digitOf
  digits ++ padding digits.length

/-- The lines of a text, each of the given length but the last one. -/
def cut (width : Nat) (s : List Char) : List Line :=
  if 0 < width ∧ width < s.length then s.take width :: cut width (s.drop width) else [s]
termination_by s.length

def cutFrom (room : Nat) (s : List Char) : List Line :=
  if room < s.length then s.take room :: cut lineLength (s.drop room) else [s]

theorem foldl_bits (bs : List Bool) (n : Nat) :
    bs.foldl (fun n b ↦ 2 * n + b.toNat) n = n <<< bs.length + ofBits bs := by
  induction bs generalizing n with
  | nil => simp [ofBits]
  | cons b bs ih =>
    rw [ofBits, List.foldl_cons, List.foldl_cons, ih, ih (2 * 0 + b.toNat), List.length_cons]
    simp only [Nat.shiftLeft_eq, Nat.pow_succ]
    grind

theorem ofBits_append (bs cs : List Bool) :
    ofBits (bs ++ cs) = ofBits bs <<< cs.length + ofBits cs := by
  rw [ofBits, List.foldl_append, foldl_bits]
  rfl

theorem ofBits_parts (b : UInt8) :
    ofBits ((bits b).take 6) = b.toNat / 4 ∧ ofBits ((bits b).drop 6) = b.toNat % 4 ∧
    ofBits ((bits b).take 4) = b.toNat / 16 ∧ ofBits ((bits b).drop 4) = b.toNat % 16 ∧
    ofBits ((bits b).take 2) = b.toNat / 64 ∧ ofBits ((bits b).drop 2) = b.toNat % 64 := by
  revert b
  apply forall_byte
  decide +kernel

theorem digitOf_eq {bs : List Bool} (h : ofBits bs < 64) : digitOf bs = digit (ofBits bs) := by
  have hall : ∀ n : Fin 64, alphabet.getD n.val '=' = digit n.val := by decide +kernel
  exact hall ⟨ofBits bs, h⟩

theorem padding_add_four (n : Nat) : padding (4 + n) = padding n := by
  rw [padding, padding, Nat.add_mod_left]

theorem digitOf_bits (a b : UInt8) :
    digitOf ((bits a).take 6) = digit (a.toNat / 4) ∧
    digitOf ((bits a).drop 6 ++ (bits b).take 4) = digit (a.toNat % 4 * 16 + b.toNat / 16) ∧
    digitOf ((bits a).drop 4 ++ (bits b).take 2) = digit (a.toNat % 16 * 4 + b.toNat / 64) ∧
    digitOf ((bits a).drop 2) = digit (a.toNat % 64) := by
  obtain ⟨ha₁, ha₂, -, ha₃, -, ha₄⟩ := ofBits_parts a
  obtain ⟨-, -, hb₁, -, hb₂, -⟩ := ofBits_parts b
  have ha : a.toNat < 256 := a.toNat_lt
  have hb : b.toNat < 256 := b.toNat_lt
  have h₂ : ofBits ((bits a).drop 6 ++ (bits b).take 4) = a.toNat % 4 * 16 + b.toNat / 16 := by
    rw [ofBits_append, Nat.shiftLeft_eq, ha₂, hb₁]
    rfl
  have h₃ : ofBits ((bits a).drop 4 ++ (bits b).take 2) = a.toNat % 16 * 4 + b.toNat / 64 := by
    rw [ofBits_append, Nat.shiftLeft_eq, ha₃, hb₂]
    rfl
  refine ⟨?_, ?_, ?_, ?_⟩
  · rw [digitOf_eq (by omega), ha₁]
  · rw [digitOf_eq (by omega), h₂]
  · rw [digitOf_eq (by omega), h₃]
  · rw [digitOf_eq (by omega), ha₄]

theorem standard_eq_plain (s : Bytes) : standard s = plain s := by
  rw [plain]
  fun_induction groups s with
  | case1 a b c s ih =>
    have hbits : sextets ((a :: b :: c :: s).flatMap bits) =
        [(bits a).take 6, (bits a).drop 6 ++ (bits b).take 4, (bits b).drop 4 ++ (bits c).take 2,
          (bits c).drop 2] ++ sextets (s.flatMap bits) := rfl
    have hlength (cs : List Char) : (group3 a b c ++ cs).length = 4 + cs.length :=
      List.length_append
    have hdigits : (sextets ((a :: b :: c :: s).flatMap bits)).map digitOf =
        group3 a b c ++ (sextets (s.flatMap bits)).map digitOf := by
      rw [hbits, List.map_append, group3]
      simp only [List.map_cons, List.map_nil, digitOf_bits a b, digitOf_bits b c]
      rw [(digitOf_bits c c).2.2.2]
    rw [List.flatten_cons, ← ih, standard, hdigits, hlength, padding_add_four, List.append_assoc]
    rfl
  | case2 a b =>
    -- The byte that is missing counts as zero.
    have hbits : sextets ([a, b].flatMap bits) =
        [(bits a).take 6, (bits a).drop 6 ++ (bits b).take 4,
          (bits b).drop 4 ++ (bits 0).take 2] := rfl
    rw [standard, hbits]
    simp only [List.map_cons, List.map_nil, digitOf_bits a b, digitOf_bits b 0]
    rfl
  | case3 a =>
    have hbits : sextets ([a].flatMap bits) =
        [(bits a).take 6, (bits a).drop 6 ++ (bits 0).take 4] := rfl
    rw [standard, hbits]
    simp only [List.map_cons, List.map_nil, digitOf_bits a 0]
    rfl
  | case4 => rfl

theorem length_of_mem_groups {s : Bytes} : ∀ g ∈ groups s, g.length = 4 := by
  fun_induction groups s with
  | case1 a b c s ih =>
    simp only [List.forall_mem_cons]
    exact ⟨rfl, ih⟩
  | case2 a b => simp [group2]
  | case3 a => simp [group1]
  | case4 => simp

theorem length_plain (s : Bytes) : (plain s).length = (s.length + 2) / 3 * 4 := by
  rw [plain]
  fun_induction groups s with
  | case1 a b c s ih =>
    have hgroup : (group3 a b c).length = 4 := rfl
    rw [List.flatten_cons, List.length_append, ih, hgroup]
    simp only [List.length_cons]
    omega
  | case2 a b => simp [group2]
  | case3 a => simp [group1]
  | case4 => rfl

section

variable {g s t : List Char} {room width : Nat}

theorem cut_eq_cutFrom (s : List Char) : cut lineLength s = cutFrom lineLength s := by
  have hpos : 0 < lineLength := by decide
  rw [cut, cutFrom]
  simp only [hpos, true_and]

theorem cut_ne_nil (width : Nat) (s : List Char) : cut width s ≠ [] := by
  rw [cut]
  split <;> simp

theorem flatten_cut (width : Nat) (s : List Char) : (cut width s).flatten = s := by
  fun_induction cut width s with
  | case1 s _ ih => rw [List.flatten_cons, ih, List.take_append_drop]
  | case2 s _ => exact List.flatten_singleton

theorem length_le_of_mem_cut (hw : 0 < width) {l : Line} (hl : l ∈ cut width s) :
    l.length ≤ width := by
  fun_induction cut width s with
  | case1 s _ ih =>
    rcases List.mem_cons.mp hl with rfl | hl
    · exact List.length_take_le ..
    · exact ih hl
  | case2 s h =>
    rw [List.mem_singleton.mp hl]
    omega

theorem length_unlines_cut (hw : 0 < width) (s : List Char) :
    (unlines (cut width s)).length = s.length + (s.length - 1) / width * 2 := by
  fun_induction cut width s with
  | case1 s h ih =>
    obtain ⟨-, hlong⟩ := h
    have hrest : (s.length - 1) / width = (s.length - width - 1) / width + 1 := by
      rw [← Nat.add_div_right _ hw]
      congr 1
      omega
    rw [unlines_cons _ (cut_ne_nil _ _), List.length_append, List.length_cons, List.length_cons, ih,
      List.length_take, List.length_drop, hrest]
    omega
  | case2 s h =>
    have hshort : (s.length - 1) / width = 0 := Nat.div_eq_of_lt (by omega)
    rw [hshort]
    simp [unlines, List.intercalate]

theorem unlines_cutFrom_append (hg : g.length ≤ room) (t : List Char) :
    unlines (cutFrom room (g ++ t)) = g ++ unlines (cutFrom (room - g.length) t) := by
  have hlong : room < (g ++ t).length ↔ room - g.length < t.length := by
    rw [List.length_append]
    omega
  rw [cutFrom, cutFrom]
  by_cases h : room - g.length < t.length
  · rw [if_pos (hlong.mpr h), if_pos h, unlines_cons _ (cut_ne_nil _ _),
      unlines_cons _ (cut_ne_nil _ _), List.take_append, List.drop_append,
      List.take_of_length_le hg, List.drop_of_length_le hg, List.nil_append, List.append_assoc]
  · rw [if_neg (mt hlong.mp h), if_neg h]
    simp [unlines, List.intercalate]

/-- As long as the room is a multiple of four, a line breaks between groups only. -/
theorem wrapped_eq_unlines {gs : List (List Char)} (hgs : ∀ g ∈ gs, g.length = 4)
    (hroom : 4 ∣ room) : wrapped room gs = unlines (cutFrom room gs.flatten) := by
  induction gs generalizing room with
  | nil => simp [wrapped, cutFrom, unlines, List.intercalate]
  | cons g gs ih =>
    obtain ⟨hg, hgs⟩ := List.forall_mem_cons.mp hgs
    have hrest {room : Nat} (hroom : 4 ∣ room) (hfits : 4 ≤ room) :
        g ++ wrapped (room - 4) gs = unlines (cutFrom room (g ++ gs.flatten)) := by
      rw [unlines_cutFrom_append (hg ▸ hfits), hg, ih hgs (Nat.dvd_sub hroom (Nat.dvd_refl 4))]
    rw [wrapped, List.flatten_cons]
    split
    · rename_i hfits
      exact hrest hroom hfits
    · have hzero : room = 0 := by omega
      have hfull : 0 < (g ++ gs.flatten).length := by
        rw [List.length_append, hg]
        omega
      have hnext : g ++ wrapped (lineLength - 4) gs =
          unlines (cutFrom lineLength (g ++ gs.flatten)) := hrest (by decide) (by decide)
      subst hzero
      rw [cutFrom, if_pos hfull, unlines_cons _ (cut_ne_nil _ _), cut_eq_cutFrom]
      simp only [List.drop_zero, List.take_zero, List.nil_append]
      rw [← hnext]
      rfl

end

theorem encode_eq_unlines (s : Bytes) : encode s = unlines (cut lineLength (plain s)) := by
  rw [encode, wrapped_eq_unlines length_of_mem_groups (by decide), cut_eq_cutFrom]
  rfl

theorem lines_encode (s : Bytes) : lines (encode s) = cut lineLength (plain s) := by
  rw [encode_eq_unlines]
  refine lines_unlines (cut_ne_nil _ _) fun l hl c hc ↦ ?_
  have hmem : c ∈ (cut lineLength (plain s)).flatten := List.mem_flatten.mpr ⟨l, hl, hc⟩
  rw [flatten_cut, plain] at hmem
  obtain ⟨g, hg, hcg⟩ := List.mem_flatten.mp hmem
  exact (inAlphabet_of_mem_groups g hg c hcg).plain.inLine

theorem length_encode (s : Bytes) : (encode s).length = encodedLength s.length := by
  rw [encode_eq_unlines, length_unlines_cut (by decide), length_plain, encodedLength]
  split
  · rename_i hzero
    rw [hzero]
    rfl
  · rfl

theorem plain_one_pad {s : Bytes} (h : s.length % 3 = 2) :
    ∃ digits, plain s = digits ++ ['='] ∧ ∀ c ∈ digits, IsDigit c := by
  have hlt (x : UInt8) : x.toNat < 256 := x.toNat_lt
  rw [plain]
  fun_induction groups s with
  | case1 a b c s ih =>
    have hrest : s.length % 3 = 2 := by
      simp only [List.length_cons] at h
      omega
    obtain ⟨digits, hdigits, hall⟩ := ih hrest
    refine ⟨group3 a b c ++ digits, ?_, ?_⟩
    · rw [List.flatten_cons, hdigits, List.append_assoc]
    · have ha := hlt a
      have hb := hlt b
      have hc := hlt c
      simp only [group3, List.forall_mem_append, List.forall_mem_cons]
      exact ⟨⟨isDigit_digit (by omega), isDigit_digit (by omega), isDigit_digit (by omega),
        isDigit_digit (by omega), List.forall_mem_nil _⟩, hall⟩
  | case2 a b =>
    have ha := hlt a
    have hb := hlt b
    refine ⟨[digit (a.toNat / 4), digit (a.toNat % 4 * 16 + b.toNat / 16),
      digit (b.toNat % 16 * 4)], rfl, ?_⟩
    simp only [List.forall_mem_cons]
    exact ⟨isDigit_digit (by omega), isDigit_digit (by omega), isDigit_digit (by omega),
      List.forall_mem_nil _⟩
  | case3 a => cases h
  | case4 => cases h

theorem encode_of_short {s : Bytes} (h : (plain s).length ≤ lineLength) : encode s = plain s := by
  rw [encode_eq_unlines, cut, if_neg fun hlong ↦ Nat.not_lt.mpr h hlong.2]
  simp [unlines, List.intercalate]

end MimeMail.Encoding.Base64
