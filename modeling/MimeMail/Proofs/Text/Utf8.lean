import MimeMail.Text.Basic

namespace MimeMail.Text

/-- The text that bytes stand for. -/
def ofUtf8? (s : Bytes) : Option (List Char) :=
  s.toByteArray.utf8Decode?.map Array.toList

theorem ofUtf8?_utf8 (s : List Char) : ofUtf8? (utf8 s) = some s := by
  have h : (utf8 s).toByteArray = s.utf8Encode := rfl
  rw [ofUtf8?, h, List.utf8Decode?_utf8Encode]
  rfl

theorem utf8_injective {s t : List Char} (h : utf8 s = utf8 t) : s = t := by
  have hs := ofUtf8?_utf8 s
  rw [h, ofUtf8?_utf8] at hs
  exact (Option.some.inj hs).symm

theorem utf8_eq_nil {s : List Char} : utf8 s = [] ↔ s = [] :=
  ⟨fun h ↦ utf8_injective (t := []) h, fun h ↦ by rw [h]; rfl⟩

theorem utf8EncodeChar_of_lt {c : Char} (h : c.toNat < 128) :
    String.utf8EncodeChar c = [UInt8.ofNat c.toNat] := by
  have hle : c.val.toNat ≤ 0x7f := Nat.le_of_lt_succ h
  simp only [String.utf8EncodeChar, hle, if_true]
  rfl

theorem utf8EncodeChar_of_ge {c : Char} (h : 128 ≤ c.toNat) :
    ∃ b s, String.utf8EncodeChar c = b :: s ∧ 0xC0 ≤ b := by
  have hgt : ¬ c.val.toNat ≤ 0x7f := by
    have hv : c.val.toNat = c.toNat := rfl
    omega
  have hlead {k n : Nat} (hk : 0xC0 ≤ k) (hkn : k + n ≤ 256) (m : Nat) (hm : m < n) :
      (0xC0 : UInt8) ≤ UInt8.ofNat (m + k) := by
    rw [UInt8.le_iff_toNat_le, UInt8.toNat_ofNat']
    have hlt : m + k < 2 ^ 8 := by omega
    rw [Nat.mod_eq_of_lt hlt]
    exact Nat.le_trans hk (Nat.le_add_left k m)
  simp only [String.utf8EncodeChar, hgt, if_false]
  split
  · exact ⟨_, _, rfl, hlead (n := 0x20) (by decide) (by decide) _ (Nat.mod_lt _ (by decide))⟩
  · split
    · exact ⟨_, _, rfl, hlead (n := 0x10) (by decide) (by decide) _ (Nat.mod_lt _ (by decide))⟩
    · exact ⟨_, _, rfl, hlead (n := 0x08) (by decide) (by decide) _ (Nat.mod_lt _ (by decide))⟩

theorem tail_utf8EncodeChar (c : Char) :
    ∀ b ∈ (String.utf8EncodeChar c).tail, 0x80 ≤ b ∧ b < 0xC0 := by
  have hbits (n : Nat) : 0x80 ≤ UInt8.ofNat (n % 0x40 + 0x80) ∧
      UInt8.ofNat (n % 0x40 + 0x80) < 0xC0 := by
    have hlt : n % 0x40 + 0x80 < 0xC0 := by omega
    rw [UInt8.le_iff_toNat_le, UInt8.lt_iff_toNat_lt, UInt8.toNat_ofNat',
      Nat.mod_eq_of_lt (Nat.lt_trans hlt (by decide))]
    exact ⟨Nat.le_add_left .., hlt⟩
  simp only [String.utf8EncodeChar]
  split
  · exact List.forall_mem_nil _
  · split
    · exact List.forall_mem_singleton.mpr (hbits _)
    · split
      · exact List.forall_mem_cons.mpr ⟨hbits _, List.forall_mem_singleton.mpr (hbits _)⟩
      · exact List.forall_mem_cons.mpr ⟨hbits _, List.forall_mem_cons.mpr ⟨hbits _,
          List.forall_mem_singleton.mpr (hbits _)⟩⟩

def ofBytes (s : Bytes) : List Char :=
  s.map fun b ↦ Char.ofNat b.toNat

theorem ofBytes_utf8 {s : List Char} (h : ∀ c ∈ s, c.toNat < 128) : ofBytes (utf8 s) = s := by
  induction s with
  | nil => rfl
  | cons c s ih =>
    obtain ⟨hc, hs⟩ := List.forall_mem_cons.mp h
    have hbyte : Char.ofNat (UInt8.ofNat c.toNat).toNat = c := by
      rw [UInt8.toNat_ofNat', Nat.mod_eq_of_lt (Nat.lt_trans hc (by decide)), Char.ofNat_toNat]
    have hrest := ih hs
    rw [ofBytes] at hrest ⊢
    rw [utf8_cons, utf8EncodeChar_of_lt hc, List.singleton_append, List.map_cons, hbyte, hrest]

end MimeMail.Text
