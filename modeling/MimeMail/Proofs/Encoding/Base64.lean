import MimeMail.Encoding.Base64
import MimeMail.Proofs.Text.Digit

namespace MimeMail.Encoding.Base64

open Text

def InAlphabet (c : Char) : Prop :=
  c.isAlphanum = true ∨ c = '+' ∨ c = '/' ∨ c = '='

instance : DecidablePred InAlphabet := fun _ ↦ inferInstanceAs (Decidable (_ ∨ _))

/-- A character of Base64 other than its padding. -/
def IsDigit (c : Char) : Prop :=
  c.isAlphanum = true ∨ c = '+' ∨ c = '/'

instance : DecidablePred IsDigit := fun _ ↦ inferInstanceAs (Decidable (_ ∨ _))

def digitValue? (c : Char) : Option Nat :=
  if 'A' ≤ c ∧ c ≤ 'Z' then some (c.toNat - 65)
  else if 'a' ≤ c ∧ c ≤ 'z' then some (c.toNat - 71)
  else if '0' ≤ c ∧ c ≤ '9' then some (c.toNat + 4)
  else if c = '+' then some 62
  else if c = '/' then some 63
  else none

def ofGroups : List Char → Option Bytes
  | [] => some []
  | [c, d, '=', '='] => do
    let x ← digitValue? c
    let y ← digitValue? d
    some [UInt8.ofNat (x * 4 + y / 16)]
  | [c, d, e, '='] => do
    let x ← digitValue? c
    let y ← digitValue? d
    let z ← digitValue? e
    some [UInt8.ofNat (x * 4 + y / 16), UInt8.ofNat (y % 16 * 16 + z / 4)]
  | c :: d :: e :: f :: s => do
    let x ← digitValue? c
    let y ← digitValue? d
    let z ← digitValue? e
    let w ← digitValue? f
    (ofGroups s).map ([UInt8.ofNat (x * 4 + y / 16), UInt8.ofNat (y % 16 * 16 + z / 4),
      UInt8.ofNat (z % 4 * 64 + w)] ++ ·)
  | _ => none

def decode (s : List Char) : Option Bytes :=
  ofGroups (deleteBreaks s)

theorem digit_spec {n : Nat} (h : n < 64) :
    digitValue? (digit n) = some n ∧ InAlphabet (digit n) ∧ digit n ≠ '=' := by
  have hall : ∀ n : Fin 64, digitValue? (digit n) = some n.val ∧ InAlphabet (digit n) ∧
      digit n ≠ '=' := by decide +kernel
  exact hall ⟨n, h⟩

theorem isDigit_digit {n : Nat} (h : n < 64) : IsDigit (digit n) := by
  obtain ⟨-, halphabet, hpad⟩ := digit_spec h
  rcases halphabet with h | h | h | h
  · exact .inl h
  · exact .inr (.inl h)
  · exact .inr (.inr h)
  · exact absurd h hpad

theorem IsDigit.inAlphabet {c : Char} (h : IsDigit c) : InAlphabet c := by
  rcases h with h | h | h
  · exact .inl h
  · exact .inr (.inl h)
  · exact .inr (.inr (.inl h))

theorem InAlphabet.plain {c : Char} (h : InAlphabet c) : Plain c := by
  have hrange {a b : Char} (ha : ' ' ≤ a) (hb : b ≤ '~') (hac : a ≤ c) (hcb : c ≤ b) : Plain c :=
    .inr ⟨Char.le_trans ha hac, Char.le_trans hcb hb⟩
  rcases h with h | rfl | rfl | rfl
  · obtain halpha | hdigit : c.isAlpha = true ∨ c.isDigit = true := Bool.or_eq_true_iff.mp h
    · obtain hupper | hlower : c.isUpper = true ∨ c.isLower = true := Bool.or_eq_true_iff.mp halpha
      · obtain ⟨hlo, hhi⟩ : 'A' ≤ c ∧ c ≤ 'Z' := of_decide_eq_true hupper
        exact hrange (by decide) (by decide) hlo hhi
      · obtain ⟨hlo, hhi⟩ := Bool.and_eq_true_iff.mp hlower
        exact hrange (by decide) (by decide) (of_decide_eq_true hlo : 'a' ≤ c)
          (of_decide_eq_true hhi : c ≤ 'z')
    · exact .inr (printable_of_isDigit hdigit)
  all_goals decide

theorem inAlphabet_of_mem_groups {s : Bytes} :
    ∀ g ∈ groups s, ∀ c ∈ g, InAlphabet c := by
  have hpad : InAlphabet '=' := by decide
  fun_induction groups s with
  | case1 a b c s ih =>
    have hlt (x : UInt8) : x.toNat < 256 := x.toNat_lt
    have ha := hlt a
    have hb := hlt b
    have hc := hlt c
    intro g hg
    rcases List.mem_cons.mp hg with rfl | hg
    · have h₁ := (digit_spec (n := a.toNat / 4) (by omega)).2.1
      have h₂ := (digit_spec (n := a.toNat % 4 * 16 + b.toNat / 16) (by omega)).2.1
      have h₃ := (digit_spec (n := b.toNat % 16 * 4 + c.toNat / 64) (by omega)).2.1
      have h₄ := (digit_spec (n := c.toNat % 64) (by omega)).2.1
      simp [group3, h₁, h₂, h₃, h₄]
    · exact ih g hg
  | case2 a b =>
    have ha : a.toNat < 256 := a.toNat_lt
    have hb : b.toNat < 256 := b.toNat_lt
    have h₁ := (digit_spec (n := a.toNat / 4) (by omega)).2.1
    have h₂ := (digit_spec (n := a.toNat % 4 * 16 + b.toNat / 16) (by omega)).2.1
    have h₃ := (digit_spec (n := b.toNat % 16 * 4) (by omega)).2.1
    simp [group2, h₁, h₂, h₃, hpad]
  | case3 a =>
    have ha : a.toNat < 256 := a.toNat_lt
    have h₁ := (digit_spec (n := a.toNat / 4) (by omega)).2.1
    have h₂ := (digit_spec (n := a.toNat % 4 * 16) (by omega)).2.1
    simp [group1, h₁, h₂, hpad]
  | case4 => simp

theorem broken_wrapped {gs : List (List Char)} (h : ∀ g ∈ gs, ∀ c ∈ g, InAlphabet c)
    (room : Nat) : Broken InAlphabet (wrapped room gs) := by
  induction gs generalizing room with
  | nil => exact .nil
  | cons g gs ih =>
    have hg := h g List.mem_cons_self
    have hrest := ih fun g' hg' ↦ h g' (List.mem_cons_of_mem g hg')
    rw [wrapped]
    split
    · exact (Broken.of_forall hg).append (hrest _)
    · have hbreak : Broken InAlphabet lineBreak := .lineBreak .nil
      have htake : Broken InAlphabet (g.take room) :=
        .of_forall fun c hc ↦ hg c (List.mem_of_mem_take hc)
      have hdrop : Broken InAlphabet (g.drop room) :=
        .of_forall fun c hc ↦ hg c (List.mem_of_mem_drop hc)
      exact ((htake.append hbreak).append hdrop).append (hrest _)

theorem broken_encode (s : Bytes) : Broken InAlphabet (encode s) :=
  broken_wrapped inAlphabet_of_mem_groups lineLength

theorem deleteBreaks_wrapped {gs : List (List Char)} (h : ∀ g ∈ gs, ∀ c ∈ g, InLine c)
    (room : Nat) : deleteBreaks (wrapped room gs) = gs.flatten := by
  induction gs generalizing room with
  | nil => rfl
  | cons g gs ih =>
    have hg := h g List.mem_cons_self
    have hrest := ih fun g' hg' ↦ h g' (List.mem_cons_of_mem g hg')
    rw [wrapped, List.flatten_cons]
    split
    · rw [deleteBreaks_append hg, hrest]
    · have hbreak (t : List Char) : deleteBreaks (lineBreak ++ t) = deleteBreaks t := rfl
      rw [List.append_assoc, List.append_assoc,
        deleteBreaks_append fun c hc ↦ hg c (List.mem_of_mem_take hc), hbreak,
        deleteBreaks_append fun c hc ↦ hg c (List.mem_of_mem_drop hc), hrest,
        ← List.append_assoc, List.take_append_drop]

theorem ofGroups_cons {c d e f : Char} (hf : f ≠ '=') (s : List Char) :
    ofGroups (c :: d :: e :: f :: s) = (do
      let x ← digitValue? c
      let y ← digitValue? d
      let z ← digitValue? e
      let w ← digitValue? f
      (ofGroups s).map ([UInt8.ofNat (x * 4 + y / 16), UInt8.ofNat (y % 16 * 16 + z / 4),
        UInt8.ofNat (z % 4 * 64 + w)] ++ ·)) := by
  rw [ofGroups]
  · simpa using fun _ h ↦ absurd h hf
  · simpa using fun h ↦ absurd h hf

theorem ofGroups_plain (s : Bytes) : ofGroups (plain s) = some s := by
  rw [plain]
  fun_induction groups s with
  | case1 a b c s ih =>
    have ha : a.toNat < 256 := a.toNat_lt
    have hb : b.toNat < 256 := b.toNat_lt
    have hc : c.toNat < 256 := c.toNat_lt
    have h₁ := (digit_spec (n := a.toNat / 4) (by omega)).1
    have h₂ := (digit_spec (n := a.toNat % 4 * 16 + b.toNat / 16) (by omega)).1
    have h₃ := (digit_spec (n := b.toNat % 16 * 4 + c.toNat / 64) (by omega)).1
    obtain ⟨h₄, -, hne⟩ := digit_spec (n := c.toNat % 64) (by omega)
    have e₁ : a.toNat / 4 * 4 + (a.toNat % 4 * 16 + b.toNat / 16) / 16 = a.toNat := by omega
    have e₂ : (a.toNat % 4 * 16 + b.toNat / 16) % 16 * 16 +
        (b.toNat % 16 * 4 + c.toNat / 64) / 4 = b.toNat := by omega
    have e₃ : (b.toNat % 16 * 4 + c.toNat / 64) % 4 * 64 + c.toNat % 64 = c.toNat := by omega
    rw [List.flatten_cons, group3, List.cons_append, List.cons_append, List.cons_append,
      List.singleton_append, ofGroups_cons hne, h₁, h₂, h₃, h₄, ih]
    simp only [Option.bind_eq_bind, Option.bind_some, Option.map_some, e₁, e₂, e₃,
      UInt8.ofNat_toNat]
    rfl
  | case2 a b =>
    have ha : a.toNat < 256 := a.toNat_lt
    have hb : b.toNat < 256 := b.toNat_lt
    have h₁ := (digit_spec (n := a.toNat / 4) (by omega)).1
    have h₂ := (digit_spec (n := a.toNat % 4 * 16 + b.toNat / 16) (by omega)).1
    obtain ⟨h₃, -, hne⟩ := digit_spec (n := b.toNat % 16 * 4) (by omega)
    have e₁ : a.toNat / 4 * 4 + (a.toNat % 4 * 16 + b.toNat / 16) / 16 = a.toNat := by omega
    have e₂ : (a.toNat % 4 * 16 + b.toNat / 16) % 16 * 16 + b.toNat % 16 * 4 / 4 = b.toNat := by
      omega
    have hg : ofGroups (group2 a b) = (do
        let x ← digitValue? (digit (a.toNat / 4))
        let y ← digitValue? (digit (a.toNat % 4 * 16 + b.toNat / 16))
        let z ← digitValue? (digit (b.toNat % 16 * 4))
        some [UInt8.ofNat (x * 4 + y / 16), UInt8.ofNat (y % 16 * 16 + z / 4)]) := by
      rw [group2, ofGroups]
      simpa using hne
    rw [List.flatten_singleton, hg, h₁, h₂, h₃]
    simp only [Option.bind_eq_bind, Option.bind_some, e₁, e₂, UInt8.ofNat_toNat]
  | case3 a =>
    have ha : a.toNat < 256 := a.toNat_lt
    have h₁ := (digit_spec (n := a.toNat / 4) (by omega)).1
    have h₂ := (digit_spec (n := a.toNat % 4 * 16) (by omega)).1
    have e₁ : a.toNat / 4 * 4 + a.toNat % 4 * 16 / 16 = a.toNat := by omega
    rw [List.flatten_singleton, group1, ofGroups, h₁, h₂]
    simp only [Option.bind_eq_bind, Option.bind_some, e₁, UInt8.ofNat_toNat]
  | case4 => rfl

theorem decode_encode (s : Bytes) : decode (encode s) = some s := by
  have hline : ∀ g ∈ groups s, ∀ c ∈ g, InLine c :=
    fun g hg c hc ↦ (inAlphabet_of_mem_groups g hg c hc).plain.inLine
  rw [decode, encode, deleteBreaks_wrapped hline]
  exact ofGroups_plain s

end MimeMail.Encoding.Base64
