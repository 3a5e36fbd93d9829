import MimeMail.Encoding.EncodedWord
import MimeMail.Proofs.Text.Lines

namespace MimeMail.Encoding.QuotedString

open Text

def read : List Char → Option (List Char × List Char)
  | '"' :: s => some ([], s)
  | '\\' :: c :: s => (read s).map fun (t, rest) ↦ (c :: t, rest)
  | c :: s => (read s).map fun (t, rest) ↦ (c :: t, rest)
  | [] => none

theorem read_cons {c : Char} (hq : c ≠ '"') (hb : c ≠ '\\') (s : List Char) :
    read (c :: s) = (read s).map fun (t, rest) ↦ (c :: t, rest) := by
  rw [read]
  · rintro rfl
    exact absurd rfl hq
  · rintro d s' rfl
    exact absurd rfl hb

theorem read_escape (s rest : List Char) : read (escape s ++ '"' :: rest) = some (s, rest) := by
  induction s with
  | nil => rfl
  | cons c s ih =>
    rw [escape]
    split
    · rw [List.cons_append, List.cons_append, read, ih]
      rfl
    · rename_i h
      have hc : c ≠ '"' ∧ c ≠ '\\' := by simpa using h
      rw [List.cons_append, read_cons hc.1 hc.2, ih]
      rfl

theorem mem_escape {s : List Char} {c : Char} (h : c ∈ escape s) : c ∈ s ∨ c = '\\' := by
  induction s with
  | nil => simp [escape] at h
  | cons d s ih =>
    have hcons {t : List Char} (ht : c ∈ d :: t) (hrest : c ∈ t → c ∈ s ∨ c = '\\') :
        c ∈ d :: s ∨ c = '\\' := by
      rcases List.mem_cons.mp ht with rfl | ht
      · exact .inl List.mem_cons_self
      · exact (hrest ht).imp_left (List.mem_cons_of_mem d)
    rw [escape] at h
    split at h
    · rcases List.mem_cons.mp h with rfl | h
      · exact .inr rfl
      · exact hcons h ih
    · exact hcons h ih

theorem printable_encode {s : List Char} (h : ∀ c ∈ s, Printable c) :
    ∀ c ∈ encode s, Printable c := by
  intro c hc
  rw [encode, List.cons_append, List.mem_cons, List.mem_append, List.mem_singleton] at hc
  rcases hc with rfl | hc | rfl
  · decide
  · rcases mem_escape hc with hc | rfl
    · exact h c hc
    · decide
  · decide

def isMark (c : Char) : Bool :=
  c == '"' || c == '\\'

def marks (s : List Char) : Nat :=
  s.countP isMark

theorem escape_cons (c : Char) (s : List Char) :
    escape (c :: s) = (if isMark c then ['\\'] else []) ++ c :: escape s := by
  rw [escape, isMark]
  split <;> rfl

theorem marks_append (s t : List Char) : marks (s ++ t) = marks s + marks t :=
  List.countP_append

theorem length_escape (s : List Char) : (escape s).length = s.length + marks s := by
  induction s with
  | nil => rfl
  | cons c s ih =>
    rw [escape_cons, List.length_append, List.length_cons, List.length_cons, ih, marks, marks,
      List.countP_cons]
    split <;> simp only [List.length_cons, List.length_nil] <;> omega

theorem escape_of_forall {s : List Char} (h : ∀ c ∈ s, isMark c = false) : escape s = s := by
  induction s with
  | nil => rfl
  | cons c s ih =>
    obtain ⟨hc, hs⟩ := List.forall_mem_cons.mp h
    rw [escape_cons, hc, ih hs]
    rfl

theorem marks_eq_zero {s : List Char} : marks s = 0 ↔ ∀ c ∈ s, isMark c = false := by
  simp only [marks, List.countP_eq_zero, Bool.not_eq_true]

theorem escape_eq_self_iff {s : List Char} : escape s = s ↔ marks s = 0 := by
  refine ⟨fun h ↦ ?_, fun h ↦ escape_of_forall (marks_eq_zero.mp h)⟩
  have hlength := length_escape s
  rw [h] at hlength
  omega

theorem lines_escape (s : List Char) : lines (escape s) = (lines s).map escape := by
  fun_induction lines s with
  | case1 => rfl
  | case2 s ih =>
    have hbreak : escape ('\r' :: '\n' :: s) = '\r' :: '\n' :: escape s := rfl
    rw [hbreak, lines, ih]
    rfl
  | case3 c s h ih =>
    have hs : lines (c :: escape s) = (lines (escape s)).modifyHead (c :: ·) := by
      rw [lines]
      rintro t rfl ht
      cases s with
      | nil => cases ht
      | cons d s =>
        rw [escape_cons] at ht
        split at ht
        · cases ht
        · obtain ⟨rfl, rfl⟩ := List.cons.inj ht
          exact h s rfl rfl
    obtain ⟨l, ls, hl⟩ := List.exists_cons_of_ne_nil (lines_ne_nil s)
    rw [ih, hl, List.map_cons, List.modifyHead_cons] at hs
    rw [hl, List.modifyHead_cons, List.map_cons, escape_cons, escape_cons]
    split
    · have hmark : ∀ d ∈ ['\\'], InLine d := by decide
      rw [lines_append hmark, hs, List.modifyHead_cons]
    · exact hs

end MimeMail.Encoding.QuotedString
