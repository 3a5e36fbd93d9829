import Mathlib.Data.List.Basic
import MimeMail.Proofs.Text.Digit
import MimeMail.Proofs.Text.Lines
import MimeMail.Wire.Entity

namespace MimeMail.Wire

open Text

def delimiterLine (token : List Char) (kind : Kind) : Line :=
  "--".toList ++ kind.boundary token

def closingLine (token : List Char) (kind : Kind) : Line :=
  delimiterLine token kind ++ "--".toList

def Kind.ofBoundary? (token b : List Char) : Option Kind :=
  if b = mixed.boundary token then some .mixed
  else if b = alternative.boundary token then some .alternative
  else do
    let s ← b.dropPrefix? "=_r".toList
    let digits ← s.dropSuffix? token
    let index := Nat.ofDigitChars 10 digits 0
    if (toString index).toList = digits then some (.related index) else none

/-- What a line is to a reader. -/
inductive Mark where
  | delimiter (kind : Kind)
  | closing (kind : Kind)
  | text
  deriving DecidableEq, Repr

def mark (token : List Char) (l : Line) : Mark :=
  match l.dropPrefix? "--".toList with
  | none => .text
  | some b =>
    match Kind.ofBoundary? token b with
    | some kind => .delimiter kind
    | none =>
      match (b.dropSuffix? "--".toList).bind (Kind.ofBoundary? token) with
      | some kind => .closing kind
      | none => .text

variable {token : List Char}

theorem dropPrefix?_eq_some {l p s : List Char} : l.dropPrefix? p = some s ↔ l = p ++ s := by
  rw [List.dropPrefix?_eq_some_iff]
  constructor
  · rintro ⟨p', rfl, hp⟩
    rw [beq_iff_eq.mp hp]
  · rintro rfl
    exact ⟨p, rfl, beq_self_eq_true p⟩

theorem dropSuffix?_eq_some {l p s : List Char} : l.dropSuffix? s = some p ↔ l = p ++ s := by
  rw [List.dropSuffix?_eq_some_iff]
  constructor
  · rintro ⟨s', rfl, hs⟩
    rw [beq_iff_eq.mp hs]
  · rintro rfl
    exact ⟨s, rfl, beq_self_eq_true s⟩

theorem boundary_of_ofBoundary? {b : List Char} {kind : Kind}
    (h : Kind.ofBoundary? token b = some kind) : b = kind.boundary token := by
  unfold Kind.ofBoundary? at h
  split at h
  · rename_i hb
    rw [hb, ← Option.some.inj h]
  · split at h
    · rename_i hb
      rw [hb, ← Option.some.inj h]
    · obtain ⟨s, hs, hindex⟩ := Option.bind_eq_some_iff.mp h
      obtain ⟨digits, hdigits, hkind⟩ := Option.bind_eq_some_iff.mp hindex
      dsimp only at hkind
      split at hkind
      · rename_i hd
        rw [dropPrefix?_eq_some.mp hs, dropSuffix?_eq_some.mp hdigits, ← Option.some.inj hkind,
          Kind.boundary, hd, List.append_assoc]
      · cases hkind

theorem ofBoundary?_boundary (token : List Char) (kind : Kind) :
    Kind.ofBoundary? token (kind.boundary token) = some kind := by
  cases kind with
  | mixed => exact if_pos rfl
  | alternative =>
    rw [Kind.ofBoundary?, if_neg, if_pos rfl]
    intro h
    exact absurd (congrArg (·[2]?) h) (by simp [Kind.boundary])
  | related index =>
    have hprefix : (Kind.related index |>.boundary token).dropPrefix? "=_r".toList =
        some ((toString index).toList ++ token) :=
      dropPrefix?_eq_some.mpr (List.append_assoc ..)
    have hsuffix : ((toString index).toList ++ token).dropSuffix? token =
        some (toString index).toList := dropSuffix?_eq_some.mpr rfl
    have hdigits : Nat.ofDigitChars 10 (toString index).toList 0 = index := by
      simp [Nat.ofDigitChars_ten_toDigits]
    have hmixed : (Kind.related index).boundary token ≠ Kind.mixed.boundary token := fun h ↦
      absurd (congrArg (·[2]?) h) (by simp [Kind.boundary])
    have halternative : (Kind.related index).boundary token ≠ Kind.alternative.boundary token :=
      fun h ↦ absurd (congrArg (·[2]?) h) (by simp [Kind.boundary])
    rw [Kind.ofBoundary?, if_neg hmixed, if_neg halternative, hprefix, Option.bind_eq_bind,
      Option.bind_some, hsuffix, Option.bind_some]
    dsimp only
    rw [hdigits, if_pos rfl]

theorem count_boundary (token : List Char) (kind : Kind) :
    (kind.boundary token).count '-' = token.count '-' := by
  cases kind with
  | mixed => exact List.count_append.trans (Nat.zero_add _)
  | alternative => exact List.count_append.trans (Nat.zero_add _)
  | related index =>
    have hdigits : (toString index).toList.count '-' = 0 := by
      rw [List.count_eq_zero]
      intro h
      exact absurd (isDigit_of_mem_toString h) (by decide)
    rw [Kind.boundary, List.count_append, List.count_append, hdigits]
    exact Nat.zero_add _

/-- A boundary with dashes behind it is no boundary, since it has more dashes than the token. -/
theorem ofBoundary?_dashes (token : List Char) (kind : Kind) :
    Kind.ofBoundary? token (kind.boundary token ++ "--".toList) = none := by
  cases h : Kind.ofBoundary? token (kind.boundary token ++ "--".toList) with
  | none => rfl
  | some kind' =>
    have hcount := congrArg (List.count '-') (boundary_of_ofBoundary? h)
    rw [List.count_append, count_boundary, count_boundary] at hcount
    have hdashes : "--".toList.count '-' = 2 := rfl
    omega

theorem line_of_mark (token : List Char) (l : Line) :
    match mark token l with
    | .delimiter kind => l = delimiterLine token kind
    | .closing kind => l = closingLine token kind
    | .text => True := by
  rw [mark]
  cases hb : l.dropPrefix? "--".toList with
  | none => trivial
  | some b =>
    have hl : l = "--".toList ++ b := dropPrefix?_eq_some.mp hb
    dsimp only
    cases hk : Kind.ofBoundary? token b with
    | some kind =>
      dsimp only
      rw [hl, boundary_of_ofBoundary? hk, delimiterLine]
    | none =>
      dsimp only
      cases hclose : (b.dropSuffix? "--".toList).bind (Kind.ofBoundary? token) with
      | none => trivial
      | some kind =>
        obtain ⟨b', hb', hk'⟩ := Option.bind_eq_some_iff.mp hclose
        dsimp only
        rw [hl, dropSuffix?_eq_some.mp hb', boundary_of_ofBoundary? hk', closingLine,
          delimiterLine, List.append_assoc]

theorem mark_eq_delimiter {l : Line} {kind : Kind} :
    mark token l = .delimiter kind ↔ l = delimiterLine token kind := by
  constructor
  · intro h
    have hline := line_of_mark token l
    rwa [h] at hline
  · rintro rfl
    have hprefix : (delimiterLine token kind).dropPrefix? "--".toList =
        some (kind.boundary token) := dropPrefix?_eq_some.mpr rfl
    rw [mark, hprefix]
    simp only [ofBoundary?_boundary]

theorem mark_eq_closing {l : Line} {kind : Kind} :
    mark token l = .closing kind ↔ l = closingLine token kind := by
  constructor
  · intro h
    have hline := line_of_mark token l
    rwa [h] at hline
  · rintro rfl
    have hprefix : (closingLine token kind).dropPrefix? "--".toList =
        some (kind.boundary token ++ "--".toList) :=
      dropPrefix?_eq_some.mpr (List.append_assoc ..)
    have hsuffix : (kind.boundary token ++ "--".toList).dropSuffix? "--".toList =
        some (kind.boundary token) := dropSuffix?_eq_some.mpr rfl
    rw [mark, hprefix]
    simp only [ofBoundary?_dashes, hsuffix, Option.bind_some, ofBoundary?_boundary]

def boundaryMark : List Char := "--=_".toList

theorem boundaryMark_isPrefix (token : List Char) (kind : Kind) :
    boundaryMark <+: delimiterLine token kind := by
  cases kind <;> exact ⟨_, rfl⟩

theorem mark_text {l : Line} (h : ¬ boundaryMark <+: l) : mark token l = .text := by
  cases hm : mark token l with
  | text => rfl
  | delimiter kind =>
    rw [mark_eq_delimiter.mp hm] at h
    exact absurd (boundaryMark_isPrefix token kind) h
  | closing kind =>
    rw [mark_eq_closing.mp hm] at h
    exact absurd ((boundaryMark_isPrefix token kind).trans (List.prefix_append _ _)) h

theorem forall_mem_boundary {p : Char → Prop} (hp : ∀ c, Printable c → p c)
    (h : ∀ c ∈ token, p c) (kind : Kind) : ∀ c ∈ kind.boundary token, p c := by
  have happend {s : List Char} (hs : ∀ c ∈ s, Printable c) : ∀ c ∈ s ++ token, p c := by
    intro c hc
    rcases List.mem_append.mp hc with hc | hc
    · exact hp c (hs c hc)
    · exact h c hc
  cases kind with
  | mixed => exact happend (s := "=_m".toList) (by decide)
  | alternative => exact happend (s := "=_a".toList) (by decide)
  | related index =>
    refine happend (s := "=_r".toList ++ (toString index).toList) fun c hc ↦ ?_
    rcases List.mem_append.mp hc with hc | hc
    · have hlit : ∀ c ∈ "=_r".toList, Printable c := by decide
      exact hlit c hc
    · exact printable_toString index c hc

theorem Kind.suffix_boundary (token : List Char) (kind : Kind) : token <:+ kind.boundary token := by
  cases kind with
  | mixed => exact List.suffix_append _ _
  | alternative => exact List.suffix_append _ _
  | related index => exact List.suffix_append _ _

theorem Kind.boundary_ne {token token' : List Char} (hlength : token.length = token'.length)
    (hne : token ≠ token') (kind kind' : Kind) : kind.boundary token ≠ kind'.boundary token' := by
  intro h
  have hsuffix := kind'.suffix_boundary token'
  rw [← h] at hsuffix
  have hback := List.suffix_of_suffix_length_le (kind.suffix_boundary token) hsuffix
    (Nat.le_of_eq hlength)
  exact hne (hback.eq_of_length hlength)

end MimeMail.Wire
