import MimeMail.Html.Pass
import MimeMail.Proofs.Html.Token
import MimeMail.Proofs.Text.Space

namespace MimeMail.Html

open Text Reference

theorem blankRun_of_ne {c : Char} {s t : List Char} (hs : s = c :: t) (hc : isSpace c = false)
    (hamp : c ≠ '&') : blankRun s = none := by
  -- The rule tells the cases of a whole text apart, which has to be a variable for that.
  unfold blankRun
  split
  · exact absurd (List.cons.inj hs).1.symm hamp
  · obtain ⟨rfl, rfl⟩ := List.cons.inj hs
    rw [if_neg (by simp [hc])]
  · rfl

theorem blankRun_of_isSpace {c : Char} {s t : List Char} (hs : s = c :: t)
    (hc : isSpace c = true) :
    ∃ m, blankRun s = some m ∧ m.text = [' '] ∧ m.rest = dropBlanks t := by
  unfold blankRun
  split
  · obtain ⟨rfl, -⟩ := List.cons.inj hs
    exact absurd hc (by decide)
  · obtain ⟨rfl, rfl⟩ := List.cons.inj hs
    rw [if_pos hc]
    exact ⟨_, rfl, rfl, rfl⟩
  · exact absurd hs (by simp)

theorem blankRun_reference (s : List Char) : blankRun ("&nbsp;".toList ++ s) ≠ none :=
  Option.some_ne_none _

theorem head_of_blankRun {s : List Char} (h : blankRun s = none) :
    ∀ c ∈ s.head?, isSpace c = false := by
  intro c hc
  obtain ⟨t, rfl⟩ := List.head?_eq_some_iff.mp hc
  rw [← Bool.not_eq_true]
  intro hspace
  obtain ⟨m, hm, -⟩ := blankRun_of_isSpace rfl hspace
  exact absurd (h.symm.trans hm) (by simp)

theorem dropBlanks_of_none {s : List Char} (h : blankRun s = none) : dropBlanks s = s := by
  fun_cases dropBlanks s with
  | case1 s => exact absurd h (blankRun_reference s)
  | case2 c s _ hspace => exact absurd hspace (by simp [head_of_blankRun h c rfl])
  | case3 => rfl
  | case4 => rfl

theorem dropBlanks_of_isSpace {c : Char} {s t : List Char} (hs : s = c :: t)
    (hc : isSpace c = true) : dropBlanks s = dropBlanks t := by
  fun_cases dropBlanks s with
  | case1 s =>
    obtain ⟨rfl, -⟩ := List.cons.inj hs
    exact absurd hc (by decide)
  | case2 d s =>
    obtain ⟨-, rfl⟩ := List.cons.inj hs
    rfl
  | case3 d s _ hd =>
    obtain ⟨rfl, -⟩ := List.cons.inj hs
    exact absurd hc hd
  | case4 => exact absurd hs (by simp)

theorem Tag.declines_blankRun (t : Tag) (s : List Char) : Declines blankRun t.markup s := by
  have hamp : '&' ∉ t.body := t.not_mem_body (by decide) (by decide)
  have hbracket {c : Char} (hc : c = '<' ∨ c = '>') (u : List Char) : blankRun (c :: u) = none := by
    rcases hc with rfl | rfl <;> rfl
  refine .of_forall fun c hc u ↦ ?_
  rw [markup, List.mem_cons, List.mem_append, List.mem_singleton] at hc
  rcases hc with hc | hc | hc
  · exact hbracket (.inl hc) u
  · exact blankRun_of_ne rfl (t.not_isSpace_of_mem hc) fun heq ↦ hamp (heq ▸ hc)
  · exact hbracket (.inr hc) u

theorem declines_blankRun_escaped {c : Char} (hc : isSpace c = false) (s : List Char) :
    Declines blankRun (escaped c) s := by
  unfold escaped
  split
  case h_6 hamp _ _ _ _ => exact ⟨blankRun_of_ne rfl hc hamp, trivial⟩
  all_goals
    exact ⟨rfl, .of_forall fun d hd u ↦
      blankRun_of_ne rfl (by revert d; decide) (by revert d; decide)⟩

/-- Collapses white space to one space; what is `behind` white space has had its space. -/
def squeeze : Bool → List Token → List Token
  | _, [] => []
  | behind, .char c :: ts =>
    if isSpace c then if behind then squeeze true ts else .char ' ' :: squeeze true ts
    else .char c :: squeeze false ts
  | _, .tag t :: ts => .tag t :: squeeze false ts

theorem collapseSpace_append {s t : List Char} (h : Declines blankRun s t) (hne : s ≠ []) :
    collapseSpace (s ++ t) = s ++ collapseSpace t ∧ dropBlanks (s ++ t) = s ++ t :=
  ⟨Rule.apply_append_of_declines h,
    dropBlanks_of_none (declines_iff.mp h s List.suffix_rfl hne)⟩

theorem collapseSpace_cons {c : Char} (hc : isSpace c = true) (s : List Char) :
    collapseSpace (c :: s) = ' ' :: collapseSpace (dropBlanks s) := by
  obtain ⟨m, hm, htext, hrest⟩ := blankRun_of_isSpace (t := s) rfl hc
  have happly := Rule.apply_of_some hm
  rwa [htext, hrest] at happly

theorem collapseSpace_markup (ts : List Token) :
    collapseSpace (markup ts) = markup (squeeze false ts) ∧
      collapseSpace (dropBlanks (markup ts)) = markup (squeeze true ts) := by
  induction ts with
  | nil => exact ⟨blankRun.apply_nil, blankRun.apply_nil⟩
  | cons x ts ih =>
    obtain ⟨hfront, hbehind⟩ := ih
    have hmarkup (x : Token) (ts : List Token) : markup (x :: ts) = x.markup ++ markup ts :=
      List.flatMap_cons
    -- A token that is no white space is passed over, behind white space as well.
    have hpass (x : Token) (h : Declines blankRun x.markup (markup ts)) (hne : x.markup ≠ []) :
        collapseSpace (markup (x :: ts)) = markup (x :: squeeze false ts) ∧
          collapseSpace (dropBlanks (markup (x :: ts))) = markup (x :: squeeze false ts) := by
      obtain ⟨hcollapse, hdrop⟩ := collapseSpace_append h hne
      rw [hmarkup, hmarkup, hdrop, hcollapse, hfront]
      exact ⟨rfl, rfl⟩
    cases x with
    | tag t => exact hpass (.tag t) (t.declines_blankRun _) (List.cons_ne_nil _ _)
    | char c =>
      cases hc : isSpace c with
      | false =>
        simp only [squeeze, hc]
        exact hpass (.char c) (declines_blankRun_escaped hc _) (escaped_ne_nil c)
      | true =>
        have hspace : markup (.char c :: ts) = c :: markup ts := by
          rw [hmarkup, Token.markup, escaped_of_isSpace hc]
          rfl
        simp only [squeeze, hc, if_true]
        rw [hspace, collapseSpace_cons hc, dropBlanks_of_isSpace rfl hc, hbehind]
        exact ⟨rfl, rfl⟩

def Token.chars : Token → List Char
  | char c => [c]
  | tag _ => []

/-- What is seen of a token, the tags that break lines being seen as a line feed and a space. -/
def Token.shown : Token → List Char
  | char c => [c]
  | tag t => if t.breaks then ['\n', ' '] else []

theorem Token.text_eq (x : Token) : x.text = x.chars.flatMap escaped := by
  cases x <;> simp [text, chars]

theorem Token.shown_eq (x : Token) :
    x.shown = ((x.preceded '\n').flatMap (preceded ' ')).flatMap chars := by
  cases x with
  | char c => rfl
  | tag t => cases ht : t.breaks <;> simp [shown, preceded, chars, ht]

theorem decode_visibleText_markup (ts : List Token) :
    decode (visibleText (markup ts)) = (squeeze false ts).flatMap Token.shown := by
  rw [visibleText, (collapseSpace_markup ts).1, dropInvisible_markup, breakLines_markup,
    spaceTags_markup, keepImageText_markup, keepLinkTarget_markup, removeTags_markup,
    funext Token.text_eq, ← List.flatMap_assoc, decode_flatMap_escaped, List.flatMap_assoc,
    List.flatMap_assoc, funext Token.shown_eq]
  simp only [List.flatMap_assoc]

theorem squeeze_append {ts : List Token} (hts : ∀ x ∈ ts.head?, ∃ t, x = .tag t) (behind : Bool)
    (xs : List Token) : squeeze behind (xs ++ ts) = squeeze behind xs ++ squeeze false ts := by
  induction xs generalizing behind with
  | nil =>
    cases ts with
    | nil => rfl
    | cons x ts =>
      obtain ⟨t, rfl⟩ := hts x rfl
      rfl
  | cons x xs ih =>
    cases x with
    | char c =>
      simp only [List.cons_append, squeeze, ih]
      split
      · split <;> rfl
      · rfl
    | tag t => simp only [List.cons_append, squeeze, ih]

theorem lineFeed_not_mem_squeeze {ts : List Token} (h : ∀ t, .tag t ∈ ts → t.breaks = false)
    (behind : Bool) : '\n' ∉ (squeeze behind ts).flatMap Token.shown := by
  induction ts generalizing behind with
  | nil => simp [squeeze]
  | cons x ts ih =>
    have hrest := ih fun t ht ↦ h t (List.mem_cons_of_mem x ht)
    cases x with
    | tag t =>
      have ht := h t List.mem_cons_self
      simpa [squeeze, Token.shown, ht] using hrest false
    | char c =>
      cases hc : isSpace c with
      | false =>
        have hne : '\n' ≠ c := by
          rintro rfl
          exact absurd hc (by decide)
        simpa [squeeze, hc, Token.shown, hne] using hrest false
      | true =>
        cases behind <;> simpa [squeeze, hc, Token.shown] using hrest true

theorem words_squeeze (ts : List Token) :
    (∀ u, words (u ++ (squeeze false ts).flatMap Token.shown) =
      words (u ++ ts.flatMap Token.shown)) ∧
    words ((squeeze true ts).flatMap Token.shown) = words (ts.flatMap Token.shown) := by
  induction ts with
  | nil => exact ⟨fun _ ↦ rfl, rfl⟩
  | cons x ts ih =>
    obtain ⟨hfront, hbehind⟩ := ih
    have hspace : isSpace ' ' = true := by decide
    cases x with
    | tag t =>
      have hlineFeed : isSpace '\n' = true := by decide
      have hnil := hfront []
      cases ht : t.breaks with
      | false => simpa [squeeze, Token.shown, ht] using ⟨hfront, hnil⟩
      | true =>
        simpa [squeeze, Token.shown, ht, words_append_cons hlineFeed, words_cons hlineFeed,
          words_cons hspace] using hnil
    | char c =>
      cases hc : isSpace c with
      | false =>
        have hword (u : List Char) := hfront (u ++ [c])
        simp only [List.append_assoc, List.singleton_append] at hword
        simpa [squeeze, hc, Token.shown] using ⟨hword, hword []⟩
      | true =>
        simp [squeeze, hc, Token.shown, words_append_cons hspace, words_append_cons hc,
          words_cons hc, hbehind]

end MimeMail.Html
