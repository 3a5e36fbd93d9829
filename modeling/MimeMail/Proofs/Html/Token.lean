import MimeMail.Proofs.Html.Escape
import MimeMail.Proofs.Html.Hidden
import MimeMail.Proofs.Html.Links

namespace MimeMail.Html

open Text

theorem foldCase_of_isSpace {c : Char} (hc : isSpace c = true) : foldCase c = c := by
  have hne {d : Char} (hd : isSpace d = false) : (c == d) = false := by
    rw [beq_eq_false_iff_ne]
    rintro rfl
    exact absurd hc (by simp [hd])
  have hupper : ¬ ('A' ≤ c ∧ c ≤ 'Z') := by
    rintro ⟨hlo, hhi⟩
    have hlo' : 65 ≤ c.toNat := hlo
    have hhi' : c.toNat ≤ 90 := hhi
    simp only [isSpace, Bool.or_eq_true, Bool.and_eq_true, decide_eq_true_eq, beq_iff_eq] at hc
    omega
  rw [foldCase, hne (by decide), hne (by decide), if_neg Bool.false_ne_true,
    if_neg Bool.false_ne_true]
  exact dif_neg hupper

def inlineNames : List (List Char) :=
  ["b".toList, "i".toList, "u".toList, "em".toList, "strong".toList, "span".toList]

structure InlineTag where
  closing : Bool
  name : List Char
  name_mem : name.map foldCase ∈ inlineNames

inductive Tag where
  | inline (t : InlineTag)
  | paragraph
  | paragraphEnd
  | lineBreak

namespace Tag

def body : Tag → List Char
  | inline t => if t.closing then '/' :: t.name else t.name
  | paragraph => ['p']
  | paragraphEnd => ['/', 'p']
  | lineBreak => ['b', 'r']

def markup (t : Tag) : List Char :=
  '<' :: (t.body ++ ['>'])

def breaks : Tag → Bool
  | inline _ => false
  | _ => true

def inlineBodies : List (List Char) :=
  inlineNames ++ inlineNames.map ('/' :: ·)

def bodies : List (List Char) :=
  inlineBodies ++ [['p'], ['/', 'p'], ['b', 'r']]

variable (t : Tag)

theorem folded_body_inline (h : t.breaks = false) : t.body.map foldCase ∈ inlineBodies := by
  cases t with
  | inline t =>
    have hslash : foldCase '/' = '/' := by decide
    rw [body, inlineBodies, List.mem_append]
    split
    · rw [List.map_cons, hslash]
      exact .inr (List.mem_map_of_mem t.name_mem)
    · exact .inl t.name_mem
  | _ => exact absurd h (by simp [breaks])

theorem folded_body : t.body.map foldCase ∈ bodies := by
  rw [bodies, List.mem_append]
  cases hbreaks : t.breaks with
  | false => exact .inl (t.folded_body_inline hbreaks)
  | true =>
    cases t with
    | inline => exact absurd hbreaks (by simp [breaks])
    | _ => decide

theorem dropWord?_body {names : List (List Char)} (ht : t.body.map foldCase ∈ names)
    {w : List Char} (hw : '>' ∉ w.dropLast) (h : ∀ body ∈ names, ¬ w <+: body ++ ['>'])
    (s : List Char) : dropWord? w (t.body ++ '>' :: s) = none := by
  rw [dropWord?_eq_none_iff]
  intro hlead
  have hfold : foldCase '>' = '>' := by decide
  rw [List.map_append, List.map_cons, hfold, ← List.singleton_append,
    ← List.append_assoc] at hlead
  rcases List.prefix_or_prefix_of_prefix hlead (List.prefix_append _ _) with hbody | ⟨v, rfl⟩
  · exact h _ ht hbody
  · by_cases hv : v = []
    · exact h _ ht (by simp [hv])
    · rw [List.dropLast_append_of_ne_nil hv] at hw
      exact hw (by simp)

theorem body_ne_nil : t.body ≠ [] := by
  intro hnil
  have hmem := t.folded_body
  rw [hnil] at hmem
  revert hmem
  decide

theorem not_mem_body {c : Char} (hc : c < 'A') (h : ∀ body ∈ bodies, c ∉ body) : c ∉ t.body :=
  fun hmem ↦ h _ t.folded_body ((mem_map_foldCase hc).mpr hmem)

theorem not_isSpace_of_mem {c : Char} (hc : c ∈ t.body) : isSpace c = false := by
  have hbodies : ∀ body ∈ bodies, ∀ d ∈ body, isSpace d = false := by decide
  rw [← Bool.not_eq_true]
  intro hspace
  have hfold := hbodies _ t.folded_body _ (List.mem_map_of_mem hc)
  rw [foldCase_of_isSpace hspace, hspace] at hfold
  exact absurd hfold (by decide)

theorem length_lt (s : List Char) : ('>' :: s).length < (t.markup ++ s).length := by
  simp only [markup, List.length_append, List.length_cons, List.length_nil]
  omega

theorem bracket_not_mem_tail : '<' ∉ t.body ++ ['>'] := by
  simpa using t.not_mem_body (c := '<') (by decide) (by decide)

end Tag

inductive Token where
  | char (c : Char)
  | tag (t : Tag)

def Token.markup : Token → List Char
  | char c => escaped c
  | tag t => t.markup

def Token.preceded (sep : Char) : Token → List Token
  | char c => [char c]
  | tag t => if t.breaks then [char sep, tag t] else [tag t]

def markup (ts : List Token) : List Char :=
  ts.flatMap Token.markup

section Readers

variable {α : List Char → Type} {k : (s : List Char) → Option (α s)}

theorem declines_escaped (hk : ∀ c ≠ '<', ∀ s, k (c :: s) = none) (c : Char) (s : List Char) :
    Declines k (escaped c) s :=
  .of_forall fun _ hd ↦ hk _ fun heq ↦ (bracket_not_mem_escaped c).1 (heq ▸ hd)

theorem declines_tag (hk : ∀ c ≠ '<', ∀ s, k (c :: s) = none) {t : Tag} {s : List Char}
    (ht : k (t.markup ++ s) = none) : Declines k t.markup s :=
  ⟨ht, .of_forall fun _ hd ↦ hk _ fun heq ↦ t.bracket_not_mem_tail (heq ▸ hd)⟩

/-- What is not read at a tag is not read anywhere. -/
theorem declines_markup (hk : ∀ c ≠ '<', ∀ s, k (c :: s) = none)
    (htag : ∀ (t : Tag) s, k (t.markup ++ s) = none) (ts : List Token) :
    Declines k (markup ts) [] := by
  induction ts with
  | nil => trivial
  | cons x ts ih =>
    rw [markup, List.flatMap_cons, declines_append]
    refine ⟨?_, ih⟩
    cases x with
    | char c => exact declines_escaped hk c _
    | tag t => exact declines_tag hk (htag t _)

end Readers

theorem Tag.dropWord?_markup (t : Tag) {w : List Char} (hw : '>' ∉ w.dropLast)
    (h : ∀ body ∈ Tag.bodies, ¬ w <+: body ++ ['>']) (s : List Char) :
    dropWord? ('<' :: w) (t.markup ++ s) = none := by
  have hbody := t.dropWord?_body t.folded_body hw h s
  simpa [Tag.markup, dropWord?, foldCase] using hbody

theorem dropInvisible_markup (ts : List Token) : dropInvisible (markup ts) = markup ts := by
  refine Rule.apply_of_declines (declines_markup (fun c hc s ↦ ?_) (fun t s ↦ ?_) ts)
  all_goals
    refine Hidden.invisible_of_none fun k ↦ ?_
    rw [Hidden.element?, element?]
  · rw [dropWord?_of_ne_bracket rfl hc]
    rfl
  · rw [Hidden.openingTag, t.dropWord?_markup (by cases k <;> decide) (by cases k <;> decide)]
    rfl

theorem keepImageText_markup (ts : List Token) : keepImageText (markup ts) = markup ts := by
  refine Rule.apply_of_declines (declines_markup (fun c hc s ↦ ?_) (fun t s ↦ ?_) ts)
  · rw [imageText, dropWord?_of_ne_bracket rfl hc]
    rfl
  · have hword : dropWord? "<img ".toList (t.markup ++ s) = none :=
      t.dropWord?_markup (w := "img ".toList) (by decide) (by decide) s
    rw [imageText, hword]
    rfl

theorem keepLinkTarget_markup (ts : List Token) : keepLinkTarget (markup ts) = markup ts := by
  have hlast : lastLinkEnd? (markup ts) = none :=
    lastLinkEnd?_of_declines (declines_markup (fun c hc s ↦ dropWord?_of_ne_bracket rfl hc s)
      (fun t s ↦ t.dropWord?_markup (w := "/a>".toList) (by decide) (by decide) s) ts)
  rw [keepLinkTarget, hlast]

theorem dropAnyWord?_eq_none {ws : List String} {s : List Char}
    (h : ∀ w ∈ ws, dropWord? w.toList s = none) : dropAnyWord? ws s = none := by
  induction ws with
  | nil => rfl
  | cons w ws ih =>
    obtain ⟨hw, hws⟩ := List.forall_mem_cons.mp h
    have hrest := ih hws
    rw [dropAnyWord?] at hrest ⊢
    rw [List.firstM, hw, hrest]
    rfl

/-- A rule that puts a character before each tag that breaks lines treats markup token by token. -/
theorem apply_markup {r : Rule} {sep : Char} (hsep : escaped sep = [sep])
    (hchar : ∀ c ≠ '<', ∀ s, r (c :: s) = none)
    (hinline : ∀ (t : Tag) s, t.breaks = false → r (t.markup ++ s) = none)
    (hbreaks : ∀ (t : Tag) s, t.breaks = true →
      r.apply (t.markup ++ s) = sep :: (t.markup ++ r.apply s)) (ts : List Token) :
    r.apply (markup ts) = markup (ts.flatMap (Token.preceded sep)) := by
  rw [markup, markup, List.flatMap_assoc]
  refine Rule.apply_flatMap (fun x s ↦ ?_) ts
  cases x with
  | char c =>
    rw [Token.preceded, List.flatMap_singleton]
    exact Rule.apply_append_of_declines (declines_escaped hchar c s)
  | tag t =>
    rw [Token.preceded]
    cases ht : t.breaks with
    | false =>
      rw [if_neg Bool.false_ne_true, List.flatMap_singleton]
      exact Rule.apply_append_of_declines (declines_tag hchar (hinline t s ht))
    | true => simpa [Token.markup, hsep] using hbreaks t s ht

theorem Tag.dropWord?_bracket (t : Tag) (s : List Char) :
    dropWord? ['<'] (t.markup ++ s) = some (t.body ++ '>' :: s) := by
  simp [Tag.markup, dropWord?, foldCase]

theorem Tag.dropAnyWord?_inline {t : Tag} (ht : t.breaks = false) {ws : List String}
    (hws : ∀ w ∈ ws, '>' ∉ w.toList.dropLast ∧
      ∀ body ∈ Tag.inlineBodies, ¬ w.toList <+: body ++ ['>']) (s : List Char) :
    dropAnyWord? ws (t.body ++ '>' :: s) = none :=
  dropAnyWord?_eq_none fun w hw ↦
    t.dropWord?_body (t.folded_body_inline ht) (hws w hw).1 (hws w hw).2 s

theorem breakLines_markup (ts : List Token) :
    breakLines (markup ts) = markup (ts.flatMap (Token.preceded '\n')) := by
  refine apply_markup (by decide) (fun c hc s ↦ ?_) (fun t s ht ↦ ?_) (fun t s ht ↦ ?_) ts
  · rw [breakingTag, dropWord?_of_ne_bracket rfl hc]
    rfl
  · have hheading : headingEnd? (t.body ++ '>' :: s) = none := by
      rw [headingEnd?, t.dropWord?_body (t.folded_body_inline ht) (by decide) (by decide)]
      rfl
    rw [breakingTag, t.dropWord?_bracket]
    simp only [Option.bind_eq_bind, Option.bind_some]
    rw [hheading, Tag.dropAnyWord?_inline ht (by decide)]
    rfl
  · have hmatch : breakingTag (t.markup ++ s) =
        Match.of? (t.markup ++ s) ('\n' :: consumed (t.markup ++ s) s) s := by
      cases t with
      | inline => exact absurd ht (by simp [Tag.breaks])
      | _ => rfl
    rw [Rule.apply_of_of? hmatch (Nat.lt_of_succ_lt (t.length_lt s)), consumed_append]
    rfl

theorem spaceTags_markup (ts : List Token) :
    spaceTags (markup ts) = markup (ts.flatMap (Token.preceded ' ')) := by
  refine apply_markup (by decide) (fun c hc s ↦ ?_) (fun t s ht ↦ ?_) (fun t s ht ↦ ?_) ts
  · rw [spacedTag, dropWord?_of_ne_bracket rfl hc]
    rfl
  · rw [spacedTag, t.dropWord?_bracket]
    simp only [Option.bind_eq_bind, Option.bind_some]
    rw [Tag.dropAnyWord?_inline ht (by decide)]
    rfl
  · have hmarkup : t.markup ++ s = ('<' :: t.body) ++ '>' :: s := by simp [Tag.markup]
    have hmatch : spacedTag (t.markup ++ s) =
        Match.of? (t.markup ++ s) (' ' :: consumed (t.markup ++ s) ('>' :: s)) ('>' :: s) := by
      cases t with
      | inline => exact absurd ht (by simp [Tag.breaks])
      | _ => rfl
    have hbracket : spacedTag.apply ('>' :: s) = '>' :: spacedTag.apply s :=
      Rule.apply_of_none (by rw [spacedTag, dropWord?_of_ne_bracket rfl (by decide)]; rfl)
    rw [Rule.apply_of_of? hmatch (t.length_lt s), hbracket, hmarkup, consumed_append]
    simp [Tag.markup]

def Token.text : Token → List Char
  | char c => escaped c
  | tag _ => []

theorem tag_of_ne_bracket {c : Char} (hc : c ≠ '<') (s : List Char) : tag (c :: s) = none := by
  rw [tag]
  rintro d u heq
  exact hc (List.cons.inj heq).1

theorem tag_bracket {body : List Char} (hne : body ≠ []) (hbody : '>' ∉ body) (s : List Char) :
    tag ('<' :: (body ++ '>' :: s)) = Match.of? _ [] s := by
  obtain ⟨c, body, rfl⟩ := List.exists_cons_of_ne_nil hne
  have hc : (c == '>') = false := by simpa using bne_of_not_mem hbody c List.mem_cons_self
  have hrest : (body ++ '>' :: s).dropWhile (· != '>') = '>' :: s :=
    dropWhile_append_cons (bne_of_not_mem (List.not_mem_of_not_mem_cons hbody)) (by decide) s
  rw [List.cons_append, tag]
  simp only [hc, hrest]
  rfl

theorem Tag.tag_markup (t : Tag) (s : List Char) : tag (t.markup ++ s) = Match.of? _ [] s := by
  have hclosing : '>' ∉ t.body := t.not_mem_body (by decide) (by decide)
  have hmarkup : t.markup ++ s = '<' :: (t.body ++ '>' :: s) := by simp [markup]
  rw [hmarkup, tag_bracket t.body_ne_nil hclosing]

theorem removeTags_markup (ts : List Token) : removeTags (markup ts) = ts.flatMap Token.text := by
  refine Rule.apply_flatMap (fun x s ↦ ?_) ts
  cases x with
  | char c =>
    exact Rule.apply_append_of_declines (declines_escaped (fun _ ↦ tag_of_ne_bracket) c s)
  | tag t => exact Rule.apply_of_of? (t.tag_markup s) (Nat.lt_of_succ_lt (t.length_lt s))

end MimeMail.Html
