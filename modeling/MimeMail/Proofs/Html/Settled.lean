import MimeMail.Proofs.Html.Collapse
import MimeMail.Proofs.Html.Gap
import MimeMail.Proofs.Html.NormalForm

namespace MimeMail.Html

open Text

variable {c : Char} {s t : List Char}

/-- One application of `f` takes each text to the normal form `P`, which `f` leaves as it is. -/
structure Settles (f : List Char → List Char) (P : List Char → Prop) : Prop where
  normal : ∀ s, P (f s)
  again : ∀ s, f (f s) = f s
  eq_self_iff : ∀ s, f s = s ↔ P s

theorem Settles.of_normal {f : List Char → List Char} {P : List Char → Prop}
    (hnormal : ∀ s, P (f s)) (hself : ∀ s, P s → f s = s) : Settles f P :=
  ⟨hnormal, fun s ↦ hself _ (hnormal s), fun s ↦ ⟨fun h ↦ h ▸ hnormal s, hself s⟩⟩

section Tags

/-- A `<`, other characters than `>`, at least one, and then `>`. -/
def IsTag (w : List Char) : Prop :=
  ∃ body, body ≠ [] ∧ '>' ∉ body ∧ w = '<' :: (body ++ ['>'])

def IsUntagged (s : List Char) : Prop :=
  ∀ w, IsTag w → ¬ w <:+: s

theorem exists_body (hmem : '>' ∈ s) (hhead : '>' ∉ s.head?) :
    ∃ body t, body ≠ [] ∧ '>' ∉ body ∧ s = body ++ '>' :: t := by
  obtain ⟨body, t, rfl, hbody⟩ := List.eq_append_cons_of_mem hmem
  refine ⟨body, t, ?_, hbody, rfl⟩
  rintro rfl
  exact hhead rfl

theorem tag_bracket_eq_none_iff : tag ('<' :: s) = none ↔ '>' ∉ s ∨ '>' ∈ s.head? := by
  constructor
  · intro hnone
    by_contra! h
    obtain ⟨body, t, hne, hbody, rfl⟩ := exists_body h.1 h.2
    have hlt : t.length < ('<' :: (body ++ '>' :: t)).length := by
      simp only [List.length_cons, List.length_append]
      omega
    rw [tag_bracket hne hbody, Match.of?, dif_pos hlt] at hnone
    cases hnone
  · rintro (hmem | hhead)
    · cases s with
      | nil => rfl
      | cons c s =>
        have hrest : s.dropWhile (· != '>') = [] :=
          List.dropWhile_eq_nil_iff.mpr (bne_of_not_mem (List.not_mem_of_not_mem_cons hmem))
        simp [tag, hrest]
    · obtain ⟨s, rfl⟩ := List.head?_eq_some_iff.mp hhead
      rfl

theorem tag_eq_none_iff : tag s = none ↔ ∀ w, IsTag w → ¬ w <+: s := by
  constructor
  · rintro hnone w ⟨body, hne, hbody, rfl⟩ ⟨t, rfl⟩
    have heq : '<' :: (body ++ ['>']) ++ t = '<' :: (body ++ '>' :: t) := by simp
    rw [heq, tag_bracket_eq_none_iff] at hnone
    rcases hnone with hmem | hhead
    · simp at hmem
    · obtain ⟨c, body, rfl⟩ := List.exists_cons_of_ne_nil hne
      obtain rfl : c = '>' := by simpa using hhead
      exact hbody List.mem_cons_self
  · intro habsent
    cases s with
    | nil => rfl
    | cons c s =>
      by_cases hc : c = '<'
      · subst hc
        rw [tag_bracket_eq_none_iff]
        by_contra! h
        obtain ⟨body, t, hne, hbody, rfl⟩ := exists_body h.1 h.2
        exact habsent _ ⟨body, hne, hbody, rfl⟩ ⟨t, by simp⟩
      · exact tag_of_ne_bracket hc s

theorem declines_tag_iff : Declines tag s [] ↔ IsUntagged s :=
  declines_iff_forall_infix (by simp [IsTag]) fun _ ↦ tag_eq_none_iff

theorem IsUntagged.removeTags_eq_self (h : IsUntagged s) : removeTags s = s :=
  Rule.apply_of_declines (declines_tag_iff.mpr h)

theorem removeTags_of_not_mem (h : '>' ∉ s) : removeTags s = s := by
  apply IsUntagged.removeTags_eq_self
  rintro w ⟨body, -, -, rfl⟩ hin
  exact h (hin.subset (by simp))

theorem tag_text {m : Match s} (h : tag s = some m) : m.text = [] := by
  unfold tag at h
  split at h
  · split at h
    · cases h
    · split at h
      · exact Match.text_of? h
      · cases h
  · cases h

theorem isUntagged_removeTags (s : List Char) : IsUntagged (removeTags s) := by
  refine declines_tag_iff.mp (Rule.declines_apply (fun _ _ ↦ tag_text) (fun c s hnone ↦ ?_) s)
  by_cases hc : c = '<'
  · subst hc
    -- A `<` that was kept begins no tag later: either no `>` follows, and nothing is removed behind
    -- it, or `>` follows at once and stays.
    rw [tag_bracket_eq_none_iff] at hnone ⊢
    rcases hnone with hmem | hhead
    · exact .inl (by rwa [← removeTags, removeTags_of_not_mem hmem])
    · obtain ⟨s, rfl⟩ := List.head?_eq_some_iff.mp hhead
      rw [Rule.apply_of_none (tag_of_ne_bracket (by decide) s)]
      exact .inr rfl
  · exact tag_of_ne_bracket hc _

end Tags

section Blanks

/-- The white space of a text is single spaces, and no reference to the no-break space occurs. -/
structure IsCollapsed (s : List Char) : Prop where
  space : ∀ c ∈ s, isSpace c = true → c = ' '
  single : ¬ [' ', ' '] <:+: s
  reference : ¬ "&nbsp;".toList <:+: s

theorem isCollapsed_nil : IsCollapsed [] :=
  ⟨by simp, by simp, by decide⟩

theorem isCollapsed_cons_iff : IsCollapsed (c :: s) ↔
    IsCollapsed s ∧ (isSpace c = true → c = ' ' ∧ Flush s) ∧ ¬ "&nbsp;".toList <+: c :: s := by
  have hspace : isSpace ' ' = true := by decide
  constructor
  · intro h
    obtain ⟨hc, hs⟩ := List.forall_mem_cons.mp h.space
    have htail : IsCollapsed s :=
      ⟨hs, fun hin ↦ h.single (List.infix_cons hin), fun hin ↦ h.reference (List.infix_cons hin)⟩
    refine ⟨htail, fun hsp ↦ ⟨hc hsp, ?_⟩, fun hpre ↦ h.reference hpre.isInfix⟩
    obtain rfl := hc hsp
    rcases flush_or_space s with hflush | ⟨d, t, rfl, hd⟩
    · exact hflush
    · obtain rfl := hs d List.mem_cons_self hd
      exact absurd ⟨[], t, rfl⟩ h.single
  · rintro ⟨hs, hc, hpre⟩
    refine ⟨List.forall_mem_cons.mpr ⟨fun hsp ↦ (hc hsp).1, hs.space⟩, ?_, ?_⟩
    · intro hin
      rcases List.infix_cons_iff.mp hin with hhead | htail
      · obtain ⟨rfl, u, rfl⟩ := List.cons_prefix_cons.mp hhead
        exact absurd ((hc hspace).2 ' ' rfl) (by simp [hspace])
      · exact hs.single htail
    · intro hin
      exact (List.infix_cons_iff.mp hin).elim hpre hs.reference

theorem blankRun_eq_none_iff : blankRun s = none ↔ Flush s ∧ ¬ "&nbsp;".toList <+: s := by
  constructor
  · intro hnone
    refine ⟨head_of_blankRun hnone, ?_⟩
    rintro ⟨t, rfl⟩
    exact blankRun_reference t hnone
  · rintro ⟨hflush, habsent⟩
    unfold blankRun
    split
    · exact absurd ⟨_, rfl⟩ habsent
    · rename_i c t _
      have hc : isSpace c = false := hflush c rfl
      rw [if_neg (by simp [hc])]
    · rfl

theorem blankRun_dropBlanks (s : List Char) : blankRun (dropBlanks s) = none := by
  fun_induction dropBlanks s with
  | case1 s ih => exact ih
  | case2 c s _ _ ih => exact ih
  | case3 c s hreference hc =>
    refine blankRun_eq_none_iff.mpr ⟨by simpa using hc, ?_⟩
    rintro ⟨t, ht⟩
    obtain ⟨rfl, rfl⟩ := List.cons.inj ht
    exact hreference t rfl rfl
  | case4 => rfl

theorem blankRun_spec {m : Match s} (h : blankRun s = some m) :
    m.text = [' '] ∧ blankRun m.rest = none := by
  unfold blankRun at h
  split at h
  · obtain rfl := Option.some.inj h
    exact ⟨rfl, blankRun_dropBlanks _⟩
  · split at h
    · obtain rfl := Option.some.inj h
      exact ⟨rfl, blankRun_dropBlanks _⟩
    · cases h
  · cases h

theorem Flush.of_blankRun (h : blankRun s = none) : Flush (collapseSpace s) := by
  cases s with
  | nil => simp [collapseSpace]
  | cons c s =>
    rw [collapseSpace, Rule.apply_of_none h]
    simpa using (blankRun_eq_none_iff.mp h).1

theorem isCollapsed_collapseSpace (s : List Char) : IsCollapsed (collapseSpace s) := by
  rw [collapseSpace]
  fun_induction Rule.apply blankRun s with
  | case1 => exact isCollapsed_nil
  | case2 c s m hm ih =>
    obtain ⟨htext, hrest⟩ := blankRun_spec hm
    rw [htext]
    exact isCollapsed_cons_iff.mpr ⟨ih, fun _ ↦ ⟨rfl, .of_blankRun hrest⟩, by simp⟩
  | case3 c s hnone ih =>
    obtain ⟨hflush, habsent⟩ := blankRun_eq_none_iff.mp hnone
    have hc : isSpace c = false := hflush c rfl
    refine isCollapsed_cons_iff.mpr ⟨ih, by simp [hc], fun hpre ↦ habsent ?_⟩
    -- No reference is put together by what is written, which is a space.
    rw [← Rule.apply_of_none hnone] at hpre
    refine Rule.isPrefix_of_apply (fun s m hm ↦ ⟨' ', ?_, by decide⟩) hpre
    rw [(blankRun_spec hm).1]
    rfl

theorem IsCollapsed.collapseSpace_eq_self (h : IsCollapsed s) : collapseSpace s = s := by
  induction s with
  | nil => exact blankRun.apply_nil
  | cons c s ih =>
    obtain ⟨hs, hspace, habsent⟩ := isCollapsed_cons_iff.mp h
    cases hc : isSpace c with
    | true =>
      obtain ⟨rfl, hflush⟩ := hspace hc
      have hnone : blankRun s = none :=
        blankRun_eq_none_iff.mpr ⟨hflush, fun hpre ↦ hs.reference hpre.isInfix⟩
      rw [collapseSpace_cons hc, dropBlanks_of_none hnone, ih hs]
    | false =>
      have hnone : blankRun (c :: s) = none :=
        blankRun_eq_none_iff.mpr ⟨flush_cons_iff.mpr hc, habsent⟩
      rw [collapseSpace, Rule.apply_of_none hnone, ← collapseSpace, ih hs]

end Blanks

/-- Removing tags leaves no tag, not even one made of the pieces around those removed; collapsing
white space leaves single spaces, reducing it keeps what is seen and the line feeds of each run. For
all three a second application changes nothing. -/
theorem passes_settle :
    Settles removeTags IsUntagged ∧ Settles collapseSpace IsCollapsed ∧
      Settles normalizeSpace IsReduced ∧ ∀ s, KeepsBreaks s (normalizeSpace s) :=
  ⟨.of_normal isUntagged_removeTags fun _ ↦ IsUntagged.removeTags_eq_self,
    .of_normal isCollapsed_collapseSpace fun _ ↦ IsCollapsed.collapseSpace_eq_self,
    .of_normal isReduced_normalizeSpace fun _ ↦ IsReduced.normalizeSpace_eq_self,
    keepsBreaks_normalizeSpace⟩

example : removeTags "<<b>i>".toList = "i>".toList ∧
    collapseSpace "a&nb&nbsp;sp;b".toList = "a&nb sp;b".toList := by
  decide +kernel

end MimeMail.Html
