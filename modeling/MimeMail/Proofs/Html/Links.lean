import Mathlib.Data.List.Perm.Basic
import Mathlib.Data.List.TakeWhile
import MimeMail.Html.Pass
import MimeMail.Proofs.Html.Letter
import MimeMail.Proofs.Text.Cut
import MimeMail.Proofs.Text.Replace

namespace MimeMail.Html

open Text

def BeginsAttribute (name s : List Char) : Prop :=
  ∃ word gap gap', s = word ++ gap ++ '=' :: gap' ∧ word.map foldCase = name ∧
    (∀ c ∈ gap, isSpace c = true) ∧ ∀ c ∈ gap', isSpace c = true

theorem exists_of_attribute? {name s value rest : List Char}
    (h : attribute? name s = some (value, rest)) : ∃ lead, BeginsAttribute name lead ∧
      s = lead ++ '"' :: (value ++ '"' :: rest) ∧ value ≠ [] ∧ '"' ∉ value := by
  unfold attribute? at h
  obtain ⟨s₁, hword, hread⟩ := Option.bind_eq_some_iff.mp h
  obtain ⟨word, rfl, hname⟩ := dropWord?_eq_some_iff.mp hword
  have hgap := List.takeWhile_append_dropWhile (p := isSpace) (l := s₁)
  split at hread
  · rename_i s₂ hequals
    have hgap' := List.takeWhile_append_dropWhile (p := isSpace) (l := s₂)
    split at hread
    · rename_i s₃ hquote
      have hvalue := List.takeWhile_append_dropWhile (p := (· != '"')) (l := s₃)
      dsimp only at hread
      split at hread
      · rename_i s₄ hclose
        rw [← hvalue, List.drop_left' (by simp)] at hclose
        split at hread
        · exact absurd hread (by simp)
        · rename_i hne
          obtain ⟨rfl, rfl⟩ := Prod.mk.inj (Option.some.inj hread)
          rw [hequals] at hgap
          rw [hquote] at hgap'
          rw [hclose] at hvalue
          refine ⟨word ++ s₁.takeWhile isSpace ++ '=' :: s₂.takeWhile isSpace,
            ⟨word, _, _, rfl, hname, fun c hc ↦ List.mem_takeWhile_imp hc,
              fun c hc ↦ List.mem_takeWhile_imp hc⟩, ?_, ?_, ?_⟩
          · simp only [List.append_assoc, List.cons_append, hvalue, hgap', hgap]
          · simpa using hne
          · intro hc
            exact absurd (List.mem_takeWhile_imp hc) (by simp)
      · exact absurd hread (by simp)
    · exact absurd hread (by simp)
  · exact absurd hread (by simp)

theorem BeginsAttribute.attribute? {name lead value : List Char} (h : BeginsAttribute name lead)
    (hne : value ≠ []) (hquote : '"' ∉ value) (rest : List Char) :
    attribute? name (lead ++ '"' :: (value ++ '"' :: rest)) = some (value, rest) := by
  obtain ⟨word, gap, gap', rfl, hname, hgap, hgap'⟩ := h
  have hequals : isSpace '=' = false := by decide
  have hopen : isSpace '"' = false := by decide
  simp only [List.append_assoc, List.cons_append, Html.attribute?, dropWord?_append hname,
    Option.bind_eq_bind, Option.bind_some, dropWhile_append_cons hgap hequals,
    dropWhile_append_cons hgap' hopen, takeWhile_append_cons hquote, List.drop_left]
  simp [hne]

theorem BeginsAttribute.quote_not_mem {name lead : List Char} (h : BeginsAttribute name lead)
    (hname : '"' ∉ name) : '"' ∉ lead := by
  obtain ⟨word, gap, gap', rfl, rfl, hgap, hgap'⟩ := h
  have hspace : isSpace '"' = false := by decide
  have hfold : foldCase '"' = '"' := by decide
  intro hmem
  rw [List.mem_append, List.mem_append, List.mem_cons] at hmem
  rcases hmem with (hmem | hmem) | hmem | hmem
  · exact hname (hfold ▸ List.mem_map_of_mem hmem)
  · exact absurd (hgap _ hmem) (by simp [hspace])
  · exact absurd hmem (by decide)
  · exact absurd (hgap' _ hmem) (by simp [hspace])

theorem attribute?_cons_of_ne {c d : Char} {name s : List Char} (h : foldCase c ≠ d) :
    attribute? (d :: name) (c :: s) = none := by
  have hword : dropWord? (d :: name) (c :: s) = none := by simp [dropWord?, h]
  rw [attribute?, hword]
  rfl

structure Untagged where
  chars : List Char
  bracket_not_mem : '<' ∉ chars

/-- A link as it is written with nothing but its target in the opening tag. -/
structure Link where
  target : List Char
  text : Untagged
  target_ne_nil : target ≠ []
  quote_not_mem : '"' ∉ target
  bracket_not_mem : '>' ∉ target

namespace Link

def opening (l : Link) : List Char :=
  "<a href=\"".toList ++ l.target ++ "\">".toList

def closing : List Char :=
  "</a>".toList

def markup (l : Link) : List Char :=
  l.opening ++ l.text.chars ++ closing

/-- The target ends as if one more attribute began there, whose value a quote behind it closes. -/
def IsMisread (l : Link) (behind : List Char) : Prop :=
  (∃ lead, lead <:+ l.target ∧ BeginsAttribute "href".toList lead) ∧ '"' ∈ behind

/-- The target that is noted for a link with some text behind its opening tag. -/
def Noted (l : Link) (behind target : List Char) : Prop :=
  (l.IsMisread behind → target = '>' :: behind.takeWhile (· != '"')) ∧
    (¬ l.IsMisread behind → target = l.target)

variable (l : Link) {behind value rest v : List Char}

theorem eq_of_attribute? (hv : v <:+ l.target ++ ['"'])
    (h : attribute? "href".toList (v ++ '>' :: behind) = some (value, rest)) :
    l.IsMisread behind ∧ value = '>' :: behind.takeWhile (· != '"') := by
  obtain ⟨lead, hlead, heq, hne, hquote⟩ := exists_of_attribute? h
  obtain rfl | ⟨v, rfl, hsuffix⟩ := List.suffix_concat_iff.mp hv
  · have hnone : attribute? "href".toList ('>' :: behind) = none :=
      attribute?_cons_of_ne (by decide)
    rw [List.nil_append, hnone] at h
    exact absurd h (by simp)
  · have hv' : '"' ∉ v := fun hmem ↦ l.quote_not_mem (hsuffix.subset hmem)
    have hlead' : '"' ∉ lead := hlead.quote_not_mem (by decide)
    rw [List.append_assoc, List.singleton_append] at heq
    obtain ⟨rfl, hvalue⟩ := eq_of_append_cons_eq hv' hlead' heq
    have htake : ('>' :: behind).takeWhile (· != '"') = value := by
      rw [hvalue, takeWhile_append_cons hquote]
    have hmem : '"' ∈ '>' :: behind := by simp [hvalue]
    refine ⟨⟨⟨v, hsuffix, hlead⟩, ?_⟩, ?_⟩
    · simpa using hmem
    · rw [← htake, List.takeWhile_cons_of_pos (by decide)]

theorem attribute?_of_isMisread (h : l.IsMisread behind) :
    ∃ lead, lead <:+ l.target ∧
      (attribute? "href".toList (lead ++ '"' :: '>' :: behind)).isSome = true := by
  obtain ⟨⟨lead, hlead, hbegins⟩, hmem⟩ := h
  obtain ⟨value, rest, rfl, hquote⟩ := List.eq_append_cons_of_mem hmem
  have hvalue : '"' ∉ '>' :: value := by simpa using hquote
  refine ⟨lead, hlead, ?_⟩
  rw [← List.cons_append, hbegins.attribute? (List.cons_ne_nil '>' value) hvalue]
  rfl

theorem not_isMisread_of_declines
    (h : Declines (attribute? "href".toList) (l.target ++ ['"']) ('>' :: behind)) :
    ¬ l.IsMisread behind := by
  intro hmisread
  obtain ⟨lead, hsuffix, hsome⟩ := l.attribute?_of_isMisread hmisread
  have hquoted : lead ++ ['"'] <:+ l.target ++ ['"'] := by
    obtain ⟨u, hu⟩ := hsuffix
    exact ⟨u, by rw [← List.append_assoc, hu]⟩
  have hread := declines_iff.mp h _ hquoted (by simp)
  rw [List.append_assoc, List.singleton_append] at hread
  rw [hread] at hsome
  exact absurd hsome (by simp)

theorem attribute?_opening (behind : List Char) :
    attribute? "href".toList ('h' :: ("ref=\"".toList ++ (l.target ++ ['"'] ++ '>' :: behind))) =
      some (l.target, '>' :: behind) := by
  have hbegins : BeginsAttribute "href".toList ['h', 'r', 'e', 'f', '='] :=
    ⟨['h', 'r', 'e', 'f'], [], [], rfl, rfl, by simp, by simp⟩
  have hopening : "ref=\"".toList = ['r', 'e', 'f', '=', '"'] := rfl
  rw [hopening, List.append_assoc]
  exact hbegins.attribute? l.target_ne_nil l.quote_not_mem _

theorem opening_append (behind : List Char) :
    l.opening ++ behind =
      "<a ".toList ++ 'h' :: ("ref=\"".toList ++ (l.target ++ ['"'] ++ '>' :: behind)) := by
  have hopening : l.opening =
      "<a ".toList ++ 'h' :: "ref=\"".toList ++ l.target ++ ['"', '>'] := rfl
  rw [hopening]
  simp only [List.append_assoc, List.cons_append, List.nil_append]

theorem linkTarget?_opening (behind : List Char) :
    ∃ target, linkTarget? (l.opening ++ behind) = some target ∧ l.Noted behind target := by
  have hdrop : dropWord? "<a ".toList (l.opening ++ behind) =
      some ('h' :: ("ref=\"".toList ++ (l.target ++ ['"'] ++ '>' :: behind))) := by
    rw [opening_append]
    exact dropWord?_append (by decide) _
  have hend : greedy (· != '>') (attribute? "href".toList) ('>' :: behind) = none := by
    rw [greedy, if_neg (by decide)]
    exact attribute?_cons_of_ne (by decide)
  have hlead : ∀ c ∈ "ref=\"".toList, (c != '>') = true := by decide
  have htail : ∀ c ∈ l.target ++ ['"'], (c != '>') = true :=
    bne_of_not_mem (by simpa using l.bracket_not_mem)
  rw [linkTarget?, hdrop]
  simp only [Option.bind_eq_bind, Option.bind_some]
  rw [greedy, if_pos (by decide)]
  -- The search goes on to the end of the tag, and what begins in the target comes before the link.
  rcases greedy_append_cases htail hend with
    ⟨hdeclines, hnone⟩ | ⟨v, ⟨value, rest⟩, hv, hread, hsome⟩
  · have hrest : Declines (attribute? "href".toList) "ref=\"".toList
        (l.target ++ ['"'] ++ '>' :: behind) :=
      .of_forall fun c hc u ↦ attribute?_cons_of_ne (by revert c; decide)
    rw [greedy_append_of_declines hlead hrest, hnone, l.attribute?_opening]
    exact ⟨l.target, rfl, fun h ↦ absurd h (l.not_isMisread_of_declines hdeclines), fun _ ↦ rfl⟩
  · obtain ⟨hmisread, rfl⟩ := l.eq_of_attribute? hv hread
    rw [greedy_append_of_some hlead hsome]
    exact ⟨_, rfl, fun _ ↦ rfl, fun h ↦ absurd hmisread h⟩

def inner (l : Link) (more : List (Untagged × Link)) : List Char :=
  l.text.chars ++ more.flatMap fun (s, l') ↦ closing ++ s.chars ++ l'.opening ++ l'.text.chars

end Link

theorem Link.opening_inner (l : Link) (more : List (Untagged × Link)) :
    l.opening ++ l.inner more ++ closing =
      l.markup ++ more.flatMap fun (s, l') ↦ s.chars ++ l'.markup := by
  have hsep := flatMap_append_comm closing
    (fun x : Untagged × Link ↦ x.1.chars ++ x.2.opening ++ x.2.text.chars) more
  simp only [List.append_assoc] at hsep
  simp only [inner, markup, List.append_assoc, hsep]

/-- Text and links in turn, ending with text. -/
structure Page where
  links : List (Untagged × Link)
  tail : Untagged

/-- How the target of a link is noted. -/
def note (target : List Char) : List Char :=
  " [ ".toList ++ target ++ " ] ".toList

namespace Page

/-- A page up to its last link. -/
def linked (p : Page) : List Char :=
  p.links.flatMap fun (s, l) ↦ s.chars ++ l.markup

def markup (p : Page) : List Char :=
  p.linked ++ p.tail.chars

/-- A page with each target noted behind its link. -/
def annotated (p : Page) : List Char :=
  (p.links.flatMap fun (s, l) ↦ s.chars ++ l.markup ++ note l.target) ++ p.tail.chars

end Page

theorem linkTarget?_of_ne {c : Char} (hc : c ≠ '<') (s : List Char) :
    linkTarget? (c :: s) = none := by
  rw [linkTarget?, dropWord?_of_ne_bracket (by decide) hc]
  rfl

theorem firstTarget?_append (s : Untagged) {t target : List Char}
    (h : linkTarget? t = some target) : firstTarget? (s.chars ++ t) = some target := by
  obtain ⟨s, hs⟩ := s
  induction s with
  | nil =>
    cases t with
    | nil =>
      have hnone : linkTarget? [] = none := rfl
      rw [hnone] at h
      exact absurd h (by simp)
    | cons c t => simp [firstTarget?, h]
  | cons c s ih =>
    have hc : c ≠ '<' := fun hc ↦ hs (hc ▸ List.mem_cons_self)
    have hrest := ih fun hmem ↦ hs (List.mem_cons_of_mem c hmem)
    rw [List.cons_append, firstTarget?, linkTarget?_of_ne hc, hrest]
    rfl

theorem lastLinkEnd?_of_declines {s : List Char} (h : Declines (dropWord? Link.closing) s []) :
    lastLinkEnd? s = none := by
  induction s with
  | nil => rfl
  | cons c s ih =>
    have hc := h.1
    rw [List.append_nil, Link.closing] at hc
    rw [lastLinkEnd?, ih h.2, hc]
    rfl

theorem lastLinkEnd?_untagged {s : List Char} (hs : '<' ∉ s) : lastLinkEnd? s = none :=
  lastLinkEnd?_of_declines (declines_of_bracket_not_mem rfl hs)

theorem lastLinkEnd?_append (s : List Char) (t : Untagged) :
    lastLinkEnd? (s ++ Link.closing ++ t.chars) = some (s, t.chars) := by
  induction s with
  | nil =>
    have hclosing : Link.closing ++ t.chars = '<' :: ("/a>".toList ++ t.chars) := rfl
    have hrest : lastLinkEnd? ("/a>".toList ++ t.chars) = none := by
      refine lastLinkEnd?_untagged fun hmem ↦ ?_
      rcases List.mem_append.mp hmem with hmem | hmem
      · exact absurd hmem (by decide)
      · exact t.bracket_not_mem hmem
    have hdrop : dropWord? "</a>".toList (Link.closing ++ t.chars) = some t.chars :=
      dropWord?_append (by decide) t.chars
    rw [hclosing] at hdrop
    rw [List.nil_append, hclosing, lastLinkEnd?, hrest, hdrop]
    rfl
  | cons c s ih => rw [List.cons_append, List.cons_append, lastLinkEnd?, ih]

namespace Page

variable (p : Page)

/-- The target of the first link is noted behind the last link. -/
theorem keepLinkTarget_markup {s : Untagged} {l : Link} {more : List (Untagged × Link)}
    (h : p.links = (s, l) :: more) :
    ∃ target, l.Noted (l.inner more) target ∧
      keepLinkTarget p.markup = p.linked ++ note target ++ p.tail.chars := by
  obtain ⟨target, htarget, hnoted⟩ := l.linkTarget?_opening (l.inner more)
  have hlinked : p.linked = s.chars ++ (l.opening ++ l.inner more) ++ Link.closing := by
    rw [List.append_assoc, l.opening_inner, linked, h, List.flatMap_cons, List.append_assoc]
  have hlast := lastLinkEnd?_append (s.chars ++ (l.opening ++ l.inner more)) p.tail
  rw [← hlinked] at hlast
  refine ⟨target, hnoted, ?_⟩
  rw [keepLinkTarget, markup, hlast]
  dsimp only
  rw [firstTarget?_append s htarget]
  simp only [consumed_append, note, List.append_assoc]

theorem keepLinkTarget_of_nil (h : p.links = []) : keepLinkTarget p.markup = p.tail.chars := by
  have hmarkup : p.markup = p.tail.chars := by rw [markup, linked, h]; rfl
  rw [hmarkup, keepLinkTarget, lastLinkEnd?_untagged p.tail.bracket_not_mem]

theorem annotated_perm :
    p.annotated.Perm (p.markup ++ p.links.flatMap fun x ↦ note x.2.target) := by
  have hlinks := List.flatMap_append_perm p.links (fun x ↦ x.1.chars ++ x.2.markup)
    fun x ↦ note x.2.target
  have hannotated := hlinks.symm.append_right p.tail.chars
  rw [List.append_assoc] at hannotated
  refine hannotated.trans ?_
  rw [markup, List.append_assoc]
  exact List.perm_append_comm.append_left _

theorem note_perm {target : List Char}
    (h : p.linked ++ note target ++ p.tail.chars = p.annotated) :
    (note target).Perm (p.links.flatMap fun x ↦ note x.2.target) := by
  have hannotated := p.annotated_perm
  rw [← h, markup, List.append_assoc, List.append_assoc] at hannotated
  exact (List.perm_append_left_iff p.tail.chars).mp
    (List.perm_append_comm.trans ((List.perm_append_left_iff p.linked).mp hannotated))

theorem inner_nil (l : Link) : l.inner [] = l.text.chars := by
  simp [Link.inner]

theorem note_ne_nil (target : List Char) : note target ≠ [] := by
  simp [note]

theorem bracket_mem_note {target : List Char} : '>' ∈ note target ↔ '>' ∈ target := by
  simp [note]

/-- Of the links on a page at most the first has its target noted, and the note stands behind the
last one. So each target is noted beside its link exactly if there are not two links, and the one
there may be is not misread. -/
theorem links_noted_once :
    (∀ s l more, p.links = (s, l) :: more → ∃ target, l.Noted (l.inner more) target ∧
      keepLinkTarget p.markup = p.linked ++ note target ++ p.tail.chars) ∧
    (keepLinkTarget p.markup = p.annotated ↔ p.links.length ≤ 1 ∧
      ∀ s l, p.links = [(s, l)] → ¬ l.IsMisread l.text.chars) := by
  refine ⟨fun s l more h ↦ p.keepLinkTarget_markup h, ?_⟩
  rcases hlinks : p.links with _ | ⟨⟨s, l⟩, more⟩
  · rw [p.keepLinkTarget_of_nil hlinks, annotated, hlinks]
    simp
  · obtain ⟨target, ⟨hwrong, hright⟩, hkeep⟩ := p.keepLinkTarget_markup hlinks
    constructor
    · intro heq
      have hperm := p.note_perm (hkeep.symm.trans heq)
      rw [hlinks] at hperm
      have hsound : ¬ l.IsMisread (l.inner more) := by
        intro hmisread
        have hbracket : '>' ∈ note target := bracket_mem_note.mpr (by simp [hwrong hmisread])
        obtain ⟨x, -, hx⟩ := List.mem_flatMap.mp (hperm.subset hbracket)
        exact x.2.bracket_not_mem (bracket_mem_note.mp hx)
      rw [hright hsound, List.flatMap_cons] at hperm
      have hnil : more = [] := by
        cases more with
        | nil => rfl
        | cons x more =>
          have hlength := hperm.length_eq
          have hne := List.length_pos_iff.mpr (note_ne_nil x.2.target)
          simp only [List.flatMap_cons, List.length_append] at hlength
          omega
      subst hnil
      refine ⟨by simp, ?_⟩
      rintro s' l' hsingle
      obtain ⟨rfl, rfl⟩ := Prod.mk.inj (List.singleton_inj.mp hsingle)
      rwa [inner_nil] at hsound
    · rintro ⟨hlength, hsound⟩
      obtain rfl : more = [] := by simpa using hlength
      rw [inner_nil] at hright
      rw [hkeep, hright (hsound s l rfl), linked, annotated, hlinks]
      simp

def pageWithOne : Page :=
  ⟨[(⟨"See ".toList, by decide⟩,
    ⟨"https://example.com".toList, ⟨"our site".toList, by decide⟩, by decide, by decide,
      by decide⟩)],
    ⟨".".toList, by decide⟩⟩

theorem pageWithOne_noted_once :
    pageWithOne.links.length ≤ 1 ∧ keepLinkTarget pageWithOne.markup = pageWithOne.annotated := by
  refine ⟨by decide, pageWithOne.links_noted_once.2.mpr ⟨by decide, fun s l hlinks hmisread ↦ ?_⟩⟩
  obtain ⟨-, rfl⟩ := Prod.mk.inj (List.singleton_inj.mp hlinks)
  exact absurd hmisread.2 (by decide)

/-- A page with two links, the second of which loses its target to the first. -/
def pageWithTwo : Page :=
  ⟨[(⟨[], by decide⟩, ⟨"x".toList, ⟨"1".toList, by decide⟩, by decide, by decide, by decide⟩),
    (⟨" ".toList, by decide⟩,
      ⟨"y".toList, ⟨"2".toList, by decide⟩, by decide, by decide, by decide⟩)],
    ⟨[], by decide⟩⟩

theorem pageWithTwo_loses_target :
    keepLinkTarget pageWithTwo.markup = pageWithTwo.linked ++ note "x".toList ∧
      keepLinkTarget pageWithTwo.markup ≠ pageWithTwo.annotated := by
  decide +kernel

end Page

end MimeMail.Html
