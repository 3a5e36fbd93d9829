import Mathlib.Data.List.Induction
import MimeMail.Address.Basic
import MimeMail.Proofs.Address.Header

namespace MimeMail

namespace AddrSpec

def Dotted (d : List Char) : Prop :=
  ∃ before c after, d = before ++ c :: '.' :: after ∧ c ≠ '.'

/-- The grammar of addr-specs, with what stands behind the only `@`. -/
structure Grammar (addr domain : List Char) : Prop where
  graphic : ∀ c ∈ addr, '!' ≤ c ∧ c ≤ '~'
  once : addr.count '@' = 1
  behind : ∃ before, addr = before ++ '@' :: domain
  unbracketed : ∀ c ∈ domain, c ≠ '[' ∧ c ≠ ']' ∧ c ≠ '\\'
  ending : domain.getLast? ≠ some '.'
  dotted : Dotted domain

def IsDomainChar (c : Char) : Prop :=
  isGraphic c = true ∧ c ≠ '@' ∧ isBracket c = false

/-- The flags of a scan behind the `@`, which has read some of the domain. -/
structure Scan.Sees (s : Scan) (read : List Char) : Prop where
  inDomain : s.inDomain = true
  label : s.label = true ↔ ∃ c ∈ read, c ≠ '.'
  dot : s.dot = true ↔ Dotted read
  top : s.top = true ↔ Dotted read ∧ read.getLast? ≠ some '.'

section

variable {c : Char} {d e : List Char}

theorem Dotted.append (h : Dotted d) (e : List Char) : Dotted (d ++ e) := by
  obtain ⟨before, c, after, rfl, hc⟩ := h
  exact ⟨before, c, after ++ e, by simp, hc⟩

theorem Dotted.exists_label (h : Dotted d) : ∃ c ∈ d, c ≠ '.' := by
  obtain ⟨before, c, after, rfl, hc⟩ := h
  exact ⟨c, by simp, hc⟩

theorem dotted_append_dot : Dotted (d ++ ['.']) ↔ ∃ c ∈ d, c ≠ '.' := by
  constructor
  · intro h
    obtain ⟨c, hmem, hc⟩ := h.exists_label
    rcases List.mem_append.mp hmem with hd | hdot
    · exact ⟨c, hd, hc⟩
    · exact absurd (List.mem_singleton.mp hdot) hc
  · rintro ⟨c, hmem, hc⟩
    -- Dots may stand between the last label and the end.
    induction d using List.reverseRecOn with
    | nil => cases hmem
    | append_singleton d b ih =>
      by_cases hb : b = '.'
      · subst hb
        have hd : c ∈ d := (List.mem_append.mp hmem).resolve_right fun h ↦
          hc (List.mem_singleton.mp h)
        exact (ih hd).append ['.']
      · exact ⟨d, b, [], by simp, hb⟩

theorem dotted_append_label (hc : c ≠ '.') : Dotted (d ++ [c]) ↔ Dotted d := by
  refine ⟨?_, fun h ↦ h.append [c]⟩
  rintro ⟨before, b, after, hd, hb⟩
  obtain rfl | ⟨after, a, rfl⟩ := List.eq_nil_or_concat after
  · have hsplit : d ++ [c] = (before ++ [b]) ++ ['.'] := by simpa using hd
    obtain ⟨-, hlast⟩ := List.append_inj' hsplit rfl
    exact absurd (List.singleton_inj.mp hlast) hc
  · have hsplit : d ++ [c] = (before ++ b :: '.' :: after) ++ [a] := by simpa using hd
    exact ⟨before, b, after, (List.append_inj' hsplit rfl).1, hb⟩

end

namespace Scan

variable {s t : Scan} {c : Char} {d e : List Char}

theorem step_of_isDomainChar (hs : s.inDomain = true) (hc : IsDomainChar c) :
    s.step c = some (if c = '.' then { s with dot := s.dot || s.label, top := false }
      else { s with label := true, top := s.dot }) := by
  obtain ⟨hgraphic, hat, hbracket⟩ := hc
  by_cases hdot : c = '.'
  · simp [step, hs, hdot]
    decide
  · simp [step, hs, hgraphic, hat, hbracket, hdot]

theorem isDomainChar_of_step (hs : s.inDomain = true) (h : s.step c = some t) : IsDomainChar c := by
  refine ⟨isGraphic_of_step h, ?_, ?_⟩
  · rintro rfl
    simp [step, hs] at h
  · by_contra hbracket
    rw [Bool.not_eq_false] at hbracket
    have hdot : c ≠ '.' := by
      rintro rfl
      cases hbracket
    have hat : c ≠ '@' := by
      rintro rfl
      cases hbracket
    simp [step, hs, hat, hdot, hbracket] at h

theorem Sees.step (h : s.Sees d) (hc : IsDomainChar c) :
    ∃ t, s.step c = some t ∧ t.Sees (d ++ [c]) := by
  refine ⟨_, step_of_isDomainChar h.inDomain hc, ?_⟩
  by_cases hdot : c = '.'
  · subst hdot
    rw [if_pos rfl]
    have hlabel : (∃ c ∈ d ++ ['.'], c ≠ '.') ↔ ∃ c ∈ d, c ≠ '.' := by simp
    have hdotted : (s.dot || s.label) = true ↔ Dotted (d ++ ['.']) := by
      rw [dotted_append_dot, Bool.or_eq_true, h.dot, h.label]
      exact or_iff_right_of_imp Dotted.exists_label
    exact ⟨h.inDomain, h.label.trans hlabel.symm, hdotted, by simp⟩
  · rw [if_neg hdot]
    have hlabel : ∃ b ∈ d ++ [c], b ≠ '.' := ⟨c, by simp, hdot⟩
    have hdotted : s.dot = true ↔ Dotted (d ++ [c]) := h.dot.trans (dotted_append_label hdot).symm
    have hend : (d ++ [c]).getLast? ≠ some '.' := by simpa using hdot
    exact ⟨h.inDomain, iff_of_true rfl hlabel, hdotted, hdotted.trans (and_iff_left hend).symm⟩

theorem Sees.run (h : s.Sees d) (he : ∀ c ∈ e, IsDomainChar c) :
    ∃ t, e.foldlM Scan.step s = some t ∧ t.Sees (d ++ e) := by
  induction e generalizing s d with
  | nil => exact ⟨s, rfl, by rwa [List.append_nil]⟩
  | cons c e ih =>
    obtain ⟨hc, he⟩ := List.forall_mem_cons.mp he
    obtain ⟨u, hu, hsees⟩ := h.step hc
    obtain ⟨t, ht, hsees⟩ := ih hsees he
    refine ⟨t, ?_, by simpa using hsees⟩
    rw [List.foldlM_cons, hu]
    exact ht

theorem isDomainChar_of_run (hs : s.inDomain = true) (h : e.foldlM Scan.step s = some t) :
    ∀ c ∈ e, IsDomainChar c := by
  induction e generalizing s with
  | nil => simp
  | cons c e ih =>
    rw [List.foldlM_cons] at h
    obtain ⟨u, hu, h⟩ := Option.bind_eq_some_iff.mp h
    have hc := isDomainChar_of_step hs hu
    have hin : u.inDomain = true := by
      rw [step_of_isDomainChar hs hc] at hu
      obtain rfl := Option.some.inj hu
      split <;> exact hs
    exact List.forall_mem_cons.mpr ⟨hc, ih hin h⟩

theorem run_local (hd : ∀ c ∈ d, isGraphic c = true) (hat : '@' ∉ d) :
    d.foldlM Scan.step {} = some {} := by
  induction d with
  | nil => rfl
  | cons c d ih =>
    obtain ⟨hc, hd⟩ := List.forall_mem_cons.mp hd
    obtain ⟨hne, hat⟩ := not_or.mp (mt List.mem_cons.mpr hat)
    have hstep : ({} : Scan).step c = some {} := by
      simp [step, hc, Ne.symm hne]
    rw [List.foldlM_cons, hstep]
    exact ih hd hat

theorem sees_start : ({ inDomain := true } : Scan).Sees [] := by
  have hnot : ¬ Dotted [] := fun h ↦ by simpa using h.exists_label
  exact ⟨rfl, by simp, by simp [hnot], by simp [hnot]⟩

end Scan

section

variable {addr domain before : List Char}

theorem run_append (hbefore : ∀ c ∈ before, isGraphic c = true) (hat : '@' ∉ before) :
    (before ++ '@' :: domain).foldlM Scan.step {} =
      domain.foldlM Scan.step { inDomain := true } := by
  rw [List.foldlM_append, Scan.run_local hbefore hat]
  rfl

theorem isGraphic_iff {c : Char} : isGraphic c = true ↔ '!' ≤ c ∧ c ≤ '~' := by
  simp [isGraphic]

theorem isBracket_eq_false {c : Char} :
    isBracket c = false ↔ c ≠ '[' ∧ c ≠ ']' ∧ c ≠ '\\' := by
  simp [isBracket, and_assoc]

theorem grammar_of_isValid (h : isValid addr = true) : ∃ domain, Grammar addr domain := by
  have hgraphic := isGraphic_of_isValid h
  rw [isValid] at h
  obtain ⟨t, hrun, htop⟩ := (Option.any_eq_true _ _).mp h
  by_cases hat : '@' ∈ addr
  · obtain ⟨before, domain, rfl, hbefore⟩ := List.eq_append_cons_of_mem hat
    have hlocal : ∀ c ∈ before, isGraphic c = true := fun c hc ↦ hgraphic c (by simp [hc])
    rw [run_append hlocal hbefore] at hrun
    have hdomain := Scan.isDomainChar_of_run rfl hrun
    obtain ⟨t', hrun', hsees⟩ := Scan.sees_start.run hdomain
    obtain rfl : t' = t := Option.some.inj (hrun'.symm.trans hrun)
    obtain ⟨hdotted, hend⟩ := hsees.top.mp htop
    refine ⟨domain, fun c hc ↦ isGraphic_iff.mp (hgraphic c hc), ?_, ⟨before, rfl⟩,
      fun c hc ↦ isBracket_eq_false.mp (hdomain c hc).2.2, hend, hdotted⟩
    have hnone : '@' ∉ domain := fun hmem ↦ (hdomain _ hmem).2.1 rfl
    simp [List.count_eq_zero_of_not_mem, hbefore, hnone]
  · rw [Scan.run_local hgraphic hat] at hrun
    obtain rfl := Option.some.inj hrun
    cases htop

theorem Grammar.not_mem (h : Grammar addr domain) (haddr : addr = before ++ '@' :: domain) :
    '@' ∉ before ∧ '@' ∉ domain := by
  have honce := h.once
  rw [haddr, List.count_append, List.count_cons_self] at honce
  exact ⟨List.count_eq_zero.mp (by omega), List.count_eq_zero.mp (by omega)⟩

theorem Grammar.isValid (h : Grammar addr domain) : isValid addr = true := by
  obtain ⟨before, rfl⟩ := h.behind
  obtain ⟨hbefore, hdomain⟩ := h.not_mem rfl
  have hlocal : ∀ c ∈ before, isGraphic c = true := fun c hc ↦
    isGraphic_iff.mpr (h.graphic c (by simp [hc]))
  have hchars : ∀ c ∈ domain, IsDomainChar c := by
    intro c hc
    refine ⟨isGraphic_iff.mpr (h.graphic c (by simp [hc])), ?_,
      isBracket_eq_false.mpr (h.unbracketed c hc)⟩
    rintro rfl
    exact hdomain hc
  obtain ⟨t, hrun, hsees⟩ := Scan.sees_start.run hchars
  rw [AddrSpec.isValid, run_append hlocal hbefore, hrun]
  exact hsees.top.mpr ⟨h.dotted, h.ending⟩

end

end AddrSpec

namespace Address

open AddrSpec

variable {a : Address} {domain : List Char}

theorem domain_of_grammar (h : Grammar a.addr.toList domain) : a.domain.toList = domain := by
  obtain ⟨before, haddr⟩ := h.behind
  rw [Address.domain, haddr, splitLast_append before (h.not_mem haddr).2, String.toList_ofList]

theorem grammar (a : Address) : Grammar a.addr.toList a.domain.toList := by
  obtain ⟨domain, h⟩ := grammar_of_isValid a.valid
  rwa [domain_of_grammar h]

theorem ofParts_of_grammar {addr : String} (h : Grammar addr.toList domain) (name : String) :
    ofParts name addr = .ok ⟨name, addr, h.isValid⟩ := by
  rw [ofParts, dif_pos h.isValid]

theorem ofParts_eq_error {name addr : String} {e : AddressError} :
    ofParts name addr = .error e ↔
      e = .invalidAddress addr ∧ ¬ ∃ domain, Grammar addr.toList domain := by
  by_cases h : ∃ domain, Grammar addr.toList domain
  · obtain ⟨domain, hdomain⟩ := h
    rw [ofParts_of_grammar hdomain]
    simp only [reduceCtorEq, false_iff, not_and, not_not]
    exact fun _ ↦ ⟨domain, hdomain⟩
  · rw [ofParts, dif_neg (mt grammar_of_isValid h), Except.error.injEq, eq_comm]
    exact (and_iff_left h).symm

/-- The check of an addr-spec accepts exactly the grammar. A name and an addr-spec make an address
exactly if the grammar has the addr-spec, which is what is reported otherwise. However an address
was made, the grammar has its addr-spec with its domain and no other, and that is not empty. -/
theorem accepts_grammar :
    (∀ addr, AddrSpec.isValid addr = true ↔ ∃ domain, Grammar addr domain) ∧
    (∀ name addr domain, Grammar addr.toList domain →
      ∃ a, ofParts name addr = .ok a ∧ a.name = name ∧ a.addr = addr) ∧
    (∀ name addr e, ofParts name addr = .error e ↔
      e = .invalidAddress addr ∧ ¬ ∃ domain, Grammar addr.toList domain) ∧
    ∀ a : Address, a.domain ≠ "" ∧
      ∀ domain, Grammar a.addr.toList domain ↔ domain = a.domain.toList := by
  refine ⟨fun addr ↦ ⟨grammar_of_isValid, ?_⟩, ?_, fun _ _ _ ↦ ofParts_eq_error, ?_⟩
  · rintro ⟨domain, h⟩
    exact h.isValid
  · intro name addr domain h
    exact ⟨_, ofParts_of_grammar h name, rfl, rfl⟩
  · intro a
    have hgrammar := a.grammar
    obtain ⟨c, hc, -⟩ := hgrammar.dotted.exists_label
    refine ⟨?_, fun domain ↦ ⟨fun h ↦ (domain_of_grammar h).symm, ?_⟩⟩
    · intro hempty
      rw [hempty] at hc
      cases hc
    · rintro rfl
      exact hgrammar

theorem host_accepts_grammar :
    (∃ a, parse " Ann <ann@mail.example.com> " = .ok a ∧
      Grammar a.addr.toList "mail.example.com".toList ∧
      ∃ b, ofParts "Ann" "ann@mail.example.com" = .ok b ∧ b.addr = a.addr) ∧
    bare "ann@.com" = .error (.invalidAddress "ann@.com") := by
  obtain ⟨hvalid, hparts, herror, hdomain⟩ := accepts_grammar
  have hparse : parse " Ann <ann@mail.example.com> " =
      .ok ⟨"Ann", "ann@mail.example.com", by decide +kernel⟩ := by decide +kernel
  have hgrammar : Grammar "ann@mail.example.com".toList "mail.example.com".toList :=
    ((hdomain ⟨"Ann", "ann@mail.example.com", by decide +kernel⟩).2 _).mpr (by decide +kernel)
  have hnone : ¬ ∃ domain, Grammar "ann@.com".toList domain := by
    rw [← hvalid]
    decide +kernel
  obtain ⟨b, hb, -, haddr⟩ := hparts "Ann" "ann@mail.example.com" _ hgrammar
  exact ⟨⟨_, hparse, hgrammar, b, hb, haddr⟩, (herror "" _ _).mpr ⟨rfl, hnone⟩⟩

end Address

end MimeMail
