import MimeMail.Text.Replace

namespace MimeMail.Text

/-- At no place of `s` does `k` accept what is left of `s` with `t` behind it. -/
def Declines {α : List Char → Type} (k : (s : List Char) → Option (α s)) :
    List Char → List Char → Prop
  | [], _ => True
  | c :: s, t => k (c :: (s ++ t)) = none ∧ Declines k s t

variable {α : List Char → Type} {k : (s : List Char) → Option (α s)} {s s' t : List Char}

theorem declines_append :
    Declines k (s ++ s') t ↔ Declines k s (s' ++ t) ∧ Declines k s' t := by
  induction s with
  | nil => simp [Declines]
  | cons c s ih =>
    rw [List.cons_append, Declines, Declines, ih, List.append_assoc, and_assoc]

theorem Declines.of_forall (h : ∀ c ∈ s, ∀ u, k (c :: u) = none) : Declines k s t := by
  induction s with
  | nil => trivial
  | cons c s ih =>
    obtain ⟨hc, hs⟩ := List.forall_mem_cons.mp h
    exact ⟨hc _, ih hs⟩

theorem declines_iff :
    Declines k s t ↔ ∀ v, v <:+ s → v ≠ [] → k (v ++ t) = none := by
  induction s with
  | nil => simp [Declines]
  | cons c s ih =>
    rw [Declines, ih]
    constructor
    · rintro ⟨hc, hs⟩ v hv hne
      rcases List.suffix_cons_iff.mp hv with rfl | hv
      · exact hc
      · exact hs v hv hne
    · intro h
      exact ⟨h _ List.suffix_rfl (List.cons_ne_nil c s),
        fun v hv ↦ h v (hv.trans (List.suffix_cons c s))⟩

theorem declines_iff_forall_infix {W : List Char → Prop} (hW : ¬ W [])
    (hk : ∀ s, k s = none ↔ ∀ w, W w → ¬ w <+: s) :
    Declines k s [] ↔ ∀ w, W w → ¬ w <:+: s := by
  rw [declines_iff]
  constructor
  · intro hdeclines w hw hinfix
    obtain ⟨v, hwv, hvs⟩ := List.infix_iff_prefix_suffix.mp hinfix
    have hne : v ≠ [] := by
      rintro rfl
      exact hW (List.prefix_nil.mp hwv ▸ hw)
    have hnone := hdeclines v hvs hne
    rw [List.append_nil, hk] at hnone
    exact hnone w hw hwv
  · intro habsent v hvs _
    rw [List.append_nil, hk]
    exact fun w hw hwv ↦ habsent w hw (hwv.isInfix.trans hvs.isInfix)

theorem Rule.apply_append_of_declines {r : Rule} (h : Declines r s t) :
    r.apply (s ++ t) = s ++ r.apply t := by
  induction s with
  | nil => rfl
  | cons c s ih => rw [List.cons_append, r.apply_of_none h.1, ih h.2, List.cons_append]

theorem Rule.apply_of_declines {r : Rule} (h : Declines r s []) : r.apply s = s := by
  have happly := r.apply_append_of_declines h
  rwa [List.append_nil, apply_nil, List.append_nil] at happly

/-- A rule that drops what it matches leaves no match, if none comes about where it has found none
and what follows is rewritten. -/
theorem Rule.declines_apply {r : Rule} (htext : ∀ s m, r s = some m → m.text = [])
    (hkeep : ∀ c s, r (c :: s) = none → r (c :: r.apply s) = none) (s : List Char) :
    Declines r (r.apply s) [] := by
  fun_induction Rule.apply r s with
  | case1 => trivial
  | case2 c s m hm ih => rwa [htext _ m hm, List.nil_append]
  | case3 c s hnone ih =>
    refine ⟨?_, ih⟩
    rw [List.append_nil]
    exact hkeep c s hnone

/-- A word is found at the head of a rewritten text only where it has stood there before, if all
that is written begins with a character that the word does not have. -/
theorem Rule.isPrefix_of_apply {r : Rule} {w : List Char}
    (h : ∀ s m, r s = some m → ∃ c ∈ m.text.head?, c ∉ w) (hw : w <+: r.apply s) : w <+: s := by
  induction w generalizing s with
  | nil => exact List.nil_prefix
  | cons d w ih =>
    cases s with
    | nil => simp at hw
    | cons c s =>
      cases hr : r (c :: s) with
      | some m =>
        obtain ⟨e, he, hmem⟩ := h _ m hr
        obtain ⟨u, hu⟩ := List.head?_eq_some_iff.mp he
        rw [r.apply_of_some hr, hu, List.cons_append, List.cons_prefix_cons] at hw
        exact absurd (hw.1 ▸ List.mem_cons_self) hmem
      | none =>
        rw [r.apply_of_none hr, List.cons_prefix_cons] at hw
        have hrest : ∀ s m, r s = some m → ∃ c ∈ m.text.head?, c ∉ w := fun s m hm ↦
          (h s m hm).imp fun _ hc ↦ ⟨hc.1, List.not_mem_of_not_mem_cons hc.2⟩
        exact List.cons_prefix_cons.mpr ⟨hw.1, ih hrest hw.2⟩

theorem consumed_append (s t : List Char) : consumed (s ++ t) t = s := by
  rw [consumed, List.length_append, Nat.add_sub_cancel, List.take_left]

theorem Match.text_of? {text rest : List Char} {m : Match s} (h : Match.of? s text rest = some m) :
    m.text = text := by
  rw [of?] at h
  split at h
  · exact (Option.some.inj h) ▸ rfl
  · cases h

theorem Rule.apply_of_of? {r : Rule} {text rest : List Char}
    (h : r s = Match.of? s text rest) (hlt : rest.length < s.length) :
    r.apply s = text ++ r.apply rest := by
  cases s with
  | nil => exact absurd hlt (by simp)
  | cons c s =>
    rw [Match.of?, dif_pos hlt] at h
    exact r.apply_of_some h

theorem Rule.apply_flatMap {β : Type} {r : Rule} {f g : β → List Char}
    (h : ∀ x t, r.apply (f x ++ t) = g x ++ r.apply t) (xs : List β) :
    r.apply (xs.flatMap f) = xs.flatMap g := by
  induction xs with
  | nil => exact r.apply_nil
  | cons x xs ih => rw [List.flatMap_cons, List.flatMap_cons, h, ih]

section Greedy

variable {β : Type} {p : Char → Bool} {k : List Char → Option β}

theorem greedy_append_of_declines (hp : ∀ c ∈ s, p c = true) (h : Declines k s t) :
    greedy p k (s ++ t) = greedy p k t := by
  induction s with
  | nil => rfl
  | cons c s ih =>
    obtain ⟨hc, hs⟩ := List.forall_mem_cons.mp hp
    rw [List.cons_append, greedy, if_pos hc, ih hs h.2, h.1]
    cases greedy p k t <;> rfl

theorem greedy_cons_of_declines {c : Char} {x : β} (hp : ∀ d ∈ c :: s, p d = true)
    (h : Declines k s []) (hnil : k [] = none) (hc : k (c :: s) = some x) :
    greedy p k (c :: s) = some x := by
  obtain ⟨hhead, hs⟩ := List.forall_mem_cons.mp hp
  have hrest := greedy_append_of_declines hs h
  rw [List.append_nil, greedy, hnil] at hrest
  rw [greedy, if_pos hhead, hrest, hc]
  rfl

theorem greedy_append_of_some (hp : ∀ c ∈ s, p c = true) {x : β} (h : greedy p k t = some x) :
    greedy p k (s ++ t) = some x := by
  induction s with
  | nil => exact h
  | cons c s ih =>
    obtain ⟨hc, hs⟩ := List.forall_mem_cons.mp hp
    rw [List.cons_append, greedy, if_pos hc, ih hs]
    rfl

theorem greedy_append_cases (hp : ∀ c ∈ s, p c = true) (ht : greedy p k t = none) :
    (Declines k s t ∧ greedy p k (s ++ t) = none) ∨
      ∃ v x, v <:+ s ∧ k (v ++ t) = some x ∧ greedy p k (s ++ t) = some x := by
  induction s with
  | nil => exact .inl ⟨trivial, ht⟩
  | cons c s ih =>
    obtain ⟨hc, hs⟩ := List.forall_mem_cons.mp hp
    rw [List.cons_append, greedy, if_pos hc]
    rcases ih hs with ⟨hdeclines, hnone⟩ | ⟨v, x, hv, hk, hsome⟩
    · rw [hnone]
      cases hhead : k (c :: (s ++ t)) with
      | none => exact .inl ⟨⟨hhead, hdeclines⟩, rfl⟩
      | some x => exact .inr ⟨c :: s, x, List.suffix_rfl, hhead, rfl⟩
    · rw [hsome]
      exact .inr ⟨v, x, hv.trans (List.suffix_cons c s), hk, rfl⟩

end Greedy

end MimeMail.Text
