import MimeMail.Encoding.QuotedPrintable
import MimeMail.Proofs.Encoding.Unit
import MimeMail.Text.Basic

namespace MimeMail.Encoding.QuotedPrintable

open Text

inductive Quoted : List Char → Prop
  | nil : Quoted []
  | final : Quoted ['=']
  | char {c : Char} {s : List Char} : Plain c → c ≠ '=' → Quoted s → Quoted (c :: s)
  | escape {a b : Char} {s : List Char} :
      UpperHex a → UpperHex b → Quoted s → Quoted ('=' :: a :: b :: s)
  | softBreak {s : List Char} : Quoted s → Quoted ('=' :: '\r' :: '\n' :: s)

theorem quoted_append {u s : List Char} (hu : Escaped Place.body.IsLiteral u) (hs : Quoted s) :
    Quoted (u ++ s) := by
  induction hu with
  | nil => exact hs
  | char hc hne _ ih => exact .char hc.1 hne ih
  | escape ha hb _ ih => exact .escape ha hb ih

theorem quoted_lines {us : List (List Char)} (hus : ∀ u ∈ us, Escaped Place.body.IsLiteral u)
    {t : List Char} (ht : Quoted t) (column : Nat) : Quoted (lines column us ++ t) := by
  induction us generalizing column with
  | nil => exact ht
  | cons u us ih =>
    have hu := hus u List.mem_cons_self
    have hrest := ih fun v hv ↦ hus v (List.mem_cons_of_mem u hv)
    rw [lines]
    split
    · rw [List.append_assoc]
      exact quoted_append hu (hrest _)
    · rw [List.append_assoc, List.append_assoc]
      change Quoted ('=' :: '\r' :: '\n' :: (u ++ (lines u.length us ++ t)))
      exact .softBreak (quoted_append hu (hrest _))

theorem escaped_of_mem_encode {p : Place} {s : Bytes} {u : List Char} (h : u ∈ p.encode s) :
    Escaped p.IsLiteral u := by
  obtain ⟨v, rfl, -⟩ := Place.mem_encode h
  exact p.escaped_unit v

theorem quoted_encode (s : Bytes) : Quoted (encode s) := by
  have hunits : ∀ u ∈ Place.body.encode s, Escaped Place.body.IsLiteral u :=
    fun u hu ↦ escaped_of_mem_encode hu
  rw [encode]
  split
  · exact quoted_lines hunits .final 0
  · exact quoted_lines hunits .nil 0

theorem Quoted.broken {s : List Char} (h : Quoted s) : Broken Plain s := by
  have heq : Plain '=' := by decide
  induction h with
  | nil => exact .nil
  | final => exact .char heq .nil
  | char hc _ _ ih => exact .char hc ih
  | escape ha hb _ ih => exact .char heq (.char (.inr ha.printable) (.char (.inr hb.printable) ih))
  | softBreak _ ih => exact .char heq (.lineBreak ih)

theorem Quoted.of_mem_lines {s : List Char} (h : Quoted s) : ∀ l ∈ Text.lines s, Quoted l := by
  induction h with
  | nil => simpa [Text.lines] using Quoted.nil
  | final => simpa [Text.lines] using Quoted.final
  | @char c s hc hne _ ih =>
    rw [lines_cons hc.inLine.1]
    exact forall_mem_modifyHead ih fun l hl ↦ .char hc hne hl
  | @escape a b s ha hb _ ih =>
    have hcr : a ≠ '\r' ∧ b ≠ '\r' := ⟨ha.printable.inLine.1, hb.printable.inLine.1⟩
    rw [lines_cons (by decide), lines_cons hcr.1, lines_cons hcr.2, List.modifyHead_modifyHead,
      List.modifyHead_modifyHead]
    exact forall_mem_modifyHead ih fun l hl ↦ .escape ha hb hl
  | @softBreak s _ ih =>
    rw [lines_cons (by decide), Text.lines]
    intro l hl
    rcases List.mem_cons.mp hl with rfl | hl
    · exact .final
    · exact ih l hl

theorem not_quoted_delimiter (s : List Char) : ¬ Quoted ('-' :: '-' :: '=' :: '_' :: s) := by
  intro h
  cases h with
  | char _ _ h =>
    cases h with
    | char _ _ h =>
      cases h with
      | char _ hne _ => exact hne rfl
      | escape ha _ _ => exact absurd ha (by decide)

def trimLines (s : List Char) : List Char :=
  unlines ((Text.lines s).map (dropTail fun c ↦ decide (IsBlank c)))

/-- Removes soft breaks, and the `=` at the end of the text. -/
def joinLines : List Char → List Char
  | ['='] => []
  | '=' :: '\r' :: '\n' :: s => joinLines s
  | c :: s => c :: joinLines s
  | [] => []

def decode (s : List Char) : Option Bytes :=
  Place.body.unescape (joinLines (trimLines s))

theorem joinLines_cons {c : Char} (hc : c ≠ '=') (s : List Char) :
    joinLines (c :: s) = c :: joinLines s := by
  rw [joinLines]
  · rintro rfl
    exact absurd rfl hc
  · rintro s' rfl
    exact absurd rfl hc

theorem joinLines_escape {a b : Char} (ha : UpperHex a) (hb : UpperHex b) (s : List Char) :
    joinLines ('=' :: a :: b :: s) = '=' :: a :: b :: joinLines s := by
  have hne : a ≠ '=' ∧ b ≠ '=' := by
    constructor
    · rintro rfl
      exact absurd ha (by decide)
    · rintro rfl
      exact absurd hb (by decide)
  rw [joinLines, joinLines_cons hne.1, joinLines_cons hne.2]
  · simp
  · rintro s' - h
    exact absurd (List.cons.inj h).1 ha.printable.inLine.1

theorem joinLines_append {q : Char → Prop} {u : List Char} (hu : Escaped q u) (s : List Char) :
    joinLines (u ++ s) = u ++ joinLines s := by
  induction hu with
  | nil => rfl
  | char _ hne _ ih => rw [List.cons_append, joinLines_cons hne, ih, List.cons_append]
  | escape ha hb _ ih =>
    rw [List.cons_append, List.cons_append, List.cons_append, joinLines_escape ha hb, ih]
    rfl

theorem joinLines_softBreak (s : List Char) : joinLines (softBreak ++ s) = joinLines s := rfl

theorem joinLines_lines {us : List (List Char)}
    (hus : ∀ u ∈ us, Escaped Place.body.IsLiteral u) (column : Nat) (t : List Char) :
    joinLines (lines column us ++ t) = us.flatten ++ joinLines t := by
  induction us generalizing column with
  | nil => rfl
  | cons u us ih =>
    have hu := hus u List.mem_cons_self
    have hrest := ih fun v hv ↦ hus v (List.mem_cons_of_mem u hv)
    rw [lines, List.flatten_cons]
    split
    · rw [List.append_assoc, joinLines_append hu, hrest, List.append_assoc]
    · rw [List.append_assoc, List.append_assoc, List.append_assoc, joinLines_softBreak,
        joinLines_append hu, hrest]

theorem dropTail_eq_self {p : Char → Bool} {s : List Char} (h : ∀ c ∈ s.getLast?, p c = false) :
    dropTail p s = s := by
  rcases List.eq_nil_or_concat s with rfl | ⟨s, c, rfl⟩
  · rfl
  · have hc : p c = false := h c (by simp)
    simp [dropTail, hc]

theorem trimLines_eq {s : List Char}
    (h : ∀ l ∈ Text.lines s, ∀ c ∈ l.getLast?, ¬ IsBlank c) : trimLines s = s := by
  have hid : (Text.lines s).map (dropTail fun c ↦ decide (IsBlank c)) = Text.lines s := by
    refine (List.map_congr_left fun l hl ↦ ?_).trans (List.map_id _)
    exact dropTail_eq_self fun c hc ↦ decide_eq_false (h l hl c hc)
  rw [trimLines, hid, unlines_lines]

theorem getLast_lines_cons {c : Char} {s : List Char} (hc : InLine c) (hs : s.head? ≠ some '\r')
    (hend : s = [] → ¬ IsBlank c)
    (h : ∀ l ∈ Text.lines s, ∀ d ∈ l.getLast?, ¬ IsBlank d) :
    ∀ l ∈ Text.lines (c :: s), ∀ d ∈ l.getLast?, ¬ IsBlank d := by
  rw [lines_cons hc.1]
  cases s with
  | nil => simpa [Text.lines] using hend rfl
  | cons e s =>
    have he : e ≠ '\r' := fun he ↦ hs (by rw [he]; rfl)
    rw [lines_cons he] at h ⊢
    cases hl : Text.lines s with
    | nil => exact absurd hl (lines_ne_nil s)
    | cons l ls =>
      rw [hl] at h
      simpa using h

theorem Quoted.head_ne {s : List Char} (h : Quoted s) : s.head? ≠ some '\r' := by
  cases h with
  | nil => simp
  | char hc _ _ => simpa using hc.inLine.1
  | final | escape _ _ _ | softBreak _ => simp

theorem Quoted.getLast_lines {s : List Char} (h : Quoted s)
    (hend : ∀ c ∈ s.getLast?, ¬ IsBlank c) :
    ∀ l ∈ Text.lines s, ∀ c ∈ l.getLast?, ¬ IsBlank c := by
  have hblank (c : Char) (hc : UpperHex c) : ¬ IsBlank c := by
    rintro (rfl | rfl) <;> exact absurd hc (by decide)
  have htail {c : Char} {s : List Char} (h : ∀ d ∈ (c :: s).getLast?, ¬ IsBlank d) :
      (s = [] → ¬ IsBlank c) ∧ ∀ d ∈ s.getLast?, ¬ IsBlank d := by
    cases s with
    | nil => simpa using h
    | cons e s => exact ⟨by simp, by simpa using h⟩
  induction h with
  | nil => simp [Text.lines]
  | final => simp [Text.lines, IsBlank]
  | char hc _ hs ih =>
    obtain ⟨hnil, hlast⟩ := htail hend
    exact getLast_lines_cons hc.inLine hs.head_ne hnil (ih hlast)
  | @escape a b s ha hb hs ih =>
    have hlast := (htail (htail (htail hend).2).2).2
    refine getLast_lines_cons (by decide) ?_ (by simp) ?_
    · simpa using ha.printable.inLine.1
    refine getLast_lines_cons ha.printable.inLine ?_ (by simp) ?_
    · simpa using hb.printable.inLine.1
    exact getLast_lines_cons hb.printable.inLine hs.head_ne (fun _ ↦ hblank b hb) (ih hlast)
  | @softBreak s _ ih =>
    have hlast := (htail (htail (htail hend).2).2).2
    rw [lines_cons (by decide), Text.lines]
    intro l hl
    rcases List.mem_cons.mp hl with rfl | hl
    · simp [IsBlank]
    · exact ih hlast l hl

theorem getLast?_lines {us : List (List Char)} (hus : ∀ u ∈ us, u ≠ []) (column : Nat) :
    (lines column us).getLast? = us.flatten.getLast? := by
  induction us generalizing column with
  | nil => rfl
  | cons u us ih =>
    have hrest := ih fun v hv ↦ hus v (List.mem_cons_of_mem u hv)
    have hu : u.getLast?.isSome := by simpa using hus u List.mem_cons_self
    rw [lines, List.flatten_cons]
    split
    · rw [List.getLast?_append, List.getLast?_append, hrest]
    · rw [List.getLast?_append, List.getLast?_append, List.getLast?_append, hrest,
        Option.or_of_isSome hu]

theorem getLast?_flatMap_byte {s : Bytes} (h : endsInBlank s = false) :
    ∀ c ∈ (s.flatMap Place.body.byte).getLast?, ¬ IsBlank c := by
  have hbyte : ∀ b : UInt8, (b == 9 || b == 32) = false →
      (Place.body.byte b).getLast?.all fun c ↦ decide (¬ IsBlank c) := by
    apply forall_byte
    decide +kernel
  rcases List.eq_nil_or_concat s with rfl | ⟨s, b, rfl⟩
  · simp
  · have hb := hbyte b (by simpa [endsInBlank] using h)
    have hsome : (Place.body.byte b).getLast?.isSome := by
      simpa [Place.unit] using Place.body.unit_ne_nil (List.cons_ne_nil b [])
    obtain ⟨c, hc⟩ := Option.isSome_iff_exists.mp hsome
    rw [hc] at hb
    intro d hd
    have hdc : d = c := by
      rw [List.concat_eq_append, List.flatMap_append, List.getLast?_append, List.flatMap_singleton,
        hc] at hd
      simpa using hd.symm
    simpa [hdc] using hb

theorem flatten_encode (p : Place) (s : Bytes) : (p.encode s).flatten = s.flatMap p.byte := by
  rw [Place.encode, Place.flatten_map_unit, flatten_units, Place.unit]

theorem getLast?_encode (s : Bytes) : ∀ c ∈ (encode s).getLast?, ¬ IsBlank c := by
  rw [encode]
  split
  · simp [IsBlank]
  · rename_i h
    rw [List.append_nil, getLast?_lines fun u hu ↦ (Place.mem_encode hu).choose_spec.2,
      flatten_encode]
    exact getLast?_flatMap_byte (by simpa using h)

theorem decode_encode (s : Bytes) : decode (encode s) = some s := by
  have htrim : trimLines (encode s) = encode s :=
    trimLines_eq ((quoted_encode s).getLast_lines (getLast?_encode s))
  have hjoin : joinLines (encode s) = (Place.body.encode s).flatten := by
    rw [encode, joinLines_lines fun u hu ↦ escaped_of_mem_encode hu]
    split <;> simp [joinLines]
  rw [decode, htrim, hjoin, Place.unescape_encode]

theorem append_cons_eq_cons {u v s : List Char} {x a b c : Char}
    (h : u ++ x :: v = a :: b :: c :: s) :
    (u = [] ∧ x = a ∧ v = b :: c :: s) ∨ (u = [a] ∧ x = b) ∨ (u = [a, b] ∧ x = c) ∨
      ∃ u', u = a :: b :: c :: u' ∧ u' ++ x :: v = s := by
  rcases u with _ | ⟨d, _ | ⟨e, _ | ⟨f, u⟩⟩⟩ <;>
    simp only [List.nil_append, List.cons_append, List.cons.injEq] at h
  · exact .inl ⟨rfl, h⟩
  · exact .inr (.inl ⟨by rw [h.1], h.2.1⟩)
  · exact .inr (.inr (.inl ⟨by rw [h.1, h.2.1], h.2.2.1⟩))
  · exact .inr (.inr (.inr ⟨u, by rw [h.1, h.2.1, h.2.2.1], h.2.2.2⟩))

theorem Quoted.behind_eq {u v : List Char} (h : Quoted (u ++ '=' :: v)) :
    v = [] ∨ (∃ a b w, v = a :: b :: w ∧ UpperHex a ∧ UpperHex b) ∨ ∃ w, v = '\r' :: '\n' :: w := by
  have heq : ¬ UpperHex '=' := by decide
  generalize hs : u ++ '=' :: v = s at h
  induction h generalizing u with
  | nil => simp at hs
  | final =>
    cases u with
    | nil => exact .inl (List.cons.inj hs).2
    | cons c u => simp at hs
  | char hc hne _ ih =>
    cases u with
    | nil => exact absurd (List.cons.inj hs).1.symm hne
    | cons c u => exact ih (List.cons.inj hs).2
  | @escape a b s ha hb _ ih =>
    obtain ⟨-, -, rfl⟩ | ⟨-, rfl⟩ | ⟨-, rfl⟩ | ⟨u', -, hu'⟩ := append_cons_eq_cons hs
    · exact .inr (.inl ⟨a, b, s, rfl, ha, hb⟩)
    · exact absurd ha heq
    · exact absurd hb heq
    · exact ih hu'
  | @softBreak s _ ih =>
    obtain ⟨-, -, rfl⟩ | ⟨-, hcr⟩ | ⟨-, hlf⟩ | ⟨u', -, hu'⟩ := append_cons_eq_cons hs
    · exact .inr (.inr ⟨s, rfl⟩)
    · exact absurd hcr (by decide)
    · exact absurd hlf (by decide)
    · exact ih hu'

theorem Quoted.before_cr {u v : List Char} (h : Quoted (u ++ '\r' :: v)) :
    u.getLast? = some '=' := by
  have hcr : ¬ UpperHex '\r' := by decide
  have hcons (c : Char) {u : List Char} (hu : u.getLast? = some '=') :
      (c :: u).getLast? = some '=' := by
    cases u with
    | nil => cases hu
    | cons d u => exact hu
  generalize hs : u ++ '\r' :: v = s at h
  induction h generalizing u with
  | nil => simp at hs
  | final => cases u <;> simp at hs
  | char hc _ _ ih =>
    cases u with
    | nil => exact absurd (List.cons.inj hs).1.symm hc.inLine.1
    | cons c u => exact hcons c (ih (List.cons.inj hs).2)
  | @escape a b s ha hb _ ih =>
    obtain ⟨-, heq, -⟩ | ⟨-, rfl⟩ | ⟨-, rfl⟩ | ⟨u', rfl, hu'⟩ := append_cons_eq_cons hs
    · exact absurd heq (by decide)
    · exact absurd ha hcr
    · exact absurd hb hcr
    · exact hcons _ (hcons a (hcons b (ih hu')))
  | softBreak _ ih =>
    obtain ⟨-, heq, -⟩ | ⟨rfl, -⟩ | ⟨-, hlf⟩ | ⟨u', rfl, hu'⟩ := append_cons_eq_cons hs
    · exact absurd heq (by decide)
    · rfl
    · exact absurd hlf (by decide)
    · exact hcons _ (hcons _ (hcons _ (ih hu')))

theorem encode_eq_nil {s : Bytes} : encode s = [] ↔ s = [] := by
  constructor
  · intro h
    have hs := decode_encode s
    rw [h] at hs
    exact (Option.some.inj hs).symm
  · rintro rfl
    simp [encode, Place.encode, units, lines, endsInBlank]

/-- Quoted-printable text reads back as the bytes it was made from. It is written in printable
characters and blanks. A line break stands only behind the `=` of a soft break, and any other `=`
begins an escape or ends the text. No line ends in a blank, and only no bytes give no text. -/
theorem encode_reads_back (s : Bytes) :
    decode (encode s) = some s ∧
    (∀ c ∈ encode s, Printable c ∨ IsBlank c ∨ c = '\r' ∨ c = '\n') ∧
    (∀ u v, encode s = u ++ '\r' :: v → u.getLast? = some '=' ∧ v.head? = some '\n') ∧
    (∀ u v, encode s = u ++ '\n' :: v → ∃ w, u = w ++ ['=', '\r']) ∧
    (∀ u v, encode s = u ++ '=' :: v →
      v = [] ∨ (∃ a b w, v = a :: b :: w ∧ UpperHex a ∧ UpperHex b) ∨ ∃ w, v = '\r' :: '\n' :: w) ∧
    (∀ l ∈ Text.lines (encode s), ∀ c ∈ l.getLast?, ¬ IsBlank c) ∧
    (encode s = [] ↔ s = []) := by
  have hquoted := quoted_encode s
  have hinLine (c : Char) (hc : Plain c) : InLine c := hc.inLine
  refine ⟨decode_encode s, fun c hc ↦ ?_, fun u v h ↦ ?_, fun u v h ↦ ?_, fun u v h ↦ ?_,
    hquoted.getLast_lines (getLast?_encode s), encode_eq_nil⟩
  · rcases hquoted.broken.mem hc with (htab | hprintable) | hbreak
    · exact .inr (.inl (.inr htab))
    · exact .inl hprintable
    · exact .inr (.inr hbreak)
  · rw [h] at hquoted
    exact ⟨hquoted.before_cr, hquoted.broken.behind_cr hinLine⟩
  · rw [h] at hquoted
    obtain ⟨w, rfl⟩ := List.getLast?_eq_some_iff.mp (hquoted.broken.before_lf hinLine)
    rw [List.append_assoc, List.singleton_append] at hquoted
    obtain ⟨w, rfl⟩ := List.getLast?_eq_some_iff.mp hquoted.before_cr
    exact ⟨w, List.append_assoc ..⟩
  · rw [h] at hquoted
    exact hquoted.behind_eq

end MimeMail.Encoding.QuotedPrintable
