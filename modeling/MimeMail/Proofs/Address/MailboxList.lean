import Mathlib.Data.List.Basic
import Mathlib.Data.List.TakeWhile
import MimeMail.Proofs.Address.Header

namespace MimeMail.MailboxList

open Encoding Text

def run (s : List Char) : List Char :=
  s.takeWhile fun c ↦ !decide (IsBlank c)

def behind (s : List Char) : List Char :=
  s.dropWhile fun c ↦ !decide (IsBlank c)

def skip (s : List Char) : List Char :=
  s.dropWhile fun c ↦ decide (IsBlank c)

theorem run_append {u : List Char} (h : ∀ c ∈ u, ¬ IsBlank c) (s : List Char) :
    run (u ++ s) = u ++ run s :=
  List.takeWhile_append_of_pos fun c hc ↦ by simpa using h c hc

theorem behind_append {u : List Char} (h : ∀ c ∈ u, ¬ IsBlank c) (s : List Char) :
    behind (u ++ s) = behind s :=
  List.dropWhile_append_of_pos fun c hc ↦ by simpa using h c hc

theorem skip_cons {c : Char} (h : ¬ IsBlank c) (s : List Char) : skip (c :: s) = c :: s :=
  List.dropWhile_cons_of_neg (by simpa using h)

theorem skip_space (s : List Char) : skip (' ' :: s) = skip s := rfl

theorem length_skip_le (s : List Char) : (skip s).length ≤ s.length :=
  (List.dropWhile_sublist _).length_le

theorem length_run_add (s : List Char) : (run s).length + (behind s).length = s.length := by
  rw [← List.length_append, run, behind, List.takeWhile_append_dropWhile]

def word? (s : List Char) : Option Bytes := do
  let t ← s.dropPrefix? "=?utf-8?q?".toList
  let payload ← t.dropSuffix? "?=".toList
  if payload.contains '?' then none else Place.header.unescape payload

theorem run_ne_nil_of_word {s : List Char} {b : Bytes} (h : word? (run s) = some b) :
    0 < (run s).length := by
  cases hr : run s with
  | nil =>
    have hnil : word? [] = none := rfl
    rw [hr, hnil] at h
    exact absurd h (by simp)
  | cons c t => exact Nat.succ_pos _

/-- Reads encoded words with blanks between them and behind them, and joins their bytes. -/
def readWords (s : List Char) : Bytes × List Char :=
  match _h : word? (run s) with
  | none => ([], s)
  | some b =>
    let (more, rest) := readWords (skip (behind s))
    (b ++ more, rest)
termination_by s.length
decreasing_by
  have hpos := run_ne_nil_of_word _h
  have hsum := length_run_add s
  have hle := length_skip_le (behind s)
  omega

/-- Reads a name: a quoted string, or words. -/
def readName : List Char → Option (List Char × List Char)
  | '"' :: s => QuotedString.read s
  | s =>
    let (bytes, rest) := readWords s
    (ofUtf8? bytes).map fun name ↦ (name, rest)

def readAddr : List Char → Option (List Char × List Char)
  | '<' :: s => (splitLast '>' (run s)).map fun (addr, rest) ↦ (addr, rest ++ behind s)
  | _ => none

def readItem (s : List Char) : Option ((String × String) × List Char) := do
  let (name, s) ← readName (skip s)
  let (addr, s) ← readAddr (skip s)
  some ((String.ofList name, String.ofList addr), skip s)

def readItems (s : List Char) : Option (List (String × String)) :=
  match readItem s with
  | some (item, []) => some [item]
  | some (item, ',' :: rest) =>
    if rest.length < s.length then (readItems rest).map (item :: ·) else none
  | _ => none
termination_by s.length

/-- Reads a list of mailboxes as names and addr-specs. -/
def read (s : List Char) : Option (List (String × String)) :=
  if (skip s).isEmpty then some [] else readItems s

theorem word?_word (us : List Bytes) : word? (EncodedWord.word us) = some us.flatten := by
  have hword : EncodedWord.word us =
      "=?utf-8?q?".toList ++ (EncodedWord.payload us ++ "?=".toList) :=
    List.append_assoc EncodedWord.opening (EncodedWord.payload us) EncodedWord.closing
  have hprefix : (EncodedWord.word us).dropPrefix? "=?utf-8?q?".toList =
      some (EncodedWord.payload us ++ "?=".toList) := by
    rw [List.dropPrefix?_eq_some_iff]
    exact ⟨"=?utf-8?q?".toList, hword, by simp⟩
  have hsuffix : (EncodedWord.payload us ++ "?=".toList).dropSuffix? "?=".toList =
      some (EncodedWord.payload us) := by
    rw [List.dropSuffix?_eq_some_iff]
    exact ⟨"?=".toList, rfl, by simp⟩
  have hmark : (EncodedWord.payload us).contains '?' = false := by
    rw [List.contains_eq_mem, decide_eq_false_iff_not]
    exact fun h ↦ (EncodedWord.mem_payload h).2.2 rfl
  rw [word?, hprefix, Option.bind_eq_bind, Option.bind_some, hsuffix,
    Option.bind_some, hmark, EncodedWord.unescape_payload]
  rfl

theorem not_blank_of_mem_word {us : List Bytes} {c : Char} (h : c ∈ EncodedWord.word us) :
    ¬ IsBlank c := by
  have hc := EncodedWord.mem_word h
  rintro (rfl | rfl)
  · exact hc.2 rfl
  · exact absurd hc.1 (by decide)

def spacedWords (groups : List (List Bytes)) : List Char :=
  groups.flatMap fun us ↦ ' ' :: EncodedWord.word us

theorem deleteBreaks_foldedWords (groups : List (List Bytes)) :
    deleteBreaks (EncodedWord.foldedWords groups) = spacedWords groups := by
  induction groups with
  | nil => rfl
  | cons us groups ih =>
    have hfold (t : List Char) : deleteBreaks (fold ++ t) = ' ' :: deleteBreaks t := rfl
    rw [EncodedWord.foldedWords_cons, hfold, deleteBreaks_append (EncodedWord.inLine_word us)]
    exact congrArg (fun t ↦ ' ' :: (EncodedWord.word us ++ t)) ih

theorem readWords_angle (s : List Char) : readWords ('<' :: s) = ([], '<' :: s) := by
  have hrun : run ('<' :: s) = '<' :: run s := rfl
  have hword : word? ('<' :: run s) = none := rfl
  rw [readWords]
  split
  · rfl
  · rename_i h
    rw [hrun, hword] at h
    exact absurd h (by simp)

theorem readWords_words (first : List Bytes) (rest : List (List Bytes)) (s : List Char) :
    readWords (EncodedWord.word first ++ (spacedWords rest ++ ' ' :: '<' :: s)) =
      ((first :: rest).flatten.flatten, '<' :: s) := by
  have hword (us : List Bytes) (t : List Char) : run (EncodedWord.word us ++ ' ' :: t) =
      EncodedWord.word us ∧ skip (behind (EncodedWord.word us ++ ' ' :: t)) = skip t := by
    constructor
    · rw [run_append fun c hc ↦ not_blank_of_mem_word hc]
      exact List.append_nil _
    · rw [behind_append fun c hc ↦ not_blank_of_mem_word hc]
      rfl
  have hread (us : List Bytes) (t : List Char) : readWords (EncodedWord.word us ++ ' ' :: t) =
      (us.flatten ++ (readWords (skip t)).1, (readWords (skip t)).2) := by
    rw [readWords]
    split
    · rename_i h
      rw [(hword us t).1, word?_word] at h
      exact absurd h (by simp)
    · rename_i b h
      rw [(hword us t).1, word?_word] at h
      rw [(hword us t).2, ← Option.some.inj h]
  induction rest generalizing first with
  | nil =>
    rw [spacedWords, List.flatMap_nil, List.nil_append, hread, skip_cons (by decide),
      readWords_angle]
    simp
  | cons us rest ih =>
    obtain ⟨t, ht⟩ := EncodedWord.word_eq_cons us
    have hskip (x : List Char) : skip (EncodedWord.word us ++ x) = EncodedWord.word us ++ x := by
      rw [ht, List.cons_append, skip_cons (by decide)]
    have hstep : spacedWords (us :: rest) ++ ' ' :: '<' :: s =
        ' ' :: (EncodedWord.word us ++ (spacedWords rest ++ ' ' :: '<' :: s)) := by
      simp [spacedWords]
    rw [hstep, hread, hskip, ih]
    simp

/-- A text that reads as the name, up to the blanks before an addr-spec. -/
def ReadsAs (s name t : List Char) : Prop :=
  ∃ rest, readName (skip s) = some (name, rest) ∧ skip rest = '<' :: t

/-- What stands between a name and its addr-spec. -/
def IsGap (a : Address) (gap : List Char) : Prop :=
  gap = [' '] ∨ (gap = [] ∧ a.name.toList = [])

theorem readsAs_empty {gap : List Char} (h : gap = [' '] ∨ gap = []) (t : List Char) :
    ReadsAs (gap ++ '<' :: t) [] t := by
  have hname : readName ('<' :: t) = some ([], '<' :: t) := by
    rw [readName, readWords_angle]
    · rfl
    · rintro s h
      exact absurd (List.cons.inj h).1 (by decide)
  have hskip : skip ('<' :: t) = '<' :: t := skip_cons (by decide) t
  refine ⟨'<' :: t, ?_, hskip⟩
  rcases h with rfl | rfl
  · rw [List.singleton_append, skip_space, hskip, hname]
  · rw [List.nil_append, hskip, hname]

theorem readsAs_quoted (name t : List Char) :
    ReadsAs (QuotedString.encode name ++ ' ' :: '<' :: t) name t := by
  refine ⟨' ' :: '<' :: t, ?_, ?_⟩
  · rw [QuotedString.encode, List.cons_append, List.cons_append, skip_cons (by decide), readName,
      List.append_assoc]
    exact QuotedString.read_escape name _
  · rw [skip_space, skip_cons (by decide)]

theorem readsAs_words {lead name : List Char} {first : List Bytes} {rest : List (List Bytes)}
    (hlead : lead = [] ∨ lead = [' '])
    (hunits : (first :: rest).flatten = units (utf8 name)) (t : List Char) :
    ReadsAs (lead ++ EncodedWord.word first ++ spacedWords rest ++ ' ' :: '<' :: t) name t := by
  obtain ⟨w, hw⟩ := EncodedWord.word_eq_cons first
  have hskip (x : List Char) : skip (lead ++ EncodedWord.word first ++ x) =
      EncodedWord.word first ++ x := by
    have hword : skip (EncodedWord.word first ++ x) = EncodedWord.word first ++ x := by
      rw [hw, List.cons_append, skip_cons (by decide)]
    rcases hlead with rfl | rfl
    · exact hword
    · exact hword
  have hbytes : (first :: rest).flatten.flatten = utf8 name := by
    rw [hunits, flatten_units]
  refine ⟨'<' :: t, ?_, skip_cons (by decide) t⟩
  rw [List.append_assoc, hskip, readName]
  · rw [readWords_words, hbytes]
    simp only [ofUtf8?_utf8, Option.map_some]
  · rintro s h
    rw [hw, List.cons_append] at h
    exact absurd (List.cons.inj h).1 (by decide)

theorem readsAs_encodeName (a : Address) (offset : Nat) {gap : List Char} (hgap : IsGap a gap)
    (t : List Char) :
    ReadsAs (deleteBreaks (a.encodeName offset).text ++ gap ++ '<' :: t) a.name.toList t := by
  unfold Address.encodeName
  dsimp only
  split
  · rename_i h
    have hname : a.name.toList = [] := List.isEmpty_iff.mp h
    rw [hname]
    exact readsAs_empty (hgap.imp_right And.left) t
  · rename_i h
    have hne : a.name.toList ≠ [] := fun hnil ↦ h (List.isEmpty_iff.mpr hnil)
    have hspace : gap = [' '] := by
      rcases hgap with hgap | ⟨-, hnil⟩
      · exact hgap
      · exact absurd hnil hne
    subst hspace
    split
    · rename_i hp
      have hline : ∀ c ∈ QuotedString.encode a.name.toList, InLine c :=
        fun c hc ↦ (QuotedString.printable_encode (printable_of_utf8 hp) c hc).inLine
      have hdelete := deleteBreaks_append hline []
      rw [List.append_nil] at hdelete
      rw [hdelete]
      simpa [deleteBreaks] using readsAs_quoted a.name.toList t
    · obtain ⟨lead, first, rest, hlead, hunits, htext⟩ :=
        EncodedWord.encode_text (fun h ↦ hne (utf8_eq_nil.mp h)) offset
      have hword : ∀ c ∈ EncodedWord.word first, InLine c :=
        fun c hc ↦ (EncodedWord.mem_word hc).1.inLine
      rw [htext]
      rcases hlead with rfl | rfl
      · rw [List.nil_append, deleteBreaks_append hword, deleteBreaks_foldedWords]
        simpa using readsAs_words (.inl rfl) hunits t
      · have hfold (x : List Char) : deleteBreaks (fold ++ x) = ' ' :: deleteBreaks x := rfl
        rw [List.append_assoc fold, hfold, deleteBreaks_append hword, deleteBreaks_foldedWords]
        simpa using readsAs_words (.inr rfl) hunits t

theorem readAddr_angle (a : Address) {rest : List Char} (h : '>' ∉ run rest) :
    readAddr ('<' :: (a.addr.toList ++ '>' :: rest)) = some (a.addr.toList, rest) := by
  have hblank : ∀ c ∈ a.addr.toList ++ ['>'], ¬ IsBlank c := by
    intro c hc
    rcases List.mem_append.mp hc with hc | hc
    · have haddr := a.addr_printable c hc
      rintro (rfl | rfl)
      · exact haddr.2 rfl
      · exact absurd haddr.1 (by decide)
    · rw [List.mem_singleton.mp hc]
      decide
  have happend : a.addr.toList ++ '>' :: rest = (a.addr.toList ++ ['>']) ++ rest := by simp
  have hrun : run (a.addr.toList ++ '>' :: rest) = a.addr.toList ++ '>' :: run rest := by
    rw [happend, run_append hblank]
    simp
  have hbehind : behind (a.addr.toList ++ '>' :: rest) = behind rest := by
    rw [happend, behind_append hblank]
  rw [readAddr, hrun, hbehind, splitLast_append _ h]
  simp only [Option.map_some, run, behind, List.takeWhile_append_dropWhile]

theorem deleteBreaks_encode (a : Address) (offset : Nat) :
    ∃ gap, IsGap a gap ∧ deleteBreaks (a.encode offset).text =
      deleteBreaks (a.encodeName offset).text ++ gap ++ '<' :: (a.addr.toList ++ ['>']) := by
  have hname := (a.folded_encodeName offset).deleteBreaks_append fun _ h ↦ h.inLine
  have hangle : deleteBreaks a.angle = '<' :: (a.addr.toList ++ ['>']) := by
    have h := deleteBreaks_append (fun c hc ↦ (a.printable_angle c hc).inLine) []
    simpa [Address.angle, deleteBreaks] using h
  rw [Address.encode_eq]
  split
  · refine ⟨a.space, ?_, ?_⟩
    · unfold Address.space
      split
      · rename_i h
        exact .inr ⟨rfl, List.isEmpty_iff.mp h⟩
      · exact .inl rfl
    · dsimp only
      rw [List.append_assoc, hname,
        deleteBreaks_append fun c hc ↦ (a.printable_space c hc).inLine, hangle, List.append_assoc]
  · have hfold (x : List Char) : deleteBreaks (fold ++ x) = [' '] ++ deleteBreaks x := rfl
    refine ⟨[' '], .inl rfl, ?_⟩
    dsimp only
    rw [List.append_assoc, hname, hfold, hangle, List.append_assoc]

theorem readItem_encode (a : Address) (offset : Nat) (rest : List Char) (h : '>' ∉ run rest) :
    readItem (deleteBreaks (a.encode offset).text ++ rest) =
      some ((a.name, a.addr), skip rest) := by
  obtain ⟨gap, hgap, htext⟩ := deleteBreaks_encode a offset
  obtain ⟨behindName, hname, hskip⟩ :=
    readsAs_encodeName a offset hgap (a.addr.toList ++ '>' :: rest)
  have hassoc : deleteBreaks (a.encode offset).text ++ rest =
      deleteBreaks (a.encodeName offset).text ++ gap ++
        '<' :: (a.addr.toList ++ '>' :: rest) := by
    rw [htext]
    simp
  rw [readItem, hassoc, hname, Option.bind_eq_bind, Option.bind_some]
  simp only [hskip, readAddr_angle a h, Option.bind_some, String.ofList_toList]

theorem deleteBreaks_separator (column : Nat) (t : List Char) :
    deleteBreaks ((Address.separator column).text ++ t) = ',' :: ' ' :: deleteBreaks t ∨
      deleteBreaks ((Address.separator column).text ++ t) =
        ' ' :: ',' :: ' ' :: deleteBreaks t := by
  unfold Address.separator
  split
  · exact .inl rfl
  · split
    · exact .inl rfl
    · exact .inr rfl

theorem readItem_space (s : List Char) : readItem (' ' :: s) = readItem s := rfl

theorem readItem_lead {lead : List Char} (h : lead = [] ∨ lead = [' ']) (s : List Char) :
    readItem (lead ++ s) = readItem s := by
  rcases h with rfl | rfl
  · rfl
  · exact readItem_space s

theorem readItems_of_end {s : List Char} {item : String × String}
    (h : readItem s = some (item, [])) : readItems s = some [item] := by
  rw [readItems, h]

theorem readItems_of_comma {s rest : List Char} {item : String × String}
    (h : readItem s = some (item, ',' :: rest)) (hlt : rest.length < s.length) :
    readItems s = (readItems rest).map (item :: ·) := by
  rw [readItems, h]
  exact if_pos hlt

theorem readItems_encode (a : Address) (as : List Address) (offset column : Nat)
    (lead : List Char) (hlead : lead = [] ∨ lead = [' ']) :
    readItems (lead ++ (deleteBreaks (a.encode offset).text ++
        deleteBreaks (Address.encodeRest column as).text)) =
      some ((a :: as).map fun b ↦ (b.name, b.addr)) := by
  -- The reader takes the comma of a separator only, so that the next item begins with its space.
  induction as generalizing a offset column lead with
  | nil =>
    have hitem := readItem_encode a offset [] (by simp [run])
    exact readItems_of_end (by rwa [readItem_lead hlead])
  | cons b as ih =>
    let sep := Address.separator column
    let item := b.encode sep.column
    have hinLine (c : Char) (hc : Printable c) : InLine c := hc.inLine
    have htail : deleteBreaks (item.text ++ (Address.encodeRest item.column as).text) =
        deleteBreaks item.text ++ deleteBreaks (Address.encodeRest item.column as).text :=
      (b.folded_encode sep.column).deleteBreaks_append hinLine _
    have hrest : (Address.encodeRest column (b :: as)).text =
        sep.text ++ (item.text ++ (Address.encodeRest item.column as).text) :=
      List.append_assoc ..
    have hread := ih b sep.column item.column [' '] (.inr rfl)
    have hsep := deleteBreaks_separator column
      (item.text ++ (Address.encodeRest item.column as).text)
    rw [htail] at hsep
    rw [hrest]
    generalize deleteBreaks (sep.text ++ _) = y at hsep ⊢
    have hrun : '>' ∉ run y := by
      rcases hsep with rfl | rfl
      · simp [run, IsBlank]
      · simp [run, IsBlank]
    have hskip : skip y = ',' :: ' ' :: (deleteBreaks item.text ++
        deleteBreaks (Address.encodeRest item.column as).text) := by
      rcases hsep with rfl | rfl
      · exact skip_cons (by decide) _
      · rw [skip_space, skip_cons (by decide)]
    have hlen := length_skip_le y
    have hitem := readItem_encode a offset y hrun
    rw [hskip] at hlen hitem
    rw [readItems_of_comma (by rwa [readItem_lead hlead])]
    · exact congrArg (Option.map ((a.name, a.addr) :: ·)) hread
    · simp only [List.length_append, List.length_cons] at hlen ⊢
      omega

theorem read_encodeList (list : List Address) (offset : Nat) :
    read (deleteBreaks (Address.encodeList list offset)) =
      some (list.map fun a ↦ (a.name, a.addr)) := by
  cases list with
  | nil => rfl
  | cons a as =>
    have hread := readItems_encode a as offset (a.encode offset).column [] (.inl rfl)
    have htext : deleteBreaks (Address.encodeList (a :: as) offset) =
        deleteBreaks (a.encode offset).text ++
          deleteBreaks (Address.encodeRest (a.encode offset).column as).text :=
      (a.folded_encode offset).deleteBreaks_append (fun _ h ↦ h.inLine) _
    have hskip : (skip (deleteBreaks (Address.encodeList (a :: as) offset))).isEmpty = false := by
      obtain ⟨gap, -, hitem⟩ := deleteBreaks_encode a offset
      rw [Bool.eq_false_iff, ne_eq, List.isEmpty_iff, skip, List.dropWhile_eq_nil_iff]
      intro hall
      have hblank := hall '<' (by rw [htext, hitem]; simp)
      exact absurd hblank (by decide)
    rw [read, hskip, htext]
    exact hread

theorem encodeList_injective {list list' : List Address} {offset offset' : Nat}
    (h : Address.encodeList list offset = Address.encodeList list' offset') : list = list' := by
  have hread := read_encodeList list offset
  rw [h, read_encodeList] at hread
  have hpair : Function.Injective fun a : Address ↦ (a.name, a.addr) := by
    rintro ⟨name, addr, valid⟩ ⟨name', addr', valid'⟩ h
    simpa using h
  exact (List.map_injective_iff.mpr hpair (Option.some.inj hread)).symm

/-- A list is read back from its unfolded header text, so no other list has that text. -/
theorem list_reads_back (list : List Address) (offset : Nat) :
    read (deleteBreaks (Address.encodeList list offset)) =
        some (list.map fun a ↦ (a.name, a.addr)) ∧
      ∀ list' offset', Address.encodeList list offset = Address.encodeList list' offset' →
        list = list' :=
  ⟨read_encodeList list offset, fun _ _ h ↦ encodeList_injective h⟩

theorem list_reads_back_separators :
    read (deleteBreaks (Address.encodeList
        [⟨"\"A, B\" <x@y.z>", "a,<b>@c.d", by decide⟩, ⟨"Jürgen\r\n", "e@f.g", by decide⟩] 4)) =
      some [("\"A, B\" <x@y.z>", "a,<b>@c.d"), ("Jürgen\r\n", "e@f.g")] :=
  (list_reads_back _ 4).1

end MimeMail.MailboxList
