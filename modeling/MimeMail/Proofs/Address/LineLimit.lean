import Mathlib.Data.List.Induction
import MimeMail.Proofs.Address.Column

namespace MimeMail.Address

open Encoding Text

/-- The name is written as a quoted string. -/
def IsQuoted (a : Address) : Prop :=
  a.name ≠ "" ∧ (utf8 a.name.toList).all EncodedWord.isPrintable = true

instance : DecidablePred IsQuoted := fun _ ↦ inferInstanceAs (Decidable (_ ∧ _))

/-- The column at which the next address stands behind those before it. -/
def startColumn (before : List Address) (offset : Nat) : Nat :=
  columnAfter offset (encodeList before offset ++ link before offset)

variable {limit column offset : Nat} (a : Address)

theorem within_encodeName (hcolumn : 1 ≤ column) (hlimit : 76 ≤ limit) :
    Within limit column (a.encodeName column).text ↔ column ≤ limit ∧
      (a.IsQuoted → column + (QuotedString.encode a.name.toList).length ≤ limit) := by
  unfold encodeName
  dsimp only
  split
  · rename_i hempty
    have hbare : ¬ a.IsQuoted :=
      fun h ↦ h.1 (String.toList_eq_nil_iff.mp (List.isEmpty_iff.mp hempty))
    rw [within_of_inLine (by simp)]
    simp [hbare]
  · rename_i hne
    have hname : a.name.toList ≠ [] := mt List.isEmpty_iff.mpr hne
    split
    · rename_i hp
      have hquoted : a.IsQuoted := ⟨mt String.toList_eq_nil_iff.mpr hname, hp⟩
      have hline : ∀ c ∈ QuotedString.encode a.name.toList, InLine c :=
        fun c hc ↦ (QuotedString.printable_encode (printable_of_utf8 hp) c hc).inLine
      rw [within_of_inLine hline]
      simp only [hquoted, true_imp_iff]
      omega
    · rename_i hp
      have hwords : ¬ a.IsQuoted := fun h ↦ hp h.2
      rw [EncodedWord.within_encode hname hcolumn hlimit]
      simp [hwords]

theorem within_encode (hcolumn : 1 ≤ column) (hlimit : 76 ≤ limit)
    (haddr : a.addr.toList.length ≤ 70) :
    Within limit column (a.encode column).text ↔
      Within limit column (a.encodeName column).text := by
  have hname := a.folded_encodeName column
  have hangle : a.angle.length = a.addr.toList.length + 2 := by simp [angle]
  rw [a.encode_text hcolumn, List.append_assoc, hname.within_append]
  refine ⟨And.left, fun hwithin ↦ ⟨hwithin, ?_⟩⟩
  split
  · rename_i hfits
    have hline : ∀ c ∈ a.space ++ a.angle, InLine c := fun c hc ↦
      ((List.mem_append.mp hc).elim (a.printable_space c) (a.printable_angle c)).inLine
    rw [List.append_assoc, hname.columnAfter_append, columnAfter_of_inLine hline] at hfits
    rw [within_of_inLine hline]
    exact Nat.le_trans hfits hlimit
  · have hline : ∀ c ∈ ' ' :: a.angle, InLine c := fun c hc ↦
      (List.mem_cons.mp hc).elim (fun h ↦ by rw [h]; decide) fun h ↦ (a.printable_angle c h).inLine
    have hfold : fold ++ a.angle = '\r' :: '\n' :: (' ' :: a.angle) := rfl
    rw [hfold, within_break, within_of_inLine hline, List.length_cons, hangle]
    exact ⟨hwithin.columnAfter_le hname, by omega⟩

theorem within_item (hcolumn : 1 ≤ column) (hlimit : 76 ≤ limit)
    (haddr : a.addr.toList.length ≤ 70) :
    Within limit column (a.encode column).text ↔ column ≤ limit ∧
      (a.IsQuoted → column + (QuotedString.encode a.name.toList).length ≤ limit) :=
  (a.within_encode hcolumn hlimit haddr).trans (a.within_encodeName hcolumn hlimit)

theorem within_separator (hlimit : 76 ≤ limit) :
    Within limit column (separator column).text ↔ column ≤ limit := by
  refine ⟨Within.column_le, fun hcolumn ↦ ?_⟩
  have hcomma : ∀ c ∈ ", ".toList, InLine c := by decide
  have hspace : ∀ c ∈ " ".toList, InLine c := by decide
  have hlate : ∀ c ∈ " , ".toList, InLine c := by decide
  unfold separator
  split
  · rw [within_of_inLine hcomma]
    exact Nat.le_trans (Nat.add_le_add_right (Nat.le_of_lt_succ ‹column < 75›) 2) hlimit
  · split
    · rename_i hfull
      have hbreak : ",\r\n ".toList = ',' :: '\r' :: '\n' :: " ".toList := rfl
      rw [hbreak, within_cons (by decide), within_break, within_of_inLine hspace, hfull]
      exact ⟨hlimit, Nat.le_trans (by decide) hlimit⟩
    · have hbreak : "\r\n , ".toList = '\r' :: '\n' :: " , ".toList := rfl
      rw [hbreak, within_break, within_of_inLine hlate]
      exact ⟨hcolumn, Nat.le_trans (by decide) hlimit⟩

theorem separator_column_le (column : Nat) : (separator column).column ≤ 76 := by
  unfold separator
  split
  · exact Nat.add_le_add_right (Nat.le_of_lt_succ ‹column < 75›) 2
  · split <;> decide

theorem startColumn_le (hoffset : 1 ≤ offset) (hoffset' : offset ≤ 76) (before : List Address) :
    startColumn before offset ≤ 76 := by
  cases before with
  | nil => exact hoffset'
  | cons b bs =>
    rw [startColumn, columnAfter_link hoffset]
    exact separator_column_le _

theorem within_link (hlimit : 76 ≤ limit) {before : List Address}
    (h : Within limit offset (encodeList before offset)) :
    Within limit (columnAfter offset (encodeList before offset)) (link before offset) := by
  have hend := h.columnAfter_le (folded_encodeList before offset)
  unfold link
  split
  · exact (within_of_inLine (by simp)).mpr hend
  · exact (within_separator hlimit).mpr hend

theorem within_encodeList (hoffset : 1 ≤ offset) (hoffset' : offset ≤ 76) (hlimit : 76 ≤ limit)
    (list : List Address) :
    Within limit offset (encodeList list offset) ↔ ∀ before a after, list = before ++ a :: after →
      Within limit (startColumn before offset) (a.encode (startColumn before offset)).text := by
  -- The induction is from the end, since where an address stands depends on those before it.
  induction list using List.reverseRecOn with
  | nil =>
    have hempty : Within limit offset (encodeList [] offset) :=
      (within_of_inLine (by simp [encodeList])).mpr (Nat.le_trans hoffset' hlimit)
    simp [hempty]
  | append_singleton init b ih =>
    have htext := b.encodeList_append hoffset init []
    have hwritten := (folded_encodeList init offset).append (folded_link init offset)
    dsimp only at htext
    rw [htext, encodeRest, List.append_nil, hwritten.within_append,
      (folded_encodeList init offset).within_append, and_iff_left_of_imp (within_link hlimit), ih]
    constructor
    · rintro ⟨hinit, hb⟩ before a after hlist
      obtain rfl | ⟨after, c, rfl⟩ := List.eq_nil_or_concat after
      · obtain ⟨rfl, hsingle⟩ := List.append_inj' hlist rfl
        obtain rfl : b = a := List.singleton_inj.mp hsingle
        exact hb
      · rw [List.concat_eq_append, ← List.cons_append, ← List.append_assoc] at hlist
        exact hinit before a after (List.append_inj' hlist rfl).1
    · intro hall
      refine ⟨fun before a after hlist ↦ hall before a (after ++ [b]) (by simp [hlist]), ?_⟩
      exact hall init b [] rfl

/-- Each address of a list goes beyond the limit exactly if its name is quoted and does not fit
where it stands, and so does the list. An addr-spec or an encoded word that does not fit is moved to
the next line; a quoted name is not. -/
theorem header_lines_limited (hoffset : 1 ≤ offset) (hoffset' : offset ≤ 10) {list : List Address}
    (haddr : ∀ a ∈ list, a.addr.toList.length ≤ 70) (hlimit : 76 ≤ limit) :
    (∀ before a after, list = before ++ a :: after →
      let column := startColumn before offset
      (Within limit column (a.encode column).text ↔
        (a.IsQuoted → column + (QuotedString.encode a.name.toList).length ≤ limit))) ∧
    (Within limit offset (encodeList list offset) ↔ ∀ before a after, list = before ++ a :: after →
      a.IsQuoted →
        startColumn before offset + (QuotedString.encode a.name.toList).length ≤ limit) := by
  have hoffset'' : offset ≤ 76 := Nat.le_trans hoffset' (by decide)
  have hitem (before : List Address) (a : Address) (after : List Address)
      (hlist : list = before ++ a :: after) :
      Within limit (startColumn before offset) (a.encode (startColumn before offset)).text ↔
        (a.IsQuoted → startColumn before offset + (QuotedString.encode a.name.toList).length ≤
          limit) := by
    have hmem : a ∈ list := by simp [hlist]
    have hstart : startColumn before offset ≤ limit :=
      Nat.le_trans (startColumn_le hoffset hoffset'' before) hlimit
    have hcolumn : 1 ≤ startColumn before offset := one_le_columnAfter_link hoffset before
    rw [a.within_item hcolumn hlimit (haddr a hmem)]
    exact and_iff_right hstart
  refine ⟨hitem, (within_encodeList hoffset hoffset'' hlimit list).trans ?_⟩
  constructor
  · intro hall before a after hlist
    exact (hitem before a after hlist).mp (hall before a after hlist)
  · intro hall before a after hlist
    exact (hitem before a after hlist).mpr (hall before a after hlist)

def ann : Address :=
  ⟨"Ann", "ann@example.com", by decide +kernel⟩

def office : Address :=
  ⟨"International Shipping and Customer Relations Office", "office@example.com",
    by decide +kernel⟩

theorem office_header_lines_limited :
    1 ≤ 4 ∧ 4 ≤ 10 ∧ (∀ a ∈ [ann, office], a.addr.toList.length ≤ 70) ∧ 76 ≤ 83 ∧
      Within 83 4 (encodeList [ann, office] 4) := by
  have haddr : ∀ a ∈ [ann, office], a.addr.toList.length ≤ 70 := by decide +kernel
  refine ⟨by decide, by decide, haddr, by decide, ?_⟩
  refine (header_lines_limited (by decide) (by decide) haddr (by decide)).2.mpr ?_
  intro before a after hlist _
  match before, hlist with
  | [], hlist =>
    obtain ⟨rfl, -⟩ := List.cons.inj hlist
    decide +kernel
  | [b], hlist =>
    obtain ⟨rfl, hrest⟩ := List.cons.inj hlist
    obtain ⟨rfl, -⟩ := List.cons.inj hrest
    decide +kernel
  | _ :: _ :: before, hlist => simp at hlist

theorem office_exceeds_limit :
    (∀ a ∈ [ann, office], a.addr.toList.length ≤ 70 ∧ a.IsQuoted ∧
      (QuotedString.encode a.name.toList).length ≤ 70) ∧
    ¬ Within 78 4 (encodeList [ann, office] 4) := by
  decide +kernel

end MimeMail.Address
