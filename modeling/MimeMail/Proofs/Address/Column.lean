import MimeMail.Proofs.Address.Header
import MimeMail.Proofs.Encoding.WordLines

namespace MimeMail.Address

open Encoding Text

variable {offset : Nat} (a : Address)

theorem columnAfter_angle (column : Nat) :
    columnAfter column a.angle = column + a.addr.toList.length + 2 := by
  have hline : ∀ c ∈ a.angle, InLine c := fun c hc ↦ (a.printable_angle c hc).inLine
  rw [columnAfter_of_inLine hline, angle]
  simp only [List.cons_append, List.length_cons, List.length_append, List.length_nil]
  omega

theorem encodeName_column (h : 1 ≤ offset) :
    (a.encodeName offset).column =
      columnAfter offset ((a.encodeName offset).text ++ a.space) := by
  have hspace (column : Nat) : columnAfter column [' '] = column + 1 := rfl
  unfold encodeName space
  dsimp only
  split
  · rfl
  · rename_i hne
    split
    · rename_i hp
      have hquoted : Folded Printable (QuotedString.encode a.name.toList) :=
        .of_forall (QuotedString.printable_encode (printable_of_utf8 hp))
      have hline : ∀ c ∈ QuotedString.encode a.name.toList, InLine c :=
        fun c hc ↦ (QuotedString.printable_encode (printable_of_utf8 hp) c hc).inLine
      rw [hquoted.columnAfter_append, hspace, columnAfter_of_inLine hline]
    · have hname : utf8 a.name.toList ≠ [] := by simpa [utf8_eq_nil] using hne
      have hcolumn := EncodedWord.encode_column hname offset
      rw [Nat.max_eq_left h] at hcolumn
      rw [(EncodedWord.folded_encode _ offset).columnAfter_append, hspace, hcolumn]

theorem columnAfter_item (h : 1 ≤ offset) :
    columnAfter offset ((a.encodeName offset).text ++ a.space ++ a.angle) =
      (a.encodeName offset).column + a.addr.toList.length + 2 := by
  have hfolded := (a.folded_encodeName offset).append (.of_forall a.printable_space)
  rw [hfolded.columnAfter_append, columnAfter_angle, a.encodeName_column h]

theorem encode_column (h : 1 ≤ offset) :
    (a.encode offset).column = columnAfter offset (a.encode offset).text := by
  rw [encode_eq]
  split
  · exact (a.columnAfter_item h).symm
  · have hname := a.folded_encodeName offset
    dsimp only
    rw [List.append_assoc, hname.columnAfter_append, columnAfter_fold, columnAfter_angle]

theorem encode_text (h : 1 ≤ offset) :
    (a.encode offset).text = (a.encodeName offset).text ++
      (if columnAfter offset ((a.encodeName offset).text ++ a.space ++ a.angle) ≤ 76 then a.space
        else fold) ++ a.angle := by
  have hmax : maxColumn = 74 := rfl
  rw [encode_eq, a.columnAfter_item h]
  split
  · rw [if_pos (by omega)]
  · rw [if_neg (by omega)]

theorem separator_column (column : Nat) :
    (separator column).column = columnAfter column (separator column).text := by
  unfold separator
  split
  · rfl
  · split <;> rfl

theorem one_le_encode_column (offset : Nat) : 1 ≤ (a.encode offset).column := by
  rw [encode_eq]
  split <;> dsimp only <;> omega

theorem one_le_separator_column (column : Nat) : 1 ≤ (separator column).column := by
  unfold separator
  split
  · exact Nat.le_add_left 1 _
  · split <;> decide

theorem encodeRest_column (as : List Address) {column : Nat} (h : 1 ≤ column) :
    (encodeRest column as).column = columnAfter column (encodeRest column as).text := by
  induction as generalizing column with
  | nil => rfl
  | cons a as ih =>
    have hsep := one_le_separator_column column
    have hrest := ih (a.one_le_encode_column (separator column).column)
    rw [encodeRest]
    dsimp only
    rw [List.append_assoc, (folded_separator column).columnAfter_append,
      ← separator_column, (a.folded_encode _).columnAfter_append,
      ← a.encode_column hsep, ← hrest]

theorem encodeList_column (h : 1 ≤ offset) (as : List Address) :
    (encodeRest (a.encode offset).column as).column =
      columnAfter offset (encodeList (a :: as) offset) := by
  rw [encodeList, encodeRest_column as (a.one_le_encode_column offset)]
  rw [(a.folded_encode offset).columnAfter_append, ← a.encode_column h]

theorem encodeRest_append (column : Nat) (as bs : List Address) :
    (encodeRest column (as ++ bs)).text = (encodeRest column as).text ++
      (encodeRest (encodeRest column as).column bs).text := by
  induction as generalizing column with
  | nil => rfl
  | cons a as ih =>
    rw [List.cons_append, encodeRest, encodeRest]
    dsimp only
    rw [ih]
    simp only [List.append_assoc]

/-- What a list writes behind some addresses before it writes the next one. -/
def link (before : List Address) (offset : Nat) : List Char :=
  if before = [] then [] else (separator (columnAfter offset (encodeList before offset))).text

theorem folded_link (before : List Address) (offset : Nat) :
    Folded Printable (link before offset) := by
  unfold link
  split
  · exact .nil
  · exact folded_separator _

theorem columnAfter_link (h : 1 ≤ offset) (b : Address) (bs : List Address) :
    columnAfter offset (encodeList (b :: bs) offset ++ link (b :: bs) offset) =
      (separator (encodeRest (b.encode offset).column bs).column).column := by
  have hlist := folded_encodeList (b :: bs) offset
  simp only [link, reduceCtorEq, if_false]
  rw [hlist.columnAfter_append, ← b.encodeList_column h, separator_column]

theorem one_le_columnAfter_link (h : 1 ≤ offset) (before : List Address) :
    1 ≤ columnAfter offset (encodeList before offset ++ link before offset) := by
  cases before with
  | nil => exact h
  | cons b bs =>
    rw [columnAfter_link h]
    exact one_le_separator_column _

theorem encodeList_append (h : 1 ≤ offset) (before after : List Address) :
    let written := encodeList before offset ++ link before offset
    let item := a.encode (columnAfter offset written)
    encodeList (before ++ a :: after) offset =
      written ++ item.text ++ (encodeRest item.column after).text := by
  cases before with
  | nil => rfl
  | cons b bs =>
    dsimp only
    rw [columnAfter_link h]
    simp only [link, reduceCtorEq, if_false]
    rw [← b.encodeList_column h, List.cons_append, encodeList, encodeRest_append, encodeRest,
      encodeList]
    simp only [List.append_assoc]

/-- The column behind an address is the real one, and a list of addresses carries the real column
along: each address is written at the column where it stands, and an addr-spec is put on a line of
its own exactly if it would end past column 76 behind the name and its space. -/
theorem folds_on_real_column (h : 1 ≤ offset) :
    (∀ a : Address, (a.encode offset).column = columnAfter offset (a.encode offset).text) ∧
    (∀ (a : Address) (as : List Address), (encodeRest (a.encode offset).column as).column =
      columnAfter offset (encodeList (a :: as) offset)) ∧
    ∀ (before : List Address) (a : Address) (after : List Address),
      let written := encodeList before offset ++ link before offset
      let column := columnAfter offset written
      let name := (a.encodeName column).text
      let item := (a.encode column).text
      encodeList (before ++ a :: after) offset =
        written ++ item ++ (encodeRest (columnAfter offset (written ++ item)) after).text ∧
      item = name ++ (if columnAfter offset (written ++ name ++ a.space ++ a.angle) ≤ 76
        then a.space else fold) ++ a.angle := by
  refine ⟨fun a ↦ a.encode_column h, fun a as ↦ a.encodeList_column h as, ?_⟩
  intro before a after written column name item
  have hcolumn : 1 ≤ column := one_le_columnAfter_link h before
  have hwritten : Folded Printable written :=
    (folded_encodeList before offset).append (folded_link before offset)
  constructor
  · -- The column that `encodeRest` is given is the one behind the whole text.
    rw [hwritten.columnAfter_append, ← a.encode_column hcolumn]
    exact a.encodeList_append h before after
  · have hitem := a.encode_text hcolumn
    simp only [List.append_assoc, hwritten.columnAfter_append] at hitem ⊢
    exact hitem

theorem full_line_on_real_column :
    let first : Address := ⟨"", "a@example.com", by decide⟩
    let second : Address := ⟨"", "b@example.com", by decide⟩
    let written := encodeList [first] 60 ++ ",\r\n ".toList
    1 ≤ 60 ∧ columnAfter 60 (encodeList [first] 60) = 75 ∧
      encodeList [first, second] 60 =
        written ++ (second.encode (columnAfter 60 written)).text := by
  intro first second written
  have hlink : link [first] 60 = ",\r\n ".toList := by decide +kernel
  have hlist := ((folds_on_real_column (by decide : 1 ≤ 60)).2.2 [first] second []).1
  rw [hlink, encodeRest, List.append_nil] at hlist
  exact ⟨by decide, by decide +kernel, hlist⟩

end MimeMail.Address
