import MimeMail.Address.Basic
import MimeMail.Proofs.Address.Header
import MimeMail.Proofs.Text.Space

namespace MimeMail

open Encoding Text

theorem Encoding.QuotedString.isTrimmed_encode (s : List Char) :
    IsTrimmed (QuotedString.encode s) := by
  refine ⟨⟨'"', rfl, by decide⟩, '"', ?_, by decide⟩
  rw [QuotedString.encode, List.getLast?_append]
  rfl

namespace Address

theorem unquote_encode (s : List Char) :
    unquote (QuotedString.encode s) = QuotedString.escape s := by
  rw [QuotedString.encode, List.cons_append, unquote, List.getLast?_concat, if_pos rfl,
    List.dropLast_concat]

theorem isTrimmed_addr (a : Address) : IsTrimmed a.addr.toList := by
  refine isTrimmed_of_forall ?_ fun c hc ↦ Visible.isSpace (a.addr_printable c hc)
  intro hempty
  have hvalid := a.valid
  rw [hempty] at hvalid
  cases hvalid

theorem isTrimmed_angle (a : Address) : IsTrimmed a.angle := by
  refine isTrimmed_of_forall (List.cons_ne_nil _ _) fun c hc ↦ ?_
  rw [angle, List.cons_append, List.mem_cons, List.mem_append, List.mem_singleton] at hc
  rcases hc with rfl | hc | rfl
  · decide
  · exact Visible.isSpace (a.addr_printable c hc)
  · decide

def shownName (a : Address) : List Char :=
  if a.name.isEmpty then [] else QuotedString.encode a.name.toList ++ [' ']

theorem display_eq (a : Address) : a.display = String.ofList (a.shownName ++ a.angle) := by
  rw [display, shownName, angle]
  split
  · rfl
  · simp only [List.append_assoc, List.singleton_append]

theorem unquote_trim_shownName (a : Address) :
    unquote (trim a.shownName) = QuotedString.escape a.name.toList := by
  rw [shownName]
  split
  · rename_i hempty
    rw [String.isEmpty_iff.mp hempty]
    rfl
  · have hspace : ∀ c ∈ [' '], isSpace c = true := by decide
    have htrim := (QuotedString.isTrimmed_encode a.name.toList).trim_append
      (u := []) (by simp) hspace
    rw [List.nil_append] at htrim
    rw [htrim, unquote_encode]

theorem isTrimmed_display (a : Address) : IsTrimmed (a.shownName ++ a.angle) := by
  rw [shownName]
  split
  · exact a.isTrimmed_angle
  · exact (QuotedString.isTrimmed_encode _).append a.isTrimmed_angle [' ']

theorem ofParts_parts (a : Address) : ofParts a.name a.addr = .ok a := by
  rw [ofParts, dif_pos a.valid]

theorem parse_display (a : Address) (h : '<' ∉ a.addr.toList) :
    parse a.display =
      .ok { a with name := String.ofList (QuotedString.escape a.name.toList) } := by
  have hrest : '<' ∉ a.addr.toList ++ ['>'] := by simpa using h
  have hsplit : splitLast '<' (a.shownName ++ a.angle) =
      some (a.shownName, a.addr.toList ++ ['>']) := splitLast_append a.shownName hrest
  rw [parse, display_eq, String.toList_ofList, a.isTrimmed_display.trim_eq_self,
    hsplit]
  dsimp only
  rw [List.getLast?_concat, if_pos rfl, List.dropLast_concat, a.isTrimmed_addr.trim_eq_self,
    unquote_trim_shownName, String.ofList_toList]
  exact ofParts_parts ⟨_, a.addr, a.valid⟩

/-- What is shown of an address without `<` in its addr-spec is read as an address again, with the
same addr-spec and with the name as it was escaped. So it is the same address exactly if there is no
double quote and no backslash in the name. -/
theorem display_reads_back {name addr : String} {a : Address} (ha : ofParts name addr = .ok a)
    (h : '<' ∉ addr.toList) :
    (∃ b, parse a.display = .ok b ∧ b.addr = addr ∧
      b.name.toList = QuotedString.escape name.toList) ∧
    (parse a.display = .ok a ↔ ∀ c ∈ name.toList, c ≠ '"' ∧ c ≠ '\\') := by
  obtain ⟨hname, haddr⟩ : a.name = name ∧ a.addr = addr := by
    rw [ofParts] at ha
    split at ha
    · obtain rfl := Except.ok.inj ha
      exact ⟨rfl, rfl⟩
    · cases ha
  subst hname haddr
  have hread := a.parse_display h
  refine ⟨⟨_, hread, rfl, String.toList_ofList⟩, ?_⟩
  have hsame : parse a.display = .ok a ↔
      QuotedString.escape a.name.toList = a.name.toList := by
    rw [hread, Except.ok.injEq]
    constructor
    · intro heq
      have hnames := congrArg (fun b : Address ↦ b.name.toList) heq
      simpa using hnames
    · intro heq
      rw [heq, String.ofList_toList]
  have hmarks : (∀ c ∈ a.name.toList, QuotedString.isMark c = false) ↔
      ∀ c ∈ a.name.toList, c ≠ '"' ∧ c ≠ '\\' := by
    simp [QuotedString.isMark]
  rw [hsame, QuotedString.escape_eq_self_iff, QuotedString.marks_eq_zero, hmarks]

theorem listName_reads_back :
    let a : Address := ⟨" Lists, <all@b.c> ", "ann@b.c", by decide +kernel⟩
    ofParts " Lists, <all@b.c> " "ann@b.c" = .ok a ∧ '<' ∉ "ann@b.c".toList ∧
      parse a.display = .ok a := by
  intro a
  have ha : ofParts " Lists, <all@b.c> " "ann@b.c" = .ok a := a.ofParts_parts
  have haddr : '<' ∉ "ann@b.c".toList := by decide
  exact ⟨ha, haddr, (display_reads_back ha haddr).2.mpr (by decide)⟩

/-- A double quote in a name comes back with a backslash before it. -/
theorem nickname_reads_escaped :
    ∃ a b, ofParts "Ann \"Nan\" Lee" "ann@b.c" = .ok a ∧ '<' ∉ a.addr.toList ∧
      parse a.display = .ok b ∧ b.name = "Ann \\\"Nan\\\" Lee" ∧ b ≠ a := by
  let a : Address := ⟨"Ann \"Nan\" Lee", "ann@b.c", by decide +kernel⟩
  have haddr : '<' ∉ a.addr.toList := by decide
  have hescaped : String.ofList (QuotedString.escape a.name.toList) = "Ann \\\"Nan\\\" Lee" := by
    decide +kernel
  refine ⟨a, _, a.ofParts_parts, haddr, a.parse_display haddr, hescaped, ?_⟩
  intro heq
  have hname : "Ann \\\"Nan\\\" Lee" = a.name := hescaped.symm.trans (congrArg name heq)
  exact absurd hname (by decide)

end Address

end MimeMail
