import MimeMail.Proofs.Address.Header
import MimeMail.Proofs.Encoding.QuotedString
import MimeMail.Proofs.Encoding.WordLines
import MimeMail.Proofs.Message.Composed
import MimeMail.Proofs.Message.Run
import MimeMail.Proofs.Wire.Entity

namespace MimeMail

open Encoding Encoding.EncodedWord Encoding.QuotedString Text

namespace Encoding.EncodedWord

theorem marks_byte (b : UInt8) : marks (Place.header.byte b) = marks [Char.ofNat b.toNat] ∧
    (0x80 ≤ b → marks (Place.header.byte b) = 0) := by
  revert b
  apply forall_byte
  decide +kernel

theorem marks_unit_of_escaped {u : Bytes} (h : ∀ b ∈ u, 0x80 ≤ b) :
    marks (Place.header.unit u) = 0 := by
  induction u with
  | nil => rfl
  | cons b u ih =>
    obtain ⟨hb, hu⟩ := List.forall_mem_cons.mp h
    have hrest := ih hu
    rw [Place.unit] at hrest ⊢
    rw [List.flatMap_cons, marks_append, (marks_byte b).2 hb, hrest]

theorem marks_char (c : Char) :
    marks (Place.header.unit (String.utf8EncodeChar c)) = marks [c] := by
  rcases Nat.lt_or_ge c.toNat 128 with hc | hc
  · rw [utf8EncodeChar_of_lt hc, Place.unit, List.flatMap_singleton, (marks_byte _).1,
      UInt8.toNat_ofNat', Nat.mod_eq_of_lt (Nat.lt_trans hc (by decide)), Char.ofNat_toNat]
  · obtain ⟨b, run, he, hb⟩ := utf8EncodeChar_of_ge hc
    have htail := tail_utf8EncodeChar c
    rw [he, List.tail_cons] at htail
    have hescaped : ∀ d ∈ b :: run, 0x80 ≤ d :=
      List.forall_mem_cons.mpr ⟨UInt8.le_trans (by decide) hb, fun d hd ↦ (htail d hd).1⟩
    have hmark : isMark c = false := by
      rw [isMark, Bool.or_eq_false_iff, beq_eq_false_iff_ne, beq_eq_false_iff_ne]
      constructor
      · rintro rfl
        exact absurd hc (by decide)
      · rintro rfl
        exact absurd hc (by decide)
    rw [he, marks_unit_of_escaped hescaped, eq_comm, marks_eq_zero, List.forall_mem_singleton]
    exact hmark

theorem marks_word (t : List Char) : marks (word (units (utf8 t))) = marks t := by
  have hpayload : marks (payload (units (utf8 t))) = marks t := by
    rw [units_utf8]
    induction t with
    | nil => rfl
    | cons c t ih =>
      rw [List.map_cons, payload_cons, marks_append, marks_char, ih, ← marks_append,
        List.singleton_append]
  have hopening : marks opening = 0 := by decide
  have hclosing : marks closing = 0 := by decide
  rw [word, marks_append, marks_append, hpayload, hopening, hclosing, Nat.zero_add, Nat.add_zero]

end Encoding.EncodedWord

namespace Attachment

def parameterStart : List Char :=
  "\tfilename=".toList

def nameParameter (name : String) : List Char :=
  parameterStart ++ quotedName name

/-- What stands before a name on its first line. -/
def nameOpening : List Char :=
  parameterStart ++ ['"']

/-- The line with a piece of a name on it, which begins with `start`. -/
def nameLine (start t : List Char) : Line :=
  start ++ escape (word (units (utf8 t)))

variable {name : String}

theorem length_nameLine (start t : List Char) :
    (nameLine start t).length = start.length + (word (units (utf8 t))).length + marks t := by
  rw [nameLine, List.length_append, length_escape, marks_word, Nat.add_assoc]

theorem nameParameter_eq (h : ∃ c ∈ name.toList, ¬ Printable c) :
    nameParameter name =
      nameOpening ++ escape (EncodedWord.encode (utf8 name.toList) nameColumn).text ++ ['"'] := by
  have hprintable : (utf8 name.toList).all isPrintable ≠ true := by
    obtain ⟨c, hc, hnot⟩ := h
    exact fun hall ↦ hnot (printable_of_utf8 hall c hc)
  have hquoted : quotedName name =
      '"' :: escape (EncodedWord.encode (utf8 name.toList) nameColumn).text ++ ['"'] :=
    if_neg hprintable
  rw [nameParameter, hquoted, nameOpening, List.append_assoc, List.append_assoc]
  rfl

/-- Each line of an encoded name has a piece of the name on it, and at most 76 columns before the
double quotes and backslashes get theirs. -/
theorem lines_nameParameter (h : ∃ c ∈ name.toList, ¬ Printable c) :
    ∃ chunk chunks, chunk ++ List.flatten chunks = name.toList ∧
      lines (nameParameter name) =
        (nameLine nameOpening chunk :: chunks.map (nameLine [' '])).modifyLast (· ++ ['"']) ∧
      nameOpening.length + (word (units (utf8 chunk))).length ≤ 76 ∧
      ∀ t ∈ chunks, 1 + (word (units (utf8 t))).length ≤ 76 := by
  have hparameter := nameParameter_eq h
  obtain ⟨c, hc, -⟩ := h
  obtain ⟨d, cs, hname⟩ := List.exists_cons_of_ne_nil (List.ne_nil_of_mem hc)
  rw [hname] at hparameter ⊢
  obtain ⟨chunk, chunks, hchunks, htext, hfirst, hall⟩ := encode_chunks d cs nameColumn
  have hstart : max nameColumn 1 = nameOpening.length := by decide
  rw [hstart] at htext hfirst
  -- The opening leaves room for the first character, so that the first word is never late.
  have hfits : Fits (nameOpening.length + opening.length) [String.utf8EncodeChar d] :=
    fits_char d (by decide)
  rw [if_pos hfits, List.nil_append] at htext
  have hopening : ∀ c ∈ nameOpening, InLine c := by decide
  have hquote : ∀ c ∈ ['"'], InLine c := by decide
  have hlines := lines_foldedWords (inLine_word (units (utf8 chunk)))
    (chunks.map fun t ↦ units (utf8 t))
  refine ⟨chunk, chunks, hchunks, ?_, length_word_le (hfirst hfits), fun t ht ↦ ?_⟩
  · rw [hparameter, htext, lines_append_inLine _ hquote, lines_append hopening, lines_escape,
      hlines, List.map_cons, List.modifyHead_cons, List.map_map, List.map_map]
    rfl
  · exact length_word_le (hall t (List.mem_cons_of_mem chunk ht)).2

theorem length_modifyLast_le {ls : List Line} {n : Nat} (h : ∀ l ∈ ls, l.length ≤ n) :
    ∀ l ∈ ls.modifyLast (· ++ ['"']), l.length ≤ n + 1 := by
  intro l hl
  obtain rfl | ⟨init, last, rfl⟩ := List.eq_nil_or_concat ls
  · cases hl
  · rw [List.concat_eq_append] at h hl
    rw [List.modifyLast_concat, List.mem_append, List.mem_singleton] at hl
    rcases hl with hl | rfl
    · exact Nat.le_succ_of_le (h l (List.mem_append_left _ hl))
    · rw [List.length_append]
      exact Nat.succ_le_succ (h last (by simp))

theorem write_disposition (name : String) :
    (⟨"Content-Disposition", "attachment;\r\n\tfilename=".toList ++ quotedName name⟩ :
      Field).write =
        "Content-Disposition: attachment;".toList ++ '\r' :: '\n' ::
          (nameParameter name ++ ['\r', '\n']) := by
  have hstart : "Content-Disposition".toList ++ ": ".toList ++ "attachment;\r\n\tfilename=".toList =
      "Content-Disposition: attachment;".toList ++ '\r' :: '\n' :: parameterStart := by decide
  have hbreak : Wire.lineBreak = ['\r', '\n'] := rfl
  rw [Field.write, nameParameter, ← List.append_assoc, hstart, hbreak]
  simp only [List.append_assoc, List.cons_append]

theorem lines_nameParameter_isInfix {a : Attachment} {token out : List Char}
    (h : a.entity.write token <:+: out) : lines (nameParameter a.name) <:+: lines out := by
  obtain ⟨before, after, rfl⟩ := h
  have hout : before ++ a.entity.write token ++ after =
      (before ++ (Wire.typeField a.contentType).write ++
        "Content-Disposition: attachment;".toList) ++ '\r' :: '\n' ::
      (nameParameter a.name ++ '\r' :: '\n' :: ((Wire.encodingField "base64").write ++
        (Wire.lineBreak ++ Base64.encode (a.payload.data?.getD []) ++ Wire.lineBreak ++
          after))) := by
    rw [entity, Wire.Entity.write, Wire.writeFields, List.flatMap_cons, List.flatMap_cons,
      write_disposition, List.flatMap_singleton]
    simp only [List.append_assoc, List.cons_append, List.nil_append]
  rw [hout]
  exact lines_isInfix _ _ _

end Attachment

section

variable [Backend]

theorem Attachment.exists_name_of_source_eq {m m' : Message} (h : m'.source = m.source)
    {a : Attachment} (ha : a ∈ m.attachments) : ∃ b ∈ m'.attachments, b.name = a.name := by
  have hattachments : m'.attachments.map Attachment.source = m.attachments.map Attachment.source :=
    congrArg Message.attachments h
  have hsource : a.source ∈ m'.attachments.map Attachment.source :=
    hattachments ▸ List.mem_map_of_mem ha
  obtain ⟨b, hb, hba⟩ := List.mem_map.mp hsource
  have hname := congrArg Attachment.name hba
  exact ⟨b, hb, hname⟩

namespace Message

open Attachment

variable {m m' : Message} {registry : Option Registry} {stamp : String → Stamp} {read : FileReader}
  {data : Backend.Data} {out : List Char}

theorem lines_name_isInfix (hc : m.compose registry stamp read data = (m', .ok out))
    {a : Attachment} (ha : a ∈ m.attachments) : lines (nameParameter a.name) <:+: lines out := by
  obtain ⟨b, hb, hname⟩ := exists_name_of_source_eq (source_compose hc) ha
  obtain ⟨author, -, -, rfl⟩ := compose_ok hc
  rw [← hname]
  exact lines_nameParameter_isInfix
    ((write_attachment_isInfix hb).trans (List.suffix_append ..).isInfix)

/-- A name that is not printable is cut into pieces, and each line of its parameter in the output
has the encoded word of a piece, with escapes. Its beginning and the word have at most 76 columns.
Each double quote and each backslash adds one, and so does the closing quote on the last line: the
lines have at most 78 columns if there is no more than one of them on each. -/
theorem name_lines_limited (hc : m.compose registry stamp read data = (m', .ok out))
    {a : Attachment} (ha : a ∈ m.attachments) (hname : ∃ c ∈ a.name.toList, ¬ Printable c) :
    lines (nameParameter a.name) <:+: lines out ∧
    (∃ chunk chunks, chunk ++ List.flatten chunks = a.name.toList ∧
      lines (nameParameter a.name) =
        (nameLine nameOpening chunk :: chunks.map (nameLine [' '])).modifyLast (· ++ ['"']) ∧
      nameOpening.length + (word (units (utf8 chunk))).length ≤ 76 ∧
      (∀ t ∈ chunks, 1 + (word (units (utf8 t))).length ≤ 76) ∧
      ((∀ t ∈ chunk :: chunks, marks t ≤ 1) →
        ∀ l ∈ lines (nameParameter a.name), l.length ≤ 78)) ∧
    ∀ l ∈ lines (nameParameter a.name), l.length ≤ 77 + marks a.name.toList := by
  obtain ⟨chunk, chunks, hchunks, hlines, hfirst, hrest⟩ := lines_nameParameter hname
  have hlength {n : Nat} (hn : ∀ t ∈ chunk :: chunks, marks t ≤ n) :
      ∀ l ∈ lines (nameParameter a.name), l.length ≤ 76 + n + 1 := by
    rw [hlines]
    refine length_modifyLast_le (List.forall_mem_cons.mpr ⟨?_, List.forall_mem_map.mpr ?_⟩)
    · have hmarks := hn chunk List.mem_cons_self
      rw [length_nameLine]
      omega
    · intro t ht
      have hwidth := hrest t ht
      have hmarks := hn t (List.mem_cons_of_mem chunk ht)
      rw [length_nameLine, List.length_singleton]
      omega
  refine ⟨lines_name_isInfix hc ha,
    ⟨chunk, chunks, hchunks, hlines, hfirst, hrest, fun hn ↦ hlength hn⟩, fun l hl ↦ ?_⟩
  have hall : ∀ t ∈ chunk :: chunks, marks t ≤ marks a.name.toList := by
    intro t ht
    have hpiece := List.sublist_flatten_of_mem ht
    rw [List.flatten_cons, hchunks] at hpiece
    exact hpiece.countP_le
  have hle := hlength hall l hl
  omega

end Message

end

namespace Message

open Attachment

def attaching (name : String) : Message :=
  letter.after (.edit (.attachObject name "application/pdf" []))

theorem reachable_attaching (name : String) : (attaching name).Reachable := by
  have hrun := run_letter.step (.edit (.attachObject name "application/pdf" [])) ?_
  · exact ⟨_, hrun⟩
  · simp [Event.Unread, Edit.related]

theorem compose_attaching (name : String) (stamp : String → Stamp) :
    ∃ m' out,
      (attaching name).compose none stamp (fun _ ↦ .ok [0x41]) Data.Value.null = (m', .ok out) :=
  ⟨_, _, rfl⟩

theorem mem_attachments_attaching (name : String) :
    ⟨name, "application/pdf", .memory []⟩ ∈ (attaching name).attachments :=
  List.mem_append_right _ (List.mem_singleton_self _)

theorem march_lines_limited :
    ∃ m' out, (attaching "2024\\März.pdf").compose none (fun _ ↦ ⟨"", "T"⟩)
        (fun _ ↦ .ok [0x41]) Data.Value.null = (m', .ok out) ∧
      lines (nameParameter "2024\\März.pdf") <:+: lines out ∧
      ∀ l ∈ lines (nameParameter "2024\\März.pdf"), l.length ≤ 78 := by
  obtain ⟨m', out, hc⟩ := compose_attaching "2024\\März.pdf" fun _ ↦ ⟨"", "T"⟩
  have hname : ∃ c ∈ "2024\\März.pdf".toList, ¬ Printable c := ⟨'ä', by decide, by decide⟩
  obtain ⟨hlines, -, hlimit⟩ := name_lines_limited hc (mem_attachments_attaching _) hname
  have hmarks : 77 + marks "2024\\März.pdf".toList = 78 := by decide
  exact ⟨m', out, hc, hlines, fun l hl ↦ Nat.le_trans (hlimit l hl) (Nat.le_of_eq hmarks)⟩

/-- A path for a name. It has six backslashes, all of them on its first line. -/
def invoicePath : String :=
  "C:\\Daten\\Firma\\Projekte\\2024\\Rechnungen\\März.pdf"

theorem invoicePath_exceeds_limit :
    (attaching invoicePath).Reachable ∧ (∃ c ∈ invoicePath.toList, ¬ Printable c) ∧
    ∃ m' out, (attaching invoicePath).compose none (.at 1377853811 fun _ _ ↦ "TOKEN")
        (fun _ ↦ .ok [0x41]) Data.Value.null = (m', .ok out) ∧
      lines (nameParameter invoicePath) <:+: lines out ∧
      ∃ l ∈ lines (nameParameter invoicePath), 78 < l.length := by
  have hname : ∃ c ∈ invoicePath.toList, ¬ Printable c := ⟨'ä', by decide, by decide⟩
  obtain ⟨m', out, hc⟩ := compose_attaching invoicePath (.at 1377853811 fun _ _ ↦ "TOKEN")
  have hlines := lines_name_isInfix hc (mem_attachments_attaching invoicePath)
  refine ⟨reachable_attaching invoicePath, hname, m', out, hc, hlines, ?_⟩
  decide +kernel

end Message

end MimeMail
