import MimeMail.Proofs.Message.Run
import MimeMail.Proofs.Message.Tree
import MimeMail.Proofs.Wire.Broken

namespace MimeMail

open Text Wire

theorem Wire.readFields_writeFields {token : List Char} (ht : ∀ c ∈ token, InLine c)
    {fs : List Field} {e : Entity} (hfs : ∀ f ∈ fs, f.Sound InLine)
    (he : ∀ f ∈ e.head token, f.Sound InLine) :
    readFields (lines (writeFields fs ++ e.write token)) =
      (fs ++ e.head token).map Field.unfolded := by
  obtain ⟨ls, hls⟩ := lines_head ht e
  have hentity : lines (e.write token) = e.lines token ++ [[]] := by
    have h := lines_entity token e []
    rwa [List.append_nil] at h
  rw [lines_writeFields, hentity, hls, List.append_assoc, ← List.append_assoc, List.cons_append,
    ← fieldLines_append]
  exact readFields_fieldLines (List.forall_mem_append.mpr ⟨hfs, he⟩) _

theorem Stamp.inLine_date (clock : Int) (tokens : String → Bytes → String) (subject : String) :
    ∀ c ∈ (Stamp.at clock tokens subject).date.toList, InLine c :=
  fun c hc ↦ ((Date.ofSeconds clock).printable_text c hc).inLine

section

variable [Backend]

namespace Message

/-- Whether the body of a message is its only part. -/
def isLeaf (m : Message) : Bool :=
  m.attachments.isEmpty &&
    match m.parts with
    | [q] => !q.isHtml && q.related.isEmpty
    | _ => false

def headerNames (m : Message) (author : Address) : List String :=
  ["Message-ID", "Date", "Subject", "From"] ++
  (if m.replyTo.any (·.addr != author.addr) then ["Reply-To"] else []) ++
  ["To"] ++
  (if m.cc.isEmpty then [] else ["Cc"]) ++
  ["MIME-Version", "Content-Type"] ++
  (if m.isLeaf then ["Content-Transfer-Encoding"] else [])

theorem isLeaf_source (m : Message) : m.source.isLeaf = m.isLeaf := by
  have hhtml (q : Part) : q.source.isHtml = q.isHtml := by cases q <;> rfl
  rw [isLeaf, isLeaf, source]
  cases m.parts with
  | nil => simp
  | cons q qs =>
    cases qs with
    | nil => simp [hhtml, q.related_source]
    | cons r qs => simp

theorem headerNames_source (m : Message) (author : Address) :
    m.source.headerNames author = m.headerNames author := by
  rw [headerNames, isLeaf_source]
  rfl

theorem names_leaf (q : Part) (token : List Char) :
    (q.leaf.head token).map Field.name = ["Content-Type", "Content-Transfer-Encoding"] := by
  rw [Part.leaf]
  cases q.encoding <;> rfl

theorem bodyEntity_single {m : Message} {q : Part} (h : m.parts = [q]) (hq : q.isHtml = false) :
    m.bodyEntity = q.entity 0 := by
  have hsynthesized : m.synthesized? = none := by
    have hfind : m.parts.find? Part.isHtml = none := by
      rw [h, List.find?_cons_of_neg (by rw [hq]; exact Bool.false_ne_true), List.find?_nil]
    rw [synthesized?, hfind]
    rfl
  have hentries : m.entries = [q.entity 0] := by
    rw [entries, hsynthesized, h]
    rfl
  have hone : m.isAlternative = false := by
    rw [isAlternative, h]
    simp [hq]
  rw [bodyEntity, hone, hentries]

theorem bodyEntity_many {m : Message} (h : m.isAlternative = true) :
    m.bodyEntity = .container .alternative m.entries := by
  rw [bodyEntity, h]

theorem names_head {m : Message} (hparts : m.parts ≠ []) (token : List Char) :
    (m.entity.head token).map Field.name =
      "Content-Type" :: if m.isLeaf then ["Content-Transfer-Encoding"] else [] := by
  by_cases ha : m.attachments.isEmpty = true
  · have hentity : m.entity = m.bodyEntity := if_pos ha
    rw [hentity, isLeaf, ha, Bool.true_and]
    obtain ⟨q, qs, hq⟩ := List.exists_cons_of_ne_nil hparts
    cases qs with
    | nil =>
      rw [hq]
      by_cases hhtml : q.isHtml = true
      · rw [bodyEntity_many (by rw [isAlternative, hq]; simp [hhtml])]
        simp [Entity.head, hhtml, containerField]
      · rw [Bool.not_eq_true] at hhtml
        rw [bodyEntity_single hq hhtml, Part.entity]
        by_cases hr : q.related.isEmpty = true
        · rw [if_pos hr, names_leaf]
          simp [hhtml, hr]
        · rw [if_neg hr]
          simp [Entity.head, hr, containerField]
    | cons r qs =>
      rw [bodyEntity_many (by rw [isAlternative, hq]; simp), hq]
      rfl
  · have hentity : m.entity =
        .container .mixed (m.bodyEntity :: m.attachments.map Attachment.entity) := if_neg ha
    rw [Bool.not_eq_true] at ha
    rw [hentity, isLeaf, ha]
    rfl

/-- The header section that a message is meant to have, without folds. -/
def header (m : Message) (author : Address) (stamp : Stamp) : List Field :=
  (m.fields author stamp ++ m.entity.head stamp.token.toList).map Field.unfolded

theorem names_header {m : Message} (hparts : m.parts ≠ []) (author : Address) (stamp : Stamp) :
    (m.header author stamp).map Field.name = m.headerNames author := by
  have hunfolded (fs : List Field) :
      (fs.map Field.unfolded).map Field.name = fs.map Field.name := by
    rw [List.map_map]
    rfl
  rw [header, hunfolded, List.map_append, names_fields, names_head hparts, headerNames]
  simp only [List.append_assoc, List.cons_append, List.nil_append]

theorem readFields_of_inLine {m : Message} (hm : m.Clean InLine) (hparts : m.parts ≠ [])
    (author : Address) {stamp : Stamp} (hdate : ∀ c ∈ stamp.date.toList, InLine c)
    (ht : ∀ c ∈ stamp.token.toList, InLine c) :
    readFields (lines (m.write author stamp)) = m.header author stamp := by
  have hp : ∀ c, Printable c → InLine c := fun _ h ↦ h.inLine
  have hfields := sound_fields hp hm author hdate ht
  have hcarries := carries_tree hp (fun _ h ↦ h) ht hm hparts
  exact readFields_writeFields ht hfields (hcarries.sound_head hp ht)

theorem readTree_of_inLine {m : Message} (hm : m.Clean InLine) (hparts : m.parts ≠ [])
    (author : Address) {stamp : Stamp} (hdate : ∀ c ∈ stamp.date.toList, InLine c)
    (ht : ∀ c ∈ stamp.token.toList, InLine c) :
    readTree stamp.token.toList (m.write author stamp) =
      some ((m.tree .held stamp.token.toList).behind
        ((m.fields author stamp).map Field.unfolded)) := by
  have hp : ∀ c, Printable c → InLine c := fun _ h ↦ h.inLine
  have hfields := sound_fields hp hm author hdate ht
  have hcarries := carries_tree hp (fun _ h ↦ h) ht hm hparts
  exact hcarries.readTree ht fun f hf ↦
    ⟨hfields f hf, m.isEncodingField_fields author stamp f hf⟩

section

variable {m : Message} (hm : m.Clean Printable) (hparts : m.parts ≠ []) (author : Address)
  {stamp : Stamp} (hdate : ∀ c ∈ stamp.date.toList, Printable c)
  (ht : ∀ c ∈ stamp.token.toList, Printable c)
include hm hparts hdate ht

theorem sound_carries {p : Char → Prop} (hp : ∀ c, Printable c → p c)
    (hline : ∀ c, p c → InLine c) :
    (∀ f ∈ m.fields author stamp, f.Sound p) ∧
      Carries p stamp.token.toList m.entity (m.tree .held stamp.token.toList) := by
  have hclean : m.Clean p := hm.mono hp
  have htoken : ∀ c ∈ stamp.token.toList, p c := fun c hc ↦ hp c (ht c hc)
  exact ⟨sound_fields hp hclean author (fun c hc ↦ hp c (hdate c hc)) htoken,
    carries_tree hp hline (fun c hc ↦ hline c (htoken c hc)) hclean hparts⟩

theorem broken_write : Broken Plain (m.write author stamp) := by
  have hp : ∀ c, Printable c → Plain c := fun _ h ↦ .inr h
  obtain ⟨hfields, hcarries⟩ := sound_carries hm hparts author hdate ht hp fun _ h ↦ h.inLine
  exact (broken_writeFields _ hfields).append (hcarries.broken fun c hc ↦ hp c (ht c hc))

theorem readFields_write :
    readFields (lines (m.write author stamp)) =
      (m.fields author stamp ++ m.entity.head stamp.token.toList).map Field.unfolded := by
  have hp : ∀ c, Printable c → InLine c := fun _ h ↦ h.inLine
  exact readFields_of_inLine (hm.mono hp) hparts author (fun c hc ↦ hp c (hdate c hc))
    fun c hc ↦ hp c (ht c hc)

theorem names_write :
    (readFields (lines (m.write author stamp))).map Field.name = m.headerNames author := by
  rw [readFields_write hm hparts author hdate ht]
  exact names_header hparts author stamp

end

theorem bcc_not_mem_headerNames (m : Message) (author : Address) :
    "Bcc" ∉ m.headerNames author := by
  rw [headerNames]
  split <;> split <;> split <;> decide

/-- The header section is exactly the intended fields, whatever the texts of the message hold. The
output is ASCII, its carriage returns and line feeds stand in line breaks only, and up to its first
empty line it reads as the fields that were written, each with its whole value. -/
theorem header_reads_back {m m' : Message} {registry : Option Registry} {clock : Int}
    {tokens : String → Bytes → String} {read : FileReader} {data : Backend.Data} {out : List Char}
    (hc : m.compose registry (.at clock tokens) read data = (m', .ok out)) (hm : m.Clean Printable)
    (ht : ∀ c ∈ (Stamp.at clock tokens m'.subject.text).token.toList, Printable c) :
    (∀ c ∈ out, c.toNat < 128) ∧
    (∀ u v, out = u ++ '\r' :: v → v.head? = some '\n') ∧
    (∀ u v, out = u ++ '\n' :: v → u.getLast? = some '\r') ∧
    ∃ author, m.resolveAuthor registry = some author ∧
      readFields (lines out) =
        (m'.fields author (.at clock tokens m'.subject.text) ++ m'.entity.head
          (Stamp.at clock tokens m'.subject.text).token.toList).map Field.unfolded ∧
      (readFields (lines out)).map Field.name = m.headerNames author ∧
      "Bcc" ∉ m.headerNames author := by
  obtain ⟨author, hauthor, -, rfl⟩ := compose_ok hc
  have hsource := source_compose hc
  have hclean := hm.of_source_eq hsource
  have hparts := parts_ne_nil_of_compose hc
  have hdate : ∀ c ∈ (Stamp.at clock tokens m'.subject.text).date.toList, Printable c :=
    (Date.ofSeconds clock).printable_text
  have hbroken := broken_write hclean hparts author hdate ht
  have hnames : m'.headerNames author = m.headerNames author := by
    rw [← headerNames_source, hsource, headerNames_source]
  refine ⟨fun c hc ↦ ?_, fun u v huv ↦ ?_, fun u v huv ↦ ?_, author, hauthor,
    readFields_write hclean hparts author hdate ht, ?_, m.bcc_not_mem_headerNames author⟩
  · rcases hbroken.mem hc with h | rfl | rfl
    · exact h.toNat_lt
    · decide
    · decide
  · rw [huv] at hbroken
    exact hbroken.behind_cr fun _ h ↦ h.inLine
  · rw [huv] at hbroken
    exact hbroken.before_lf fun _ h ↦ h.inLine
  · rw [← hnames]
    exact names_write hclean hparts author hdate ht

end Message

end

namespace Message

theorem letter_header_reads_back :
    ∃ author, letter.resolveAuthor none = some author ∧
      (readFields (lines (readLetter.write .zoe
        (.at 0 (fun _ _ ↦ "T") letter.subject.text)))).map Field.name =
      letter.headerNames author := by
  have hclean : letter.Clean Printable := by
    constructor <;> decide
  obtain ⟨-, -, -, author, hauthor, -, hnames, -⟩ :=
    header_reads_back (compose_letter (.at 0 fun _ _ ↦ "T")) hclean (by decide)
  exact ⟨author, hauthor, hnames⟩

end Message

end MimeMail
