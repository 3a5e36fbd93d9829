import MimeMail.Proofs.Message.Header

namespace MimeMail

open Text Wire

/-- The fields that a composed message may have, in their order. -/
def composerNames : List String :=
  ["Message-ID", "Date", "Subject", "From", "Reply-To", "To", "Cc", "MIME-Version", "Content-Type",
    "Content-Transfer-Encoding"]

/-- The fields that anything inside a container may have. -/
def partNames : List String :=
  ["Content-Type", "Content-Disposition", "Content-ID", "Content-Transfer-Encoding"]

/-- All header sections in a tree have fields with some of the given names, in their order. -/
inductive Wire.Tree.Headed (names : List String) : Tree → Prop
  | leaf {fields : List Field} {content : Bytes} :
      (fields.map Field.name).Sublist names → Headed names (.leaf fields content)
  | container {fields : List Field} {kind : Kind} {children : List Tree} :
      (fields.map Field.name).Sublist names → (∀ t ∈ children, Headed names t) →
      Headed names (.container fields kind children)

theorem Wire.headed_containerTree {token : List Char} {kind : Kind} {children : List Tree}
    (h : ∀ t ∈ children, t.Headed partNames) :
    (containerTree token kind children).Headed partNames := by
  have hnames : ["Content-Type"].Sublist partNames := by decide
  exact .container hnames h

theorem Wire.headed_bodyLeaf (contentType encoding : String) (content : Bytes) :
    (bodyLeaf contentType encoding content).Headed partNames := by
  have hnames : ["Content-Type", "Content-Transfer-Encoding"].Sublist partNames := by decide
  exact .leaf hnames

theorem Field.write_break (name : String) (value : List Char) (f : Field) :
    (⟨name, value ++ lineBreak ++ f.text⟩ : Field).write =
      (⟨name, value⟩ : Field).write ++ f.write := by
  simp only [write_eq, text, List.append_assoc]

section

variable [Backend]

theorem Related.headed_tree (c : Contents) (r : Related) : (r.tree c).Headed partNames := by
  have hnames : ["Content-Type", "Content-ID", "Content-Transfer-Encoding"].Sublist partNames := by
    decide
  exact .leaf hnames

theorem Attachment.headed_tree (c : Contents) (a : Attachment) :
    (a.tree c).Headed partNames := by
  have hnames : ["Content-Type", "Content-Disposition", "Content-Transfer-Encoding"].Sublist
      partNames := by decide
  exact .leaf hnames

theorem Part.headed_leafTree (c : Contents) (q : Part) : (q.leafTree c).Headed partNames := by
  cases q with
  | plain body => exact headed_bodyLeaf _ _ _
  | html body related => exact headed_bodyLeaf _ _ _
  | other contentType encoding body related => cases encoding <;> exact headed_bodyLeaf _ _ _

theorem Part.headed_tree (c : Contents) (q : Part) (token : List Char) (index : Nat) :
    (q.tree c token index).Headed partNames := by
  rw [tree_eq]
  split
  · exact q.headed_leafTree c
  · refine headed_containerTree fun t ht ↦ ?_
    rcases List.mem_cons.mp ht with rfl | ht
    · exact q.headed_leafTree c
    · obtain ⟨r, -, rfl⟩ := List.mem_map.mp ht
      exact r.headed_tree c

namespace Message

theorem headed_entryTrees (c : Contents) (m : Message) (token : List Char) :
    ∀ t ∈ m.entryTrees c token, t.Headed partNames := by
  intro t ht
  rcases List.mem_append.mp ht with ht | ht
  · have hplain : m.plainTree? c = some t := Option.mem_toList.mp ht
    rw [plainTree?] at hplain
    split at hplain
    · obtain rfl := Option.some.inj hplain
      exact headed_bodyLeaf _ _ _
    · cases hplain
  · obtain ⟨⟨q, i⟩, -, rfl⟩ := List.mem_map.mp ht
    exact q.headed_tree c token i

theorem headed_tree (c : Contents) (m : Message) (token : List Char) :
    (m.tree c token).Headed partNames := by
  have hentries := m.headed_entryTrees c token
  have hbody : (m.bodyTree c token).Headed partNames := by
    rw [bodyTree]
    split
    · rename_i t _ ht
      exact hentries t (by rw [ht]; exact List.mem_singleton_self t)
    · exact headed_containerTree hentries
  rw [tree_eq]
  split
  · exact hbody
  · refine headed_containerTree fun t ht ↦ ?_
    rcases List.mem_cons.mp ht with rfl | ht
    · exact hbody
    · obtain ⟨a, -, rfl⟩ := List.mem_map.mp ht
      exact a.headed_tree c

theorem sublist_headerNames (m : Message) (author : Address) :
    (m.headerNames author).Sublist composerNames := by
  rw [headerNames]
  split <;> split <;> split <;> decide

/-- No field is injected. If no line ends inside of the texts that go into fields as they are, the
header section reads as it is meant, with fields of the composer in their order, each at most once,
and so do those of everything inside a container. -/
theorem no_field_injected {m m' : Message} {registry : Option Registry} {clock : Int}
    {tokens : String → Bytes → String} {read : FileReader} {data : Backend.Data} {out : List Char}
    (hc : m.compose registry (.at clock tokens) read data = (m', .ok out)) (hm : m.Clean InLine)
    (ht : ∀ c ∈ (Stamp.at clock tokens m'.subject.text).token.toList, InLine c) :
    let stamp := Stamp.at clock tokens m'.subject.text
    let token := stamp.token.toList
    let names := (readFields (lines out)).map Field.name
    names.Sublist composerNames ∧ names.Nodup ∧
    ∃ author, m.resolveAuthor registry = some author ∧
      readFields (lines out) = m'.header author stamp ∧
      readTree token out =
        some ((m'.tree .held token).behind ((m'.fields author stamp).map Field.unfolded)) ∧
      (m'.tree .held token).Headed partNames := by
  intro stamp token names
  obtain ⟨author, hauthor, -, rfl⟩ := compose_ok hc
  have hclean := hm.of_source_eq (source_compose hc)
  have hparts := parts_ne_nil_of_compose hc
  have hdate := Stamp.inLine_date clock tokens m'.subject.text
  have hread := readFields_of_inLine hclean hparts author hdate ht
  have hnames : names.Sublist composerNames := by
    have hheader : names = m'.headerNames author := by
      rw [← names_header hparts author stamp, ← hread]
    rw [hheader]
    exact m'.sublist_headerNames author
  exact ⟨hnames, hnames.nodup (by decide), author, hauthor, hread,
    readTree_of_inLine hclean hparts author hdate ht, m'.headed_tree .held token⟩

end Message

end

namespace Message

theorem letter_no_field_injected :
    ((readFields (lines (readLetter.write .zoe
        (.at 0 (fun _ _ ↦ "T") letter.subject.text)))).map Field.name).Nodup ∧
      (readLetter.tree .held ['T']).Headed partNames := by
  have hclean : letter.Clean InLine := by
    constructor <;> decide
  obtain ⟨-, hnodup, -, -, -, -, hheaded⟩ :=
    no_field_injected (compose_letter (.at 0 fun _ _ ↦ "T")) hclean (by decide)
  exact ⟨hnodup, hheaded⟩

end Message

section

variable [Backend]

namespace Message

theorem writeFields_domain_break {m : Message} {d : List Char} {f : Field}
    (h : m.domain = some (String.ofList (d ++ lineBreak ++ f.text))) (author : Address)
    (stamp : Stamp) :
    writeFields (m.fields author stamp) =
      writeFields (⟨"Message-ID", '<' :: stamp.token.toList ++ '@' :: d⟩ ::
        { f with value := f.value ++ ['>'] } :: (m.fields author stamp).tail) := by
  -- The angle bracket that closes the Message-ID ends up behind the second line.
  have hid : '<' :: stamp.token.toList ++ '@' :: (m.domain.getD author.domain).toList ++ ['>'] =
      ('<' :: stamp.token.toList ++ '@' :: d) ++ lineBreak ++
        ({ f with value := f.value ++ ['>'] } : Field).text := by
    rw [h, Option.getD_some, String.toList_ofList]
    simp [Field.text]
  have hfields : m.fields author stamp =
      ⟨"Message-ID", '<' :: stamp.token.toList ++ '@' :: (m.domain.getD author.domain).toList ++
        ['>']⟩ :: (m.fields author stamp).tail := rfl
  rw [hfields, hid, writeFields, List.flatMap_cons, Field.write_break, List.append_assoc]
  rfl

section

variable {d : List Char} {f : Field} (hd : ∀ c ∈ d, InLine c) (hf : f.Sound InLine)
include hd hf

theorem readFields_domain_break {m : Message}
    (hdomain : m.domain = some (String.ofList (d ++ lineBreak ++ f.text)))
    (hm : ({ m with domain := none } : Message).Clean InLine) (hparts : m.parts ≠ [])
    (author : Address) {stamp : Stamp} (hdate : ∀ c ∈ stamp.date.toList, InLine c)
    (ht : ∀ c ∈ stamp.token.toList, InLine c) :
    readFields (lines (m.write author stamp)) =
      ⟨"Message-ID", '<' :: stamp.token.toList ++ '@' :: d⟩ ::
        ⟨f.name, deleteBreaks f.value ++ ['>']⟩ :: (m.header author stamp).tail := by
  let messageId : Field := ⟨"Message-ID", '<' :: stamp.token.toList ++ '@' :: d⟩
  let injected : Field := { f with value := f.value ++ ['>'] }
  have hid : ∀ c ∈ messageId.value, InLine c := by
    simp only [messageId, List.forall_mem_append, List.forall_mem_cons]
    exact ⟨⟨by decide, ht⟩, by decide, hd⟩
  have hclose : Folded InLine ['>'] := .of_forall (by decide)
  have hfields : ∀ g ∈ messageId :: injected :: (m.fields author stamp).tail, g.Sound InLine := by
    have hrest := sound_fields (fun _ h ↦ h.inLine) hm author hdate ht
    rw [List.forall_mem_cons, List.forall_mem_cons]
    exact ⟨⟨(by decide : Field.isName "Message-ID" = true), .of_forall hid⟩,
      ⟨hf.name, hf.value.append hclose⟩, fun g hg ↦ hrest g (List.mem_of_mem_tail hg)⟩
  have hentity : ∀ g ∈ m.entity.head stamp.token.toList, g.Sound InLine :=
    (carries_tree (fun _ h ↦ h.inLine) (fun _ h ↦ h) ht hm hparts).sound_head
      (fun _ h ↦ h.inLine) ht
  have hinjected : injected.unfolded = ⟨f.name, deleteBreaks f.value ++ ['>']⟩ :=
    congrArg (Field.mk f.name) (hf.value.deleteBreaks_append (fun _ h ↦ h) ['>'])
  rw [write, writeFields_domain_break hdomain, readFields_writeFields ht hfields hentity,
    List.map_append, List.map_cons, List.map_cons, Field.unfolded_of_inLine hid, hinjected,
    List.cons_append, List.cons_append, ← List.map_append]
  rfl

/-- A domain of two lines injects the field that its second line is. -/
theorem domain_injects {m m' : Message} {registry : Option Registry} {clock : Int}
    {tokens : String → Bytes → String} {read : FileReader} {data : Backend.Data} {out : List Char}
    (hc : m.compose registry (.at clock tokens) read data = (m', .ok out))
    (hdomain : m.domain = some (String.ofList (d ++ lineBreak ++ f.text)))
    (hm : ({ m with domain := none } : Message).Clean InLine)
    (ht : ∀ c ∈ (Stamp.at clock tokens m'.subject.text).token.toList, InLine c) :
    let stamp := Stamp.at clock tokens m'.subject.text
    ∃ author, m.resolveAuthor registry = some author ∧
      readFields (lines out) = ⟨"Message-ID", '<' :: stamp.token.toList ++ '@' :: d⟩ ::
        ⟨f.name, deleteBreaks f.value ++ ['>']⟩ :: (m'.header author stamp).tail := by
  intro stamp
  obtain ⟨author, hauthor, -, rfl⟩ := compose_ok hc
  have hsource := source_compose hc
  have hdate := Stamp.inLine_date clock tokens m'.subject.text
  have hdomain' : m'.source.domain = m.source.domain := congrArg Message.domain hsource
  have hbare : ({ m' with domain := none } : Message).Clean InLine :=
    hm.of_source_eq (congrArg (fun x : Message ↦ { x with domain := none }) hsource)
  exact ⟨author, hauthor, readFields_domain_break (m := m') hd hf (hdomain'.trans hdomain)
    hbare (parts_ne_nil_of_compose hc) author hdate ht⟩

end

end Message

end

namespace Message

/-- A message with a domain of two lines, the second of which is a field for secret recipients. -/
def forged : Message :=
  { quick "S" (some "x") none with
    domain := some "x.y>\r\nBcc: <v@b.c"
    author := some { Address.zoe with name := "Ann" } }

theorem forged_domain_injects :
    ∃ m' out, forged.compose none (.at 1377853811 fun _ _ ↦ "TOKEN") (fun _ ↦ .error .notFound)
        Data.Value.null = (m', .ok out) ∧
      "Bcc" ∈ (readFields (lines out)).map Field.name ∧ "Bcc" ∉ composerNames := by
  have hclean : ({ forged with domain := none } : Message).Clean InLine := by
    constructor <;> decide
  have hfield : (⟨"Bcc", "<v@b.c".toList⟩ : Field).Sound InLine :=
    ⟨by decide, .of_forall (by decide)⟩
  have hc : forged.compose none (.at 1377853811 fun _ _ ↦ "TOKEN") (fun _ ↦ .error .notFound)
      Data.Value.null = (forged, .ok (forged.write { Address.zoe with name := "Ann" }
        (.at 1377853811 (fun _ _ ↦ "TOKEN") "S"))) := rfl
  have hdomain : forged.domain = some (String.ofList ("x.y>".toList ++ lineBreak ++
      Field.text ⟨"Bcc", "<v@b.c".toList⟩)) := by decide
  obtain ⟨author, -, hread⟩ := domain_injects (by decide) hfield hc hdomain hclean (by decide)
  refine ⟨_, _, hc, ?_, by decide⟩
  rw [hread]
  simp

end Message

end MimeMail
