import MimeMail.Proofs.Address.MailboxList
import MimeMail.Proofs.Message.Header
import MimeMail.Proofs.Message.Resolve

namespace MimeMail

open Text Wire

theorem Address.addr_ne_empty (a : Address) : a.addr ≠ "" := by
  intro h
  have hvalid := a.valid
  rw [h] at hvalid
  exact absurd hvalid (by decide)

section

variable [Backend]

/-- The mailboxes that header fields give under a name that no two of them have. -/
def Wire.mailboxes? (name : String) (fs : List Field) : Option (List (String × String)) :=
  match fs.filter (·.name == name) with
  | [] => some []
  | [f] => MailboxList.read f.value
  | _ => none

namespace Message

variable {m : Message}

theorem filter_header (hparts : m.parts ≠ []) (author : Address) (stamp : Stamp) {name : String}
    (htype : name ≠ "Content-Type") (hencoding : name ≠ "Content-Transfer-Encoding") :
    (m.header author stamp).filter (·.name == name) =
      ((m.fields author stamp).filter (·.name == name)).map Field.unfolded := by
  have hhead : (m.entity.head stamp.token.toList).filter (·.name == name) = [] := by
    rw [List.filter_eq_nil_iff]
    intro f hf
    have hname := List.mem_map_of_mem (f := Field.name) hf
    rw [names_head hparts] at hname
    have hcases : f.name = "Content-Type" ∨ f.name = "Content-Transfer-Encoding" := by
      split at hname <;> simp_all
    rcases hcases with h | h
    · simpa [h] using htype.symm
    · simpa [h] using hencoding.symm
  have hunfolded : (fun f : Field ↦ f.name == name) ∘ Field.unfolded = (·.name == name) := rfl
  rw [header, List.filter_map, hunfolded, List.filter_append, hhead, List.append_nil]

section

variable (m) (author : Address) (stamp : Stamp)

theorem from_fields : (m.fields author stamp).filter (·.name == "From") =
    [⟨"From", Address.encodeList [author] 6⟩] := by
  have hlist : Address.encodeList [author] 6 = (author.encode 6).text := List.append_nil _
  simp [fields, List.filter_map, Function.comp_def, hlist]

theorem to_fields : (m.fields author stamp).filter (·.name == "To") =
    [⟨"To", Address.encodeList (if m.addressees.isEmpty then [author] else m.addressees) 4⟩] := by
  simp [fields, List.filter_map, Function.comp_def]

theorem cc_fields : (m.fields author stamp).filter (·.name == "Cc") =
    if m.cc.isEmpty then [] else [⟨"Cc", Address.encodeList m.cc 4⟩] := by
  simp [fields, List.filter_map, Function.comp_def]

end

theorem mailboxes_header (hparts : m.parts ≠ []) {author : Address} {stamp : Stamp} {name : String}
    {list : List Address} {offset : Nat} (htype : name ≠ "Content-Type")
    (hencoding : name ≠ "Content-Transfer-Encoding")
    (h : (m.fields author stamp).filter (·.name == name) =
      [⟨name, Address.encodeList list offset⟩]) :
    mailboxes? name (m.header author stamp) = some (list.map fun a ↦ (a.name, a.addr)) := by
  rw [mailboxes?, filter_header hparts author stamp htype hencoding, h]
  exact MailboxList.read_encodeList list offset

theorem mailboxes_from (hparts : m.parts ≠ []) (author : Address) (stamp : Stamp) :
    mailboxes? "From" (m.header author stamp) = some [(author.name, author.addr)] :=
  mailboxes_header hparts (by decide) (by decide) (m.from_fields author stamp)

theorem mailboxes_to (hparts : m.parts ≠ []) (author : Address) (stamp : Stamp) :
    mailboxes? "To" (m.header author stamp) =
      some ((if m.addressees.isEmpty then [author] else m.addressees).map
        fun a ↦ (a.name, a.addr)) :=
  mailboxes_header hparts (by decide) (by decide) (m.to_fields author stamp)

theorem mailboxes_cc (hparts : m.parts ≠ []) (author : Address) (stamp : Stamp) :
    mailboxes? "Cc" (m.header author stamp) = some (m.cc.map fun a ↦ (a.name, a.addr)) := by
  have hfields := m.cc_fields author stamp
  cases hcc : m.cc with
  | nil =>
    rw [hcc] at hfields
    rw [mailboxes?, filter_header hparts author stamp (by decide) (by decide), hfields]
    rfl
  | cons a as =>
    rw [hcc] at hfields
    exact mailboxes_header hparts (by decide) (by decide) hfields

end Message

theorem Message.recipients_ne_nil {m : Message} {registry : Option Registry} {author : Address}
    (h : m.resolveAuthor registry = some author) : m.recipients registry ≠ [] := by
  have hdistinct {xs : List String} (hxs : xs ≠ []) : distinct xs ≠ [] := by
    cases xs with
    | nil => exact absurd rfl hxs
    | cons x xs => exact List.cons_ne_nil x _
  rw [recipients, h]
  apply hdistinct
  split <;> simp_all

/-- Hands deliveries on to a transport, and keeps a log of them. -/
def Transport.logged {σ : Type} (t : Transport σ) : Transport (List Delivery × σ) :=
  fun d (log, state) ↦
    let (answer, state) := t d state
    (answer, log ++ [d], state)

/-- A delivery whose envelope agrees with its body, a message as composing leaves it. The envelope
agrees with the composer's own From field. If no line ends inside of what goes into the header
section as it is, that is the field that a reader of the body finds; otherwise a reader may find
others. -/
structure Delivery.Agrees (d : Delivery) (m : Message) (author : Address) (stamp : Stamp) :
    Prop where
  body : d.body = m.write author stamp
  header : m.Clean InLine → (∀ c ∈ stamp.token.toList, InLine c) →
    readFields (lines d.body) = m.header author stamp
  envelope : mailboxes? "From" (m.header author stamp) = some [(author.name, d.author)]
  author_ne : d.author ≠ ""
  recipients_ne : d.recipients ≠ []

theorem accepted_iff (answer : Except TransportError Unit) :
    answer.mapError SendError.transport = .ok () ↔ answer = .ok () := by
  cases answer with
  | ok => exact ⟨fun _ ↦ rfl, fun _ ↦ rfl⟩
  | error e => simp [Except.mapError]

namespace Sender

def delivery (s : Sender) (registry : Option Registry) (m : Message) (body : List Char) :
    Delivery where
  sender := s
  author := ((m.resolveAuthor registry).map (·.addr)).getD ""
  recipients := m.recipients registry
  body := body

variable {s : Sender} {c : Composer} {read : FileReader} {data : Backend.Data} {m m' : Message}

theorem send_of_error {errors : List ComposeError}
    (h : c.compose read data { m with sender := some s } = (m', .error errors)) {σ : Type}
    (t : Transport σ) (state : σ) :
    s.send c read data t m state = ⟨m', .error (.compose errors), state⟩ := by
  rw [send, h]

theorem send_of_ok {body : List Char}
    (h : c.compose read data { m with sender := some s } = (m', .ok body)) {σ : Type}
    (t : Transport σ) (state : σ) :
    s.send c read data t m state =
      ⟨m', (t (s.delivery c.registry m' body) state).1.mapError .transport,
        (t (s.delivery c.registry m' body) state).2⟩ := by
  rw [send, h]
  rfl

theorem delivery_agrees {body : List Char}
    (h : c.compose read data { m with sender := some s } = (m', .ok body)) :
    ∃ author, m'.resolveAuthor c.registry = some author ∧
      (s.delivery c.registry m' body).Agrees m' author (c.stamp m'.subject.text) := by
  obtain ⟨author, hauthor, -, rfl⟩ := Message.compose_ok h
  have hparts := Message.parts_ne_nil_of_compose h
  -- The header has the author of the message before composing, the envelope that of the one after.
  rw [← Message.resolveAuthor_of_source_eq (Message.source_compose h)] at hauthor
  have henvelope (body : List Char) : (s.delivery c.registry m' body).author = author.addr := by
    rw [delivery, hauthor]
    rfl
  refine ⟨author, hauthor, rfl, fun hclean htoken ↦ ?_, ?_, ?_, Message.recipients_ne_nil hauthor⟩
  · have hdate := Stamp.inLine_date c.clock c.tokens.token m'.subject.text
    exact Message.readFields_of_inLine hclean hparts author hdate htoken
  · rw [henvelope]
    exact Message.mailboxes_from hparts author _
  · rw [henvelope]
    exact author.addr_ne_empty

/-- A send hands the composed message to the transport once, and does not call it if composing
fails. The log of deliveries begins empty, and keeping it changes nothing else. -/
theorem send_hands_over {σ : Type} (s : Sender) (c : Composer) (read : FileReader)
    (data : Backend.Data) (t : Transport σ) (m : Message) (state : σ) :
    let composed := c.compose read data { m with sender := some s }
    let sent := s.send c read data t.logged m ([], state)
    s.send c read data t m state = ⟨sent.message, sent.answer, sent.state.2⟩ ∧
    (∀ errors, composed.2 = .error errors →
      sent = ⟨composed.1, .error (.compose errors), [], state⟩) ∧
    (∀ body, composed.2 = .ok body → ∃ d author,
      d.sender = s ∧ d.body = body ∧ composed.1.resolveAuthor c.registry = some author ∧
      d.Agrees composed.1 author (c.stamp composed.1.subject.text) ∧
      sent = ⟨composed.1, (t d state).1.mapError .transport, [d], (t d state).2⟩) ∧
    (sent.answer = .ok () ↔
      ∃ body d, composed.2 = .ok body ∧ sent.state.1 = [d] ∧ (t d state).1 = .ok ()) ∧
    ∀ r : Registry, r.send c read data t.logged m ([], state) =
      match r.default? with
      | none => ⟨m, .error .noDefaultSender, [], state⟩
      | some s' => s'.send c read data t.logged m ([], state) := by
  have hdefault (r : Registry) : r.send c read data t.logged m ([], state) =
      match r.default? with
      | none => ⟨m, .error .noDefaultSender, [], state⟩
      | some s' => s'.send c read data t.logged m ([], state) := rfl
  rcases hc : c.compose read data { m with sender := some s } with ⟨m', result⟩
  cases result with
  | error errors =>
    rw [send_of_error hc, send_of_error hc]
    refine ⟨rfl, fun errors' h ↦ ?_, fun body h ↦ ?_, ?_, hdefault⟩
    · rw [Except.error.inj h]
    · cases h
    · simp
  | ok body =>
    obtain ⟨author, hauthor, hagrees⟩ := delivery_agrees hc
    let d := s.delivery c.registry m' body
    have hlogged : t.logged d ([], state) = ((t d state).1, [d], (t d state).2) := rfl
    rw [send_of_ok hc, send_of_ok hc, hlogged]
    refine ⟨rfl, fun errors h ↦ ?_, fun body' h ↦ ?_, ?_, hdefault⟩
    · cases h
    · obtain rfl := Except.ok.inj h
      exact ⟨d, author, rfl, rfl, hauthor, hagrees, rfl⟩
    · constructor
      · intro h
        exact ⟨body, d, rfl, rfl, (accepted_iff _).mp h⟩
      · rintro ⟨-, d', -, hd, ht⟩
        obtain rfl : d = d' := List.singleton_inj.mp hd
        exact (accepted_iff _).mpr ht

end Sender

end

namespace Sender

theorem unsigned_send_hands_over :
    let relay : Sender := ⟨"h", 25, "u", "p", none⟩
    let c : Composer := ⟨0, .fixed "T", some ⟨relay.withAddress ⟨"D", "d@b.c", by decide⟩⟩⟩
    let unsigned : Message := { Message.letter with author := none }
    let sent := relay.send c (fun _ ↦ .ok [0x41]) Data.Value.null
      (Transport.logged fun _ calls ↦ (.error (.rejected "no"), calls + 1)) unsigned ([], 0)
    sent.answer = .error (.transport (.rejected "no")) ∧
      ∃ d, sent.state = ([d], 1) ∧
        mailboxes? "From" (sent.message.header ⟨"D", "d@b.c", by decide⟩
          (c.stamp unsigned.subject.text)) = some [("D", d.author)] := by
  intro relay c unsigned sent
  obtain ⟨-, -, hok, -⟩ := relay.send_hands_over c (fun _ ↦ .ok [0x41]) Data.Value.null
    (fun _ calls ↦ (.error (.rejected "no"), calls + 1)) unsigned 0
  obtain ⟨d, author, -, -, hauthor, hagrees, hsent⟩ := hok _ rfl
  have hsent : sent = ⟨_, .error (.transport (.rejected "no")), [d], 1⟩ := hsent
  obtain rfl : (⟨"D", "d@b.c", by decide⟩ : Address) = author := Option.some.inj hauthor
  rw [hsent]
  exact ⟨rfl, d, rfl, hagrees.envelope⟩

end Sender

end MimeMail
