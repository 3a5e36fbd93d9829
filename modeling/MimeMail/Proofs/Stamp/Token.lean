import MimeMail.Proofs.Encoding.Base64Lines
import MimeMail.Proofs.Message.Header
import MimeMail.Proofs.Message.Run
import MimeMail.Proofs.Stamp.Date
import MimeMail.Proofs.Wire.Boundary

namespace MimeMail

open Encoding Text Wire

namespace TokenSource

/-- What is hashed for a token. -/
def hashedBytes (date : String) (subject : Bytes) : Bytes :=
  utf8 date.toList ++ subject

/-- What a token may be made of: printable characters without those that end a quoted boundary or
the left part of a Message-ID. -/
def Allows (c : Char) : Prop :=
  Printable c ∧ c ∉ ['"', '\\', '<', '>', '@']

theorem encode_of_length {s : Bytes} (h : s.length = 32) :
    ∃ digits, Base64.encode s = digits ++ ['='] ∧ digits.length = hashLength ∧
      ∀ c ∈ digits, Base64.IsDigit c := by
  obtain ⟨digits, hplain, hdigits⟩ := Base64.plain_one_pad (s := s) (by rw [h])
  have hwidth : (Base64.plain s).length = 44 := by rw [Base64.length_plain, h]
  refine ⟨digits, ?_, ?_, hdigits⟩
  · rw [← hplain]
    apply Base64.encode_of_short
    rw [hwidth]
    decide
  · rw [hplain, List.length_append] at hwidth
    exact Nat.succ_injective hwidth

theorem allows_of_isDigit {c : Char} (h : Base64.IsDigit c) : Allows c := by
  have hprintable : Printable c := by
    rcases h.inAlphabet.plain with rfl | hp
    · exact absurd h (by decide)
    · exact hp
  refine ⟨hprintable, fun hmem ↦ ?_⟩
  have hnone : ∀ c ∈ ['"', '\\', '<', '>', '@'], ¬ Base64.IsDigit c := by decide
  exact hnone c hmem h

theorem hashedBytes_inj {d d' : Date} {subject subject' : Bytes} (hd : d.IsValid) (hd' : d'.IsValid)
    (h : hashedBytes d.text subject = hashedBytes d'.text subject') :
    d = d' ∧ subject = subject' := by
  -- The subject need not be text, so its bytes are taken for characters one by one.
  have hchars (d : Date) (s : Bytes) :
      ofBytes (hashedBytes d.text s) = d.text.toList ++ ofBytes s := by
    have hascii : ∀ c ∈ d.text.toList, c.toNat < 128 :=
      fun c hc ↦ Plain.toNat_lt (.inr (d.printable_text c hc))
    rw [hashedBytes, ofBytes, List.map_append, ← ofBytes, ← ofBytes, ofBytes_utf8 hascii]
  have htext := congrArg ofBytes h
  rw [hchars, hchars] at htext
  obtain ⟨rfl, -⟩ := Date.text_append_inj hd hd' htext
  exact ⟨rfl, List.append_cancel_left h⟩

theorem hashedBytes_ofSeconds_inj {clock clock' : Int} {subject subject' : Bytes}
    (h : hashedBytes (Date.ofSeconds clock).text subject =
      hashedBytes (Date.ofSeconds clock').text subject') :
    clock = clock' ∧ subject = subject' := by
  obtain ⟨hdate, hsubject⟩ :=
    hashedBytes_inj (Date.isValid_ofSeconds clock) (Date.isValid_ofSeconds clock') h
  exact ⟨Date.ofSeconds_injective hdate, hsubject⟩

end TokenSource

section

variable [Backend]

/-- Different texts that have the same digest. -/
def Backend.Collide (s t : Bytes) : Prop :=
  s ≠ t ∧ digest s = digest t

namespace TokenSource

variable {date date' : String} {subject subject' : Bytes}

theorem encode_digest (date : String) (subject : Bytes) :
    Base64.encode (Backend.digest (hashedBytes date subject)) = hash date subject ++ ['='] ∧
      (hash date subject).length = hashLength ∧ ∀ c ∈ hash date subject, Base64.IsDigit c := by
  obtain ⟨digits, hencode, hlength, hdigits⟩ :=
    encode_of_length (Backend.length_digest (hashedBytes date subject))
  have hhash : hash date subject = digits := by
    have htake : hash date subject = (digits ++ ['=']).take hashLength :=
      congrArg (List.take hashLength) hencode
    rw [htake, ← hlength, List.take_left]
  rw [hhash]
  exact ⟨hencode, hlength, hdigits⟩

theorem digest_eq_of_hash_eq (h : hash date subject = hash date' subject') :
    Backend.digest (hashedBytes date subject) = Backend.digest (hashedBytes date' subject') := by
  have hencode : Base64.encode (Backend.digest (hashedBytes date subject)) =
      Base64.encode (Backend.digest (hashedBytes date' subject')) := by
    rw [(encode_digest date subject).1, h, (encode_digest date' subject').1]
  have hdecode := Base64.decode_encode (Backend.digest (hashedBytes date subject))
  rw [hencode, Base64.decode_encode] at hdecode
  exact (Option.some.inj hdecode).symm

theorem collide_or_hash_ne (h : hashedBytes date subject ≠ hashedBytes date' subject') :
    Backend.Collide (hashedBytes date subject) (hashedBytes date' subject') ∨
      hash date subject ≠ hash date' subject' := by
  by_cases heq : hash date subject = hash date' subject'
  · exact .inl ⟨h, digest_eq_of_hash_eq heq⟩
  · exact .inr heq

theorem toList_hashed (date : String) (subject : Bytes) :
    (hashed.token date subject).toList = hash date subject := String.toList_ofList

theorem inLine_hash (date : String) (subject : Bytes) : ∀ c ∈ hash date subject, InLine c :=
  fun c hc ↦ (allows_of_isDigit ((encode_digest date subject).2.2 c hc)).1.inLine

end TokenSource

/-- The line of the Message-ID, which is the first one of a message. -/
def Message.idLine (out : List Char) : Line :=
  (lines out).headD []

theorem Message.prefix_idLine (m : Message) (author : Address) {stamp : Stamp}
    (ht : ∀ c ∈ stamp.token.toList, InLine c) :
    "Message-ID: <".toList ++ stamp.token.toList ++ ['@'] <+: idLine (m.write author stamp) := by
  have hstart : ∀ c ∈ "Message-ID: <".toList ++ stamp.token.toList ++ ['@'], InLine c := by
    rw [List.forall_mem_append, List.forall_mem_append]
    exact ⟨⟨by decide, ht⟩, by decide⟩
  obtain ⟨rest, hout⟩ : ∃ rest, m.write author stamp =
      "Message-ID: <".toList ++ stamp.token.toList ++ ['@'] ++ rest := by
    have hfields : m.fields author stamp =
        ⟨"Message-ID", '<' :: stamp.token.toList ++ '@' :: (m.domain.getD author.domain).toList ++
          ['>']⟩ :: (m.fields author stamp).tail := rfl
    have hname : "Message-ID: <".toList = "Message-ID".toList ++ ": ".toList ++ ['<'] := by decide
    rw [write, hfields, hname, writeFields, List.flatMap_cons, Field.write]
    exact ⟨_, by simp only [List.append_assoc, List.cons_append, List.nil_append]; rfl⟩
  rw [idLine, hout, lines_append hstart]
  cases hl : lines rest with
  | nil => exact absurd hl (lines_ne_nil rest)
  | cons l ls => exact List.prefix_append _ _

theorem Message.idLine_ne {m m' : Message} {author author' : Address} {stamp stamp' : Stamp}
    (ht : ∀ c ∈ stamp.token.toList, InLine c) (ht' : ∀ c ∈ stamp'.token.toList, InLine c)
    (hlength : stamp.token.toList.length = stamp'.token.toList.length)
    (hne : stamp.token.toList ≠ stamp'.token.toList) :
    idLine (m.write author stamp) ≠ idLine (m'.write author' stamp') := by
  intro h
  have hprefix := m'.prefix_idLine author' ht'
  rw [← h] at hprefix
  have hwidth : ("Message-ID: <".toList ++ stamp.token.toList ++ ['@']).length =
      ("Message-ID: <".toList ++ stamp'.token.toList ++ ['@']).length := by
    simp only [List.length_append, hlength]
  have hstart := (List.prefix_of_prefix_length_le (m.prefix_idLine author ht) hprefix
    (Nat.le_of_eq hwidth)).eq_of_length hwidth
  exact hne (List.append_cancel_left (List.append_cancel_right hstart))

namespace TokenSource

/-- Stamps of different seconds or subjects show in the Message-ID and in every boundary. -/
theorem collide_or_write_ne {clock clock' : Int} {subject subject' : String}
    (hne : clock ≠ clock' ∨ subject ≠ subject') (m m' : Message) (author author' : Address) :
    let stamp := Stamp.at clock hashed.token subject
    let stamp' := Stamp.at clock' hashed.token subject'
    Backend.Collide (hashedBytes stamp.date (utf8 subject.toList))
        (hashedBytes stamp'.date (utf8 subject'.toList)) ∨
      Message.idLine (m.write author stamp) ≠ Message.idLine (m'.write author' stamp') ∧
      ∀ kind kind' : Kind,
        kind.boundary stamp.token.toList ≠ kind'.boundary stamp'.token.toList := by
  intro stamp stamp'
  have htoken : stamp.token.toList = hash stamp.date (utf8 subject.toList) := toList_hashed _ _
  have htoken' : stamp'.token.toList = hash stamp'.date (utf8 subject'.toList) :=
    toList_hashed _ _
  have hbytes : hashedBytes stamp.date (utf8 subject.toList) ≠
      hashedBytes stamp'.date (utf8 subject'.toList) := by
    intro h
    obtain ⟨hclock, hsubject⟩ := hashedBytes_ofSeconds_inj h
    rcases hne with hne | hne
    · exact hne hclock
    · exact hne (String.toList_injective (utf8_injective hsubject))
  rcases collide_or_hash_ne hbytes with hcollide | hhash
  · exact .inl hcollide
  · have hlength : stamp.token.toList.length = stamp'.token.toList.length := by
      rw [htoken, htoken', (encode_digest _ _).2.1, (encode_digest _ _).2.1]
    have hline : ∀ c ∈ stamp.token.toList, InLine c := htoken ▸ inLine_hash _ _
    have hline' : ∀ c ∈ stamp'.token.toList, InLine c := htoken' ▸ inLine_hash _ _
    rw [← htoken, ← htoken'] at hhash
    exact .inr ⟨Message.idLine_ne hline hline' hlength hhash, Kind.boundary_ne hlength hhash⟩

/-- A hashed token identifies the date and the subject. It is 43 digits of Base64, which a token may
be made of. Equal tokens are from equal digests, and what is hashed is equal for one second and one
subject only. So messages that are composed in different seconds, or with different subjects, have
different Message-IDs and boundaries, unless their digests collide. -/
theorem hashed_identifies (clock clock' : Int) (subject subject' : Bytes) :
    let date := (Date.ofSeconds clock).text
    let date' := (Date.ofSeconds clock').text
    let token := (hashed.token date subject).toList
    let token' := (hashed.token date' subject').toList
    (token.length = 43 ∧ ∀ c ∈ token, Base64.IsDigit c ∧ Allows c ∧ c ≠ '=' ∧ InLine c) ∧
    (token = token' →
      Backend.digest (hashedBytes date subject) = Backend.digest (hashedBytes date' subject')) ∧
    (hashedBytes date subject = hashedBytes date' subject' →
      clock = clock' ∧ date = date' ∧ subject = subject') ∧
    ∀ (registry registry' : Option Registry) (read read' : FileReader) (data data' : Backend.Data)
      (m m' sent sent' : Message) (out out' : List Char),
      Composer.compose ⟨clock, hashed, registry⟩ read data m = (sent, .ok out) →
      Composer.compose ⟨clock', hashed, registry'⟩ read' data' m' = (sent', .ok out') →
      subject = utf8 sent.subject.text.toList → subject' = utf8 sent'.subject.text.toList →
      clock ≠ clock' ∨ subject ≠ subject' →
      Backend.Collide (hashedBytes date subject) (hashedBytes date' subject') ∨
        Message.idLine out ≠ Message.idLine out' ∧
        ∀ kind kind' : Kind, kind.boundary token ≠ kind'.boundary token' := by
  intro date date' token token'
  have htoken : token = hash date subject := toList_hashed date subject
  have htoken' : token' = hash date' subject' := toList_hashed date' subject'
  obtain ⟨-, hlength, hdigits⟩ := encode_digest date subject
  refine ⟨⟨?_, ?_⟩, ?_, ?_, ?_⟩
  · rw [htoken]
    exact hlength
  · intro c hc
    have hdigit : Base64.IsDigit c := hdigits c (htoken ▸ hc)
    have hallows := allows_of_isDigit hdigit
    refine ⟨hdigit, hallows, ?_, hallows.1.inLine⟩
    rintro rfl
    exact absurd hdigit (by decide)
  · intro h
    rw [htoken, htoken'] at h
    exact digest_eq_of_hash_eq h
  · intro h
    obtain ⟨hclock, hsubject⟩ := hashedBytes_ofSeconds_inj h
    exact ⟨hclock, congrArg (fun clock ↦ (Date.ofSeconds clock).text) hclock, hsubject⟩
  · intro registry registry' read read' data data' m m' sent sent' out out' hc hc' hs hs' hne
    obtain ⟨author, -, -, rfl⟩ := Message.compose_ok hc
    obtain ⟨author', -, -, rfl⟩ := Message.compose_ok hc'
    subst hs hs'
    have htexts : clock ≠ clock' ∨ sent.subject.text ≠ sent'.subject.text :=
      hne.imp_right fun h heq ↦ h (congrArg (fun s : String ↦ utf8 s.toList) heq)
    exact collide_or_write_ne htexts sent sent' author author'

end TokenSource

end

namespace TokenSource

theorem letters_of_two_seconds :
    Message.idLine (Message.readLetter.write .zoe
        (.at 0 hashed.token Message.letter.subject.text)) ≠
      Message.idLine (Message.readLetter.write .zoe
        (.at 1 hashed.token Message.letter.subject.text)) := by
  obtain ⟨-, -, -, hdiffer⟩ := hashed_identifies 0 1 (utf8 Message.letter.subject.text.toList)
    (utf8 Message.letter.subject.text.toList)
  rcases hdiffer none none _ _ _ _ _ _ _ _ _ _ (compose_letter _) (compose_letter _) rfl rfl
    (.inl (by decide)) with hcollide | ⟨hid, -⟩
  · exact absurd hcollide.2 (by decide +kernel)
  · exact hid

end TokenSource

end MimeMail
