import MimeMail.Backend.Standard
import MimeMail.Delivery

namespace MimeMail

section

variable [Backend]

/-- The place of a payload: an item of a part, or an attachment. -/
inductive Slot where
  | item (part index : Nat)
  | attachment (index : Nat)
  deriving DecidableEq, Repr

def Slot.isItemOf (part : Nat) : Slot → Bool
  | .item i _ => i == part
  | .attachment _ => false

/-- What happens to a message; `copy` goes on with a copy of it. -/
inductive Event : Type 1 where
  | edit (e : Edit)
  | prepare (read : FileReader) (fresh : Bool)
  | compose (registry : Option Registry) (stamp : String → Stamp) (read : FileReader)
      (data : Backend.Data)
  | send {σ : Type} (s : Sender) (c : Composer) (read : FileReader) (data : Backend.Data)
      (transport : Transport σ) (state : σ)
  | sendDefault {σ : Type} (r : Registry) (c : Composer) (read : FileReader) (data : Backend.Data)
      (transport : Transport σ) (state : σ)
  | copy

def Payload.Unread (p : Payload) : Prop :=
  p.isFile = true → p.data? = none

def Payload.attempt (read : FileReader) (fresh : Bool) : Payload → Option (Except ReadError Bytes)
  | .memory _ => none
  | .file path cache => if cache.isSome && !fresh then none else some (read path)

/-- The bytes that a payload is to be sent with, where a log knows the last read made for it. -/
def Payload.Supplies (logged : Option Bytes) (data : Bytes) : Payload → Prop
  | .memory bytes => data = bytes
  | .file _ _ => logged = some data

def Edit.related : Edit → List Related
  | .html _ related | .htmlTemplate _ related | .part _ _ _ related => related
  | _ => []

def Event.Unread : Event → Prop
  | .edit e => ∀ r ∈ e.related, r.payload.Unread
  | _ => True

namespace Message

def payloadAt (m : Message) : Slot → Option Payload
  | .item i j => (m.parts[i]?).bind fun p ↦ (p.related[j]?).map Related.payload
  | .attachment i => (m.attachments[i]?).map Attachment.payload

def entityAt (m : Message) : Slot → Option Wire.Entity
  | .item i j => (m.parts[i]?).bind fun p ↦ (p.related[j]?).map Related.entity
  | .attachment i => (m.attachments[i]?).map Attachment.entity

def htmlSlot (m : Message) : Nat :=
  m.htmlIndex.getD m.parts.length

def after (m : Message) : Event → Message
  | .edit e =>
    match m.edit e with
    | .ok m' => m'
    | .error _ => m
  | .prepare read fresh => (m.load read fresh).1
  | .compose registry stamp read data => (m.compose registry stamp read data).1
  | .send s c read data transport state => (s.send c read data transport m state).message
  | .sendDefault r c read data transport state => (r.send c read data transport m state).message
  | .copy => m.copy

def readAt (m : Message) (read : FileReader) (fresh : Bool) (slot : Slot) :
    Option (Except ReadError Bytes) :=
  if m.prepared && !fresh then none else (m.payloadAt slot).bind (Payload.attempt read fresh)

def composeReadAt (m : Message) (registry : Option Registry) (read : FileReader) (slot : Slot) :
    Option (Except ReadError Bytes) :=
  if (m.resolveAuthor registry).isSome then m.readAt read false slot else none

def eventReadAt (m : Message) (slot : Slot) : Event → Option (Except ReadError Bytes)
  | .prepare read fresh => m.readAt read fresh slot
  | .compose registry _ read _ => m.composeReadAt registry read slot
  | .send s c read _ _ _ => { m with sender := some s }.composeReadAt c.registry read slot
  | .sendDefault r c read _ _ _ =>
    r.default?.bind fun s ↦ { m with sender := some s }.composeReadAt c.registry read slot
  | .edit _ | .copy => none

/-- Whether an event puts a new payload in place of the one in a slot. A new markup body comes with
items of its own, and a copy has all payloads of its own. -/
def renews (m : Message) (slot : Slot) : Event → Bool
  | .copy => true
  | .edit (.html _ _) => slot.isItemOf m.htmlSlot
  | .edit (.htmlTemplate source _) =>
    (Content.ofSource source .markup).isOk && slot.isItemOf m.htmlSlot
  | _ => false

end Message

/-- The bytes of the last successful read that was made for the payload in each slot. -/
abbrev Log := Slot → Option Bytes

def Log.record (log : Log) (reads : Slot → Option (Except ReadError Bytes)) : Log := fun slot ↦
  match reads slot with
  | some (.ok data) => some data
  | _ => log slot

def Log.after (log : Log) (m : Message) (ev : Event) : Log :=
  Log.record (fun slot ↦ if m.renews slot ev then none else log slot) (m.eventReadAt · ev)

/-- What can become of a message, and the log of its reads. -/
inductive Run : Message → Log → Prop where
  | empty : Run .empty fun _ ↦ none
  | quick (subject : String) (text html : Option String) :
      Run (.quick subject text html) fun _ ↦ none
  | step {m : Message} {log : Log} (ev : Event) :
      Run m log → ev.Unread → Run (m.after ev) (log.after m ev)

/-- A message that builder calls, preparing, composing, sending and copying lead to. -/
def Message.Reachable (m : Message) : Prop :=
  ∃ log, Run m log

theorem Sender.message_send {σ : Type} (s : Sender) (c : Composer) (read : FileReader)
    (data : Backend.Data) (transport : Transport σ) (m : Message) (state : σ) :
    (s.send c read data transport m state).message =
      (c.compose read data { m with sender := some s }).1 := by
  rw [send]
  split <;> simp_all

theorem Run.edit {m m' : Message} {e : Edit} (h : Run m fun _ ↦ none) (he : m.edit e = .ok m')
    (hu : ∀ r ∈ e.related, r.payload.Unread) : Run m' fun _ ↦ none := by
  have hm : m.after (.edit e) = m' := by rw [Message.after, he]
  have hlog : Log.after (fun _ ↦ none) m (.edit e) = fun _ ↦ none := by
    funext slot
    exact ite_self none
  rw [← hm, ← hlog]
  exact h.step (.edit e) hu

end

def Address.zoe : Address := ⟨"Zoë\r\nBcc: Ann", "a@b.c", by decide⟩

/-- A message with a markup body, an item that belongs to it, and an attached file. Its subject has
a line break too. -/
def Message.letter : Message :=
  (((Message.empty.after (.edit (.author .zoe))).after
    (.edit (.subject "Grüße\r\nBcc: z@b.c"))).after
    (.edit (.html "<p>Hi</p>" [⟨"i", "image/png", .memory [0x89]⟩]))).after
    (.edit (.attachFile "n.txt" "text/plain" "n.txt"))

theorem run_letter : Run .letter fun _ ↦ none := by
  have h₁ := Run.empty.edit (e := .author .zoe) rfl (by simp [Edit.related])
  have h₂ := h₁.edit (e := .subject "Grüße\r\nBcc: z@b.c") rfl (by simp [Edit.related])
  have h₃ := h₂.edit (e := .html "<p>Hi</p>" [⟨"i", "image/png", .memory [0x89]⟩]) rfl
    (by simp [Edit.related, Payload.Unread, Payload.isFile])
  exact h₃.edit (e := .attachFile "n.txt" "text/plain" "n.txt") rfl (by simp [Edit.related])

def Message.readLetter : Message :=
  (Message.letter.resolve (fun _ ↦ .ok [0x41]) Data.Value.null).1

theorem compose_letter (stamp : String → Stamp) :
    Message.letter.compose none stamp (fun _ ↦ .ok [0x41]) Data.Value.null =
      (.readLetter, .ok (Message.readLetter.write .zoe (stamp Message.letter.subject.text))) :=
  rfl

end MimeMail
