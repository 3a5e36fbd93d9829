import Mathlib.Data.List.Forall2
import MimeMail.Proofs.Message.Problems
import MimeMail.Proofs.Message.Loading

namespace MimeMail

section

variable {α : Type} {r : α → α → Prop} {xs ys zs : List α}

theorem forall₂_trans (hr : ∀ {x y z}, r x y → r y z → r x z) (h : List.Forall₂ r xs ys)
    (h' : List.Forall₂ r ys zs) : List.Forall₂ r xs zs := by
  induction h generalizing zs with
  | nil => exact h'
  | cons hxy _ ih =>
    cases h' with
    | cons hyz h' => exact .cons (hr hxy hyz) (ih h')

theorem forall₂_map_self {f : α → α} (h : ∀ x, r x (f x)) (xs : List α) :
    List.Forall₂ r xs (xs.map f) :=
  List.forall₂_map_right_iff.mpr (List.forall₂_same.mpr fun x _ ↦ h x)

theorem findIdx?_of_forall₂ {p : α → Bool} (hp : ∀ {x y}, r x y → p y = p x)
    (h : List.Forall₂ r xs ys) : ys.findIdx? p = xs.findIdx? p := by
  induction h with
  | nil => rfl
  | cons hxy _ ih => rw [List.findIdx?_cons, List.findIdx?_cons, hp hxy, ih]

theorem getElem?_of_forall₂ (h : List.Forall₂ r xs ys) {i : Nat} {x : α} (hx : xs[i]? = some x) :
    ∃ y, ys[i]? = some y ∧ r x y := by
  induction h generalizing i with
  | nil => cases hx
  | cons hxy _ ih =>
    cases i with
    | zero =>
      obtain rfl := Option.some.inj hx
      exact ⟨_, rfl, hxy⟩
    | succ i => exact ih hx

end

section

variable [Backend]

/-- What templates have given, and what files have held when they were read. -/
structure Effects where
  rendered : Backend.Template → String → Prop
  read : String → Bytes → Prop

/-- What an event can put into a message that it prepares, composes or sends. -/
def Event.effects : Event → Effects
  | .prepare read _ => ⟨fun _ _ ↦ False, fun path bytes ↦ read path = .ok bytes⟩
  | .compose _ _ read data | .send _ _ read data _ _ | .sendDefault _ _ read data _ _ =>
    ⟨fun t text ↦ Backend.render t data = .ok text, fun path bytes ↦ read path = .ok bytes⟩
  | .edit _ | .copy => ⟨fun _ _ ↦ False, fun _ _ ↦ False⟩

def Effects.of (evs : List Event) : Effects where
  rendered t text := ∃ ev ∈ evs, ev.effects.rendered t text
  read path bytes := ∃ ev ∈ evs, ev.effects.read path bytes

/-- Every effect of the first is one of the second. -/
structure Effects.Among (e e' : Effects) : Prop where
  rendered : ∀ t text, e.rendered t text → e'.rendered t text
  read : ∀ path bytes, e.read path bytes → e'.read path bytes

def Event.sender? : Event → Option Sender
  | .send s _ _ _ _ _ => some s
  | .sendDefault r _ _ _ _ _ => r.default?
  | .edit _ | .prepare _ _ | .compose _ _ _ _ | .copy => none

inductive Content.Kept (e : Effects) : Content → Content → Prop
  | same (c : Content) : Kept e c c
  | rendered (t : Backend.Template) (output : String) {text : String} :
      e.rendered t text → Kept e (.template t output) (.template t text)

inductive Payload.Kept (e : Effects) : Payload → Payload → Prop
  | same (p : Payload) : Kept e p p
  | read (path : String) (cache : Option Bytes) {bytes : Bytes} :
      e.read path bytes → Kept e (.file path cache) (.file path (some bytes))

structure Related.Kept (e : Effects) (r r' : Related) : Prop where
  id : r'.id = r.id
  contentType : r'.contentType = r.contentType
  payload : r.payload.Kept e r'.payload

structure Attachment.Kept (e : Effects) (a a' : Attachment) : Prop where
  name : a'.name = a.name
  contentType : a'.contentType = a.contentType
  payload : a.payload.Kept e a'.payload

inductive Part.Kept (e : Effects) : Part → Part → Prop
  | plain {body body' : Content} : body.Kept e body' → Kept e (.plain body) (.plain body')
  | html {body body' : Content} {related related' : List Related} :
      body.Kept e body' → List.Forall₂ (Related.Kept e) related related' →
      Kept e (.html body related) (.html body' related')
  | other (contentType : String) (encoding : TransferEncoding) (body : Bytes)
      {related related' : List Related} : List.Forall₂ (Related.Kept e) related related' →
      Kept e (.other contentType encoding body related) (.other contentType encoding body related')

/-- All of a message but the flag for prepared messages and the sender is kept. -/
structure Message.Kept (e : Effects) (m m' : Message) : Prop where
  domain : m'.domain = m.domain
  subject : m.subject.Kept e m'.subject
  author : m'.author = m.author
  replyTo : m'.replyTo = m.replyTo
  addressees : m'.addressees = m.addressees
  cc : m'.cc = m.cc
  bcc : m'.bcc = m.bcc
  parts : List.Forall₂ (Part.Kept e) m.parts m'.parts
  attachments : List.Forall₂ (Attachment.Kept e) m.attachments m'.attachments
  plainIndex : m'.plainIndex = m.plainIndex
  htmlIndex : m'.htmlIndex = m.htmlIndex

section

variable {e : Effects}

theorem Content.Kept.trans {c c' c'' : Content} (h : c.Kept e c') (h' : c'.Kept e c'') :
    c.Kept e c'' := by
  cases h with
  | same => exact h'
  | rendered t output h =>
    cases h' with
    | same => exact .rendered t output h
    | rendered _ _ h' => exact .rendered t output h'

theorem Payload.Kept.trans {p p' p'' : Payload} (h : p.Kept e p') (h' : p'.Kept e p'') :
    p.Kept e p'' := by
  cases h with
  | same => exact h'
  | read path cache h =>
    cases h' with
    | same => exact .read path cache h
    | read _ _ h' => exact .read path cache h'

theorem Related.Kept.trans {r r' r'' : Related} (h : r.Kept e r') (h' : r'.Kept e r'') :
    r.Kept e r'' :=
  ⟨h'.id.trans h.id, h'.contentType.trans h.contentType, h.payload.trans h'.payload⟩

theorem Attachment.Kept.trans {a a' a'' : Attachment} (h : a.Kept e a') (h' : a'.Kept e a'') :
    a.Kept e a'' :=
  ⟨h'.name.trans h.name, h'.contentType.trans h.contentType, h.payload.trans h'.payload⟩

theorem Related.kept_refl (r : Related) : r.Kept e r :=
  ⟨rfl, rfl, .same _⟩

theorem Attachment.kept_refl (a : Attachment) : a.Kept e a :=
  ⟨rfl, rfl, .same _⟩

namespace Part

theorem kept_refl (p : Part) : p.Kept e p := by
  have hrelated (related : List Related) : List.Forall₂ (Related.Kept e) related related :=
    List.forall₂_same.mpr fun r _ ↦ r.kept_refl
  cases p with
  | plain body => exact .plain (.same body)
  | html body related => exact .html (.same body) (hrelated related)
  | other contentType encoding body related =>
    exact .other contentType encoding body (hrelated related)

variable {p p' p'' : Part}

theorem Kept.trans (h : p.Kept e p') (h' : p'.Kept e p'') : p.Kept e p'' := by
  cases h with
  | plain hbody =>
    cases h' with
    | plain hbody' => exact .plain (hbody.trans hbody')
  | html hbody hrelated =>
    cases h' with
    | html hbody' hrelated' =>
      exact .html (hbody.trans hbody') (forall₂_trans Related.Kept.trans hrelated hrelated')
  | other contentType encoding body hrelated =>
    cases h' with
    | other _ _ _ hrelated' =>
      exact .other contentType encoding body (forall₂_trans Related.Kept.trans hrelated hrelated')

theorem Kept.isPlain (h : p.Kept e p') : p'.isPlain = p.isPlain := by
  cases h <;> rfl

theorem Kept.isHtml (h : p.Kept e p') : p'.isHtml = p.isHtml := by
  cases h <;> rfl

theorem Kept.related (h : p.Kept e p') :
    List.Forall₂ (Related.Kept e) p.related p'.related := by
  cases h with
  | plain _ => exact .nil
  | html _ hrelated => exact hrelated
  | other _ _ _ hrelated => exact hrelated

end Part

namespace Message

variable {m m' m'' : Message}

theorem bodyIndices_of_forall₂ (h : List.Forall₂ (Part.Kept e) m.parts m'.parts) :
    m'.plainIndex = m.plainIndex ∧ m'.htmlIndex = m.htmlIndex :=
  ⟨findIdx?_of_forall₂ Part.Kept.isPlain h, findIdx?_of_forall₂ Part.Kept.isHtml h⟩

theorem Kept.trans (h : m.Kept e m') (h' : m'.Kept e m'') : m.Kept e m'' where
  domain := h'.domain.trans h.domain
  subject := h.subject.trans h'.subject
  author := h'.author.trans h.author
  replyTo := h'.replyTo.trans h.replyTo
  addressees := h'.addressees.trans h.addressees
  cc := h'.cc.trans h.cc
  bcc := h'.bcc.trans h.bcc
  parts := forall₂_trans Part.Kept.trans h.parts h'.parts
  attachments := forall₂_trans Attachment.Kept.trans h.attachments h'.attachments
  plainIndex := h'.plainIndex.trans h.plainIndex
  htmlIndex := h'.htmlIndex.trans h.htmlIndex

theorem kept_withSender (m : Message) (sender : Option Sender) :
    m.Kept e { m with sender := sender } :=
  ⟨rfl, .same _, rfl, rfl, rfl, rfl, rfl, List.forall₂_same.mpr fun p _ ↦ p.kept_refl,
    List.forall₂_same.mpr fun a _ ↦ a.kept_refl, rfl, rfl⟩

theorem kept_refl (m : Message) : m.Kept e m :=
  m.kept_withSender m.sender

end Message

section

variable {data : Backend.Data} (h : ∀ t text, Backend.render t data = .ok text → e.rendered t text)
include h

theorem Content.kept_render (c : Content) : c.Kept e (c.render data).1 := by
  cases c with
  | literal text => exact .same _
  | template t output =>
    rw [render]
    split
    · rename_i text ht
      exact .rendered t output (h t text ht)
    · exact .same _

theorem Part.kept_render (p : Part) : p.Kept e (p.render data).1 := by
  cases p with
  | plain body => exact .plain (body.kept_render h)
  | html body related =>
    exact .html (body.kept_render h) (List.forall₂_same.mpr fun r _ ↦ r.kept_refl)
  | other contentType encoding body related => exact kept_refl _

theorem Message.kept_render (m : Message) : m.Kept e (m.render data).1 := by
  have hparts : List.Forall₂ (Part.Kept e) m.parts (m.render data).1.parts := by
    rw [render_parts]
    exact forall₂_map_self (Part.kept_render h) m.parts
  have hindices := bodyIndices_of_forall₂ hparts
  exact ⟨rfl, m.subject.kept_render h, rfl, rfl, rfl, rfl, rfl, hparts,
    List.forall₂_same.mpr fun a _ ↦ a.kept_refl, hindices.1, hindices.2⟩

end

section

variable {read : FileReader} (h : ∀ path bytes, read path = .ok bytes → e.read path bytes)
include h

theorem Payload.kept_load (fresh : Bool) (p : Payload) : p.Kept e (p.load read fresh).1 := by
  cases p with
  | memory data => exact .same _
  | file path cache =>
    rw [load]
    split
    · exact .same _
    · split
      · rename_i bytes hb
        exact .read path cache (h path bytes hb)
      · exact .same _

theorem Related.kept_load (fresh : Bool) (r : Related) : r.Kept e (r.load read fresh).1 :=
  ⟨rfl, rfl, r.payload.kept_load h fresh⟩

theorem Attachment.kept_load (fresh : Bool) (a : Attachment) : a.Kept e (a.load read fresh).1 :=
  ⟨rfl, rfl, a.payload.kept_load h fresh⟩

theorem Part.kept_load (fresh : Bool) (p : Part) : p.Kept e (p.load read fresh).1 := by
  have hrelated : List.Forall₂ (Related.Kept e) p.related
      (p.related.map fun r ↦ (r.load read fresh).1) :=
    forall₂_map_self (Related.kept_load h fresh) p.related
  rw [load, collect_map]
  cases p with
  | plain body => exact kept_refl _
  | html body related => exact .html (.same body) hrelated
  | other contentType encoding body related => exact .other contentType encoding body hrelated

theorem Message.kept_load (fresh : Bool) (m : Message) : m.Kept e (m.load read fresh).1 := by
  rw [load_eq]
  split
  · exact m.kept_refl
  · have hparts : List.Forall₂ (Part.Kept e) m.parts (m.loadAll read fresh).1.parts := by
      rw [loadAll, collect_map]
      exact forall₂_map_self (Part.kept_load h fresh) m.parts
    have hattachments :
        List.Forall₂ (Attachment.Kept e) m.attachments (m.loadAll read fresh).1.attachments := by
      rw [loadAll, collect_map (Attachment.load read fresh)]
      exact forall₂_map_self (Attachment.kept_load h fresh) m.attachments
    have hindices := bodyIndices_of_forall₂ hparts
    exact ⟨rfl, .same _, rfl, rfl, rfl, rfl, rfl, hparts, hattachments, hindices.1, hindices.2⟩

end

namespace Message

variable {m m' : Message}

/-- The subject and the texts of the parts. -/
def texts (m : Message) : List Content :=
  m.subject :: m.parts.filterMap Part.content?

theorem Kept.texts (h : m.Kept e m') : List.Forall₂ (Content.Kept e) m.texts m'.texts := by
  have hparts : ∀ {ps ps' : List Part}, List.Forall₂ (Part.Kept e) ps ps' →
      List.Forall₂ (Content.Kept e) (ps.filterMap Part.content?) (ps'.filterMap Part.content?) := by
    intro ps ps' hps
    induction hps with
    | nil => exact .nil
    | cons hp _ ih =>
      cases hp with
      | plain hbody => exact .cons hbody ih
      | html hbody _ => exact .cons hbody ih
      | other _ _ _ _ => exact ih
  exact .cons h.subject (hparts h.parts)

theorem Kept.text_of_fails (h : m.Kept e m') {i : Nat} {t : Backend.Template} {output : String}
    (hi : m.texts[i]? = some (.template t output)) (ht : ∀ text, ¬ e.rendered t text) :
    m'.texts[i]? = some (.template t output) := by
  obtain ⟨c, hc, hkept⟩ := getElem?_of_forall₂ h.texts hi
  cases hkept with
  | same => exact hc
  | rendered _ _ htext => exact absurd htext (ht _)

theorem Kept.payloadAt (h : m.Kept e m') {slot : Slot} {q : Payload}
    (hq : m.payloadAt slot = some q) : ∃ q', m'.payloadAt slot = some q' ∧ q.Kept e q' := by
  cases slot with
  | item i j =>
    obtain ⟨p, hp, r, hr, rfl⟩ := payloadAt_item.mp hq
    obtain ⟨p', hp', hpart⟩ := getElem?_of_forall₂ h.parts hp
    obtain ⟨r', hr', hrelated⟩ := getElem?_of_forall₂ hpart.related hr
    exact ⟨_, payloadAt_item.mpr ⟨p', hp', r', hr', rfl⟩, hrelated.payload⟩
  | attachment i =>
    obtain ⟨a, ha, rfl⟩ := payloadAt_attachment.mp hq
    obtain ⟨a', ha', hattachment⟩ := getElem?_of_forall₂ h.attachments ha
    exact ⟨_, payloadAt_attachment.mpr ⟨a', ha', rfl⟩, hattachment.payload⟩

theorem Kept.file_of_fails (h : m.Kept e m') {slot : Slot} {path : String} {cache : Option Bytes}
    (hq : m.payloadAt slot = some (.file path cache)) (hr : ∀ bytes, ¬ e.read path bytes) :
    m'.payloadAt slot = some (.file path cache) := by
  obtain ⟨q, hq', hkept⟩ := h.payloadAt hq
  cases hkept with
  | same => exact hq'
  | read _ _ hbytes => exact absurd hbytes (hr _)

theorem kept_compose (registry : Option Registry) (stamp : String → Stamp) {read : FileReader}
    {data : Backend.Data} (hrender : ∀ t text, Backend.render t data = .ok text → e.rendered t text)
    (hread : ∀ path bytes, read path = .ok bytes → e.read path bytes) (m : Message) :
    m.Kept e (m.compose registry stamp read data).1 := by
  rw [compose_fst]
  split
  · rw [resolve_eq]
    exact (m.kept_load hread false).trans (kept_render hrender _)
  · exact m.kept_refl

theorem kept_send {σ : Type} (s : Sender) (c : Composer) {read : FileReader} {data : Backend.Data}
    (hrender : ∀ t text, Backend.render t data = .ok text → e.rendered t text)
    (hread : ∀ path bytes, read path = .ok bytes → e.read path bytes) (transport : Transport σ)
    (m : Message) (state : σ) : m.Kept e (s.send c read data transport m state).message := by
  rw [Sender.message_send]
  exact (m.kept_withSender (some s)).trans (kept_compose c.registry c.stamp hrender hread _)

theorem kept_after {ev : Event} (hu : ev.Uses) (he : ev.effects.Among e) (m : Message) :
    m.Kept e (m.after ev) := by
  cases ev with
  | edit | copy => exact hu.elim
  | prepare read fresh => exact m.kept_load he.read fresh
  | compose registry stamp read data => exact m.kept_compose registry stamp he.rendered he.read
  | send s c read data transport state => exact kept_send s c he.rendered he.read transport m state
  | sendDefault r c read data transport state =>
    cases hs : r.default? with
    | none =>
      rw [after, Registry.send_of_none hs]
      exact m.kept_refl
    | some s =>
      rw [after, Registry.send_of_default hs]
      exact kept_send s c he.rendered he.read transport m state

theorem kept_foldl {evs : List Event} (hu : ∀ ev ∈ evs, ev.Uses)
    (he : ∀ ev ∈ evs, ev.effects.Among e) (m : Message) : m.Kept e (evs.foldl after m) := by
  induction evs generalizing m with
  | nil => exact m.kept_refl
  | cons ev evs ih =>
    obtain ⟨huev, hu⟩ := List.forall_mem_cons.mp hu
    obtain ⟨heev, he⟩ := List.forall_mem_cons.mp he
    exact (kept_after huev heev m).trans (ih hu he (m.after ev))

theorem sender_compose (registry : Option Registry) (stamp : String → Stamp) (read : FileReader)
    (data : Backend.Data) (m : Message) :
    (m.compose registry stamp read data).1.sender = m.sender := by
  have hsource := source_compose_fst read data m registry stamp
  have hsender : (m.compose registry stamp read data).1.source.sender = m.source.sender :=
    congrArg sender hsource
  exact hsender

theorem sender_after {ev : Event} (hu : ev.Uses) (m : Message) :
    (m.after ev).sender = ev.sender?.or m.sender := by
  cases ev with
  | edit | copy => exact hu.elim
  | prepare read fresh =>
    have hsender : (m.load read fresh).1.source.sender = m.source.sender :=
      congrArg sender (source_load read fresh m)
    exact hsender
  | compose registry stamp read data => exact sender_compose registry stamp read data m
  | send s c read data transport state =>
    rw [after_send]
    exact sender_compose c.registry c.stamp read data _
  | sendDefault r c read data transport state =>
    cases hs : r.default? with
    | none =>
      rw [after, Registry.send_of_none hs, Event.sender?, hs]
      rfl
    | some s =>
      rw [after, Registry.send_of_default hs, Sender.message_send, Event.sender?, hs]
      exact sender_compose c.registry c.stamp read data _

theorem sender_foldl {evs : List Event} (hu : ∀ ev ∈ evs, ev.Uses) (m : Message) :
    (evs.foldl after m).sender = evs.foldl (fun sender ev ↦ ev.sender?.or sender) m.sender := by
  induction evs generalizing m with
  | nil => rfl
  | cons ev evs ih =>
    obtain ⟨huev, hu⟩ := List.forall_mem_cons.mp hu
    rw [List.foldl_cons, List.foldl_cons, ih hu, sender_after huev]

/-- Preparing, composing and sending change nothing of a message but outputs of templates, contents
of files, the flag for prepared messages and the remembered sender, however they end. A template
that cannot be rendered keeps its output, a file that cannot be read its contents, and composing
without an author does nothing at all. The same goes for any number of such calls in a row. -/
theorem uses_keep_message (m : Message) {ev : Event} (hu : ev.Uses) :
    m.Kept ev.effects (m.after ev) ∧
    (m.after ev).sender = ev.sender?.or m.sender ∧
    (∀ (i : Nat) t output, m.texts[i]? = some (.template t output) →
      (∀ text, ¬ ev.effects.rendered t text) →
      (m.after ev).texts[i]? = some (.template t output)) ∧
    (∀ slot path cache, m.payloadAt slot = some (.file path cache) →
      (∀ bytes, ¬ ev.effects.read path bytes) →
      (m.after ev).payloadAt slot = some (.file path cache)) ∧
    (∀ registry stamp read data, m.resolveAuthor registry = none →
      m.after (.compose registry stamp read data) = m) ∧
    ∀ evs : List Event, (∀ ev' ∈ evs, ev'.Uses) →
      m.Kept (.of evs) (evs.foldl after m) ∧
      (evs.foldl after m).sender = evs.foldl (fun sender ev' ↦ ev'.sender?.or sender) m.sender := by
  have hkept : m.Kept ev.effects (m.after ev) :=
    kept_after hu ⟨fun _ _ h ↦ h, fun _ _ h ↦ h⟩ m
  refine ⟨hkept, sender_after hu m, fun i t output hi ht ↦ hkept.text_of_fails hi ht,
    fun slot path cache hq hr ↦ hkept.file_of_fails hq hr, fun registry stamp read data ha ↦ ?_,
    fun evs hevs ↦ ⟨?_, sender_foldl hevs m⟩⟩
  · rw [after, compose_fst, ha]
    rfl
  · refine kept_foldl hevs (fun ev' hev ↦ ⟨fun t text h ↦ ?_, fun path bytes h ↦ ?_⟩) m
    · exact ⟨ev', hev, h⟩
    · exact ⟨ev', hev, h⟩

end Message

end

end

namespace Message

theorem faultyLetter_uses_keep_message :
    ∃ t output, faultyLetter.subject = .template t output ∧
      (faultyLetter.after (.compose none (fun _ ↦ ⟨"", "T"⟩) (fun _ ↦ .error .notFound)
        Data.Value.null)).texts[0]? = some (.template t output) ∧
      (faultyLetter.after (.compose none (fun _ ↦ ⟨"", "T"⟩) (fun _ ↦ .error .notFound)
        Data.Value.null)).payloadAt (.attachment 1) = some (.file "n.txt" none) := by
  have hfails :
      faultyLetter.subject.failure? Data.Value.null = some TemplateError.unrenderable := by
    decide +kernel
  have hfile : faultyLetter.payloadAt (.attachment 1) = some (.file "n.txt" none) := by
    decide +kernel
  obtain ⟨t, output, hsubject, herror⟩ := Content.failure?_eq_some hfails
  have huses : (Event.compose none (fun _ ↦ ⟨"", "T"⟩) (fun _ ↦ .error .notFound)
      Data.Value.null).Uses := trivial
  obtain ⟨-, -, htexts, hfiles, -, -⟩ := faultyLetter.uses_keep_message huses
  have hfirst : faultyLetter.texts[0]? = some (.template t output) := congrArg some hsubject
  refine ⟨t, output, hsubject, htexts 0 t output hfirst fun text htext ↦ ?_,
    hfiles _ _ _ hfile fun bytes hbytes ↦ nomatch hbytes⟩
  cases herror.symm.trans htext

end Message

end MimeMail
