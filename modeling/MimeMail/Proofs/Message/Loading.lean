import MimeMail.Proofs.Delivery.Recipients
import MimeMail.Proofs.Message.Accounting

namespace MimeMail

/-- What is known of a file behind an attempt to read it. -/
def Payload.keep (known : Option Bytes) : Option (Except ReadError Bytes) → Option Bytes
  | some (.ok bytes) => some bytes
  | some (.error _) | none => known

theorem Payload.load_file (read : FileReader) (fresh : Bool) (path : String)
    (cache : Option Bytes) : ((file path cache).load read fresh).1 =
      .file path (keep cache ((file path cache).attempt read fresh)) := by
  rw [load, attempt]
  split
  · rfl
  · cases read path <;> rfl

variable [Backend]

/-- Events that prepare, compose or send a message as it is. -/
def Event.Uses : Event → Prop
  | .prepare _ _ | .compose _ _ _ _ | .send _ _ _ _ _ _ | .sendDefault _ _ _ _ _ _ => True
  | .edit _ | .copy => False

def ComposeError.ofResult : Except (List ComposeError) (List Char) → List ComposeError
  | .ok _ => []
  | .error errors => errors

def ComposeError.ofAnswer : Except SendError Unit → List ComposeError
  | .error (.compose errors) => errors
  | .error .noDefaultSender | .error (.transport _) | .ok () => []

theorem Registry.send_of_default {σ : Type} {r : Registry} {s : Sender} (h : r.default? = some s)
    (c : Composer) (read : FileReader) (data : Backend.Data) (transport : Transport σ) (m : Message)
    (state : σ) : r.send c read data transport m state = s.send c read data transport m state := by
  rw [send, h]

theorem Registry.send_of_none {σ : Type} {r : Registry} (h : r.default? = none)
    (c : Composer) (read : FileReader) (data : Backend.Data) (transport : Transport σ) (m : Message)
    (state : σ) :
    r.send c read data transport m state = ⟨m, .error .noDefaultSender, state⟩ := by
  rw [send, h]

namespace Message

/-- The loading that an event starts: where files are read, and whether those that have been read
are read again. Without an author, or without the sender that is to be used, there is none. -/
def loading? (m : Message) : Event → Option (FileReader × Bool)
  | .prepare read fresh => some (read, fresh)
  | .compose registry _ read _ =>
    if (m.resolveAuthor registry).isSome then some (read, false) else none
  | .send s c read _ _ _ =>
    if (({ m with sender := some s } : Message).resolveAuthor c.registry).isSome then
      some (read, false)
    else none
  | .sendDefault r c read _ _ _ => r.default?.bind fun s ↦
    if (({ m with sender := some s } : Message).resolveAuthor c.registry).isSome then
      some (read, false)
    else none
  | .edit _ | .copy => none

def reports (m : Message) : Event → List ComposeError
  | .prepare read fresh => (m.load read fresh).2.map .payload
  | .compose registry stamp read data =>
    ComposeError.ofResult (m.compose registry stamp read data).2
  | .send s c read data transport state =>
    ComposeError.ofAnswer (s.send c read data transport m state).answer
  | .sendDefault r c read data transport state =>
    ComposeError.ofAnswer (r.send c read data transport m state).answer
  | .edit _ | .copy => []

/-- The texts that an event gives out: what is composed, or the bodies that are handed over. -/
def outputs (m : Message) : Event → List (List Char)
  | .compose registry stamp read data => (m.compose registry stamp read data).2.toOption.toList
  | .send s c read data transport state =>
    (s.deliveries c read data transport m state).map Delivery.body
  | .sendDefault r c read data transport state =>
    (r.send c read data transport.logged m ([], state)).state.1.map Delivery.body
  | .edit _ | .prepare _ _ | .copy => []

/-- Whether an event gets through: preparing reports nothing, composing and sending give a text
out. -/
def Completes (m : Message) : Event → Prop
  | .prepare read fresh => (m.load read fresh).2 = []
  | .compose registry stamp read data => m.outputs (.compose registry stamp read data) ≠ []
  | .send s c read data transport state => m.outputs (.send s c read data transport state) ≠ []
  | .sendDefault r c read data transport state =>
    m.outputs (.sendDefault r c read data transport state) ≠ []
  | .edit _ | .copy => True

/-- An event does what loading does, as far as payloads go, and gets through only if that does. -/
structure LoadsBy (m : Message) (ev : Event) (read : FileReader) (fresh : Bool) : Prop where
  payloads : (m.after ev).payloadAt = (m.load read fresh).1.payloadAt
  prepared : (m.after ev).prepared = (m.load read fresh).1.prepared
  attempts : ∀ slot, m.eventReadAt slot ev = m.readAt read fresh slot
  reports : ∀ f ∈ (m.load read fresh).2, .payload f ∈ m.reports ev
  completes : m.Completes ev → (m.load read fresh).2 = []
  outputs : ∀ body ∈ m.outputs ev,
    (m.after ev).prepared = true ∧ ∃ author stamp, body = (m.after ev).write author stamp

structure StopsAt (m : Message) (ev : Event) : Prop where
  payloads : (m.after ev).payloadAt = m.payloadAt
  prepared : (m.after ev).prepared = m.prepared
  attempts : ∀ slot, m.eventReadAt slot ev = none
  completes : ¬ m.Completes ev

section

variable {σ : Type} {m : Message} {registry : Option Registry} {s : Sender} {c : Composer}
  {transport : Transport σ} {state : σ}
variable (stamp : String → Stamp) (read : FileReader) (data : Backend.Data)

theorem ofResult_compose (ha : (m.resolveAuthor registry).isSome = true) :
    ComposeError.ofResult (m.compose registry stamp read data).2 = (m.resolve read data).2 := by
  obtain ⟨author, ha⟩ := Option.isSome_iff_exists.mp ha
  rw [compose, ha]
  dsimp only
  split
  · rename_i h
    exact (List.isEmpty_iff.mp h).symm
  · rfl

variable {stamp read data} in
theorem compose_of_mem_outputs {body : List Char}
    (hb : body ∈ m.outputs (.compose registry stamp read data)) :
    (m.compose registry stamp read data).2 = .ok body := by
  rw [outputs] at hb
  cases hc : (m.compose registry stamp read data).2 with
  | error errors =>
    rw [hc] at hb
    cases hb
  | ok out =>
    rw [hc] at hb
    exact congrArg Except.ok (List.mem_singleton.mp hb).symm

theorem loadsBy_compose (ha : (m.resolveAuthor registry).isSome = true) :
    m.LoadsBy (.compose registry stamp read data) read false := by
  have hafter : m.after (.compose registry stamp read data) =
      ((m.load read false).1.render data).1 := by
    rw [after, compose_fst, if_pos ha, resolve_eq]
  refine ⟨?_, ?_, fun slot ↦ if_pos ha, fun f hf ↦ ?_, fun hc ↦ ?_, fun body hb ↦ ?_⟩
  · rw [hafter, payloadAt_render]
  · rw [hafter]
    rfl
  · rw [reports, ofResult_compose stamp read data ha, resolve_eq]
    exact List.mem_append_right _ (List.mem_map_of_mem hf)
  · obtain ⟨out, hout⟩ := List.exists_mem_of_ne_nil _ hc
    have hnone : (m.resolve read data).2 = [] := by
      rw [← ofResult_compose stamp read data ha, compose_of_mem_outputs hout]
      rfl
    rw [resolve_eq] at hnone
    exact List.map_eq_nil_iff.mp (List.append_eq_nil_iff.mp hnone).2
  · have hbody : m.compose registry stamp read data =
        (m.after (.compose registry stamp read data), .ok body) :=
      Prod.ext rfl (compose_of_mem_outputs hb)
    obtain ⟨author, -, -, hout⟩ := compose_ok hbody
    exact ⟨prepared_of_compose hbody, author, _, hout⟩

theorem stopsAt_compose (ha : (m.resolveAuthor registry).isSome = false) :
    m.StopsAt (.compose registry stamp read data) := by
  have hnone : m.resolveAuthor registry = none := by simpa using ha
  have hcompose : m.compose registry stamp read data = (m, .error [.noAuthor]) := by
    rw [compose, hnone]
  refine ⟨?_, ?_, fun slot ↦ if_neg (by simp [ha]), fun hc ↦ hc ?_⟩
  · rw [after, hcompose]
  · rw [after, hcompose]
  · rw [outputs, hcompose]
    rfl

variable {read} {data}

theorem after_send : m.after (.send s c read data transport state) =
    ({ m with sender := some s } : Message).after (.compose c.registry c.stamp read data) :=
  Sender.message_send s c read data transport m state

theorem reports_send : m.reports (.send s c read data transport state) =
    ({ m with sender := some s } : Message).reports (.compose c.registry c.stamp read data) := by
  have hreports : ({ m with sender := some s } : Message).reports
      (.compose c.registry c.stamp read data) =
        ComposeError.ofResult (c.compose read data { m with sender := some s }).2 := rfl
  rw [hreports, reports]
  rcases hc : c.compose read data { m with sender := some s } with ⟨m', result⟩
  cases result with
  | error errors =>
    rw [Sender.send_of_error hc]
    rfl
  | ok body =>
    rw [Sender.send_of_ok hc]
    dsimp only
    cases (transport (s.delivery c.registry m' body) state).1 <;> rfl

theorem outputs_send : m.outputs (.send s c read data transport state) =
    ({ m with sender := some s } : Message).outputs (.compose c.registry c.stamp read data) :=
  s.bodies_deliveries c read data transport m state

theorem completes_send : m.Completes (.send s c read data transport state) ↔
    ({ m with sender := some s } : Message).Completes (.compose c.registry c.stamp read data) := by
  rw [Completes, Completes, outputs_send]

theorem load_sender (sender : Option Sender) (read : FileReader) (fresh : Bool) (m : Message) :
    ({ m with sender := sender } : Message).load read fresh =
      ({ (m.load read fresh).1 with sender := sender }, (m.load read fresh).2) := by
  rw [load_eq, load_eq]
  dsimp only
  split <;> rfl

theorem loadsBy_send
    (ha : (({ m with sender := some s } : Message).resolveAuthor c.registry).isSome = true) :
    m.LoadsBy (.send s c read data transport state) read false := by
  obtain ⟨hpayloads, hprepared, hattempts, hreports, hcompletes, houtputs⟩ :=
    loadsBy_compose c.stamp read data ha
  -- Loading does not look at the sender, and leaves it as it is.
  rw [load_sender] at hpayloads hprepared hreports hcompletes
  refine ⟨?_, ?_, hattempts, ?_, ?_, ?_⟩
  · rw [after_send, hpayloads]
    rfl
  · rw [after_send, hprepared]
  · rw [reports_send]
    exact hreports
  · rw [completes_send]
    exact hcompletes
  · rw [outputs_send, after_send]
    exact houtputs

theorem stopsAt_send
    (ha : (({ m with sender := some s } : Message).resolveAuthor c.registry).isSome = false) :
    m.StopsAt (.send s c read data transport state) := by
  obtain ⟨hpayloads, hprepared, hattempts, hcompletes⟩ := stopsAt_compose c.stamp read data ha
  refine ⟨?_, ?_, hattempts, ?_⟩
  · rw [after_send, hpayloads]
    rfl
  · rw [after_send, hprepared]
  · rw [completes_send]
    exact hcompletes

end

section

variable {m : Message} {ev : Event} {read : FileReader} {fresh : Bool}

theorem loadsBy_of_loading (h : m.loading? ev = some (read, fresh)) : m.LoadsBy ev read fresh := by
  cases ev with
  | edit | copy => cases h
  | prepare read' fresh' =>
    obtain ⟨rfl, rfl⟩ := Prod.mk.inj (Option.some.inj h)
    exact ⟨rfl, rfl, fun _ ↦ rfl, fun f hf ↦ List.mem_map_of_mem hf, id, fun _ hb ↦ nomatch hb⟩
  | compose registry stamp read' data =>
    obtain ⟨ha, h⟩ := Option.ite_none_right_eq_some.mp h
    obtain ⟨rfl, rfl⟩ := Prod.mk.inj (Option.some.inj h)
    exact loadsBy_compose stamp read' data ha
  | send s c read' data transport state =>
    obtain ⟨ha, h⟩ := Option.ite_none_right_eq_some.mp h
    obtain ⟨rfl, rfl⟩ := Prod.mk.inj (Option.some.inj h)
    exact loadsBy_send ha
  | sendDefault r c read' data transport state =>
    obtain ⟨s, hs, h⟩ := Option.bind_eq_some_iff.mp h
    obtain ⟨ha, h⟩ := Option.ite_none_right_eq_some.mp h
    obtain ⟨rfl, rfl⟩ := Prod.mk.inj (Option.some.inj h)
    -- With a default sender the event is a send by it.
    have hsend := Registry.send_of_default hs c read' data transport m state
    have hlogged := Registry.send_of_default hs c read' data transport.logged m ([], state)
    have hloads : m.LoadsBy (.send s c read' data transport state) read' false := loadsBy_send ha
    obtain ⟨hpayloads, hprepared, hattempts, hreports, hcompletes, houtputs⟩ := hloads
    refine ⟨?_, ?_, fun slot ↦ ?_, ?_, ?_, ?_⟩
    · rwa [after, hsend]
    · rwa [after, hsend]
    · rw [eventReadAt, hs]
      exact hattempts slot
    · rwa [reports, hsend]
    · rwa [Completes, outputs, hlogged]
    · rwa [outputs, hlogged, after, hsend]

theorem stopsAt_of_loading (hu : ev.Uses) (h : m.loading? ev = none) : m.StopsAt ev := by
  cases ev with
  | edit | copy => exact hu.elim
  | prepare read fresh => cases h
  | compose registry stamp read data =>
    refine stopsAt_compose stamp read data ?_
    simpa [loading?] using h
  | send s c read data transport state =>
    refine stopsAt_send ?_
    simpa [loading?] using h
  | sendDefault r c read data transport state =>
    cases hs : r.default? with
    | none =>
      refine ⟨?_, ?_, fun slot ↦ ?_, ?_⟩
      · rw [after, Registry.send_of_none hs]
      · rw [after, Registry.send_of_none hs]
      · rw [eventReadAt, hs, Option.bind_none]
      · rw [Completes, outputs, Registry.send_of_none hs]
        exact absurd rfl
    | some s =>
      have hsend := Registry.send_of_default hs c read data transport m state
      have hlogged := Registry.send_of_default hs c read data transport.logged m ([], state)
      have ha :
          (({ m with sender := some s } : Message).resolveAuthor c.registry).isSome = false := by
        simpa [loading?, hs] using h
      have hstops : m.StopsAt (.send s c read data transport state) := stopsAt_send ha
      obtain ⟨hpayloads, hprepared, hattempts, hcompletes⟩ := hstops
      refine ⟨?_, ?_, fun slot ↦ ?_, ?_⟩
      · rwa [after, hsend]
      · rwa [after, hsend]
      · rw [eventReadAt, hs]
        exact hattempts slot
      · rwa [Completes, outputs, hlogged]

theorem completes_of_mem_outputs {body : List Char} (hb : body ∈ m.outputs ev) :
    m.Completes ev := by
  cases ev with
  | edit | copy => trivial
  | prepare => cases hb
  | _ => exact List.ne_nil_of_mem hb

theorem mem_failures_load {slot : Slot} {q : Payload} {f : ReadFailure}
    (hq : m.payloadAt slot = some q) (hm : (m.prepared && !fresh) = false)
    (hf : f ∈ (q.load read fresh).2) : f ∈ (m.load read fresh).2 := by
  have hall : (m.load read fresh).2 =
      (m.parts.flatMap fun p ↦ p.related.flatMap fun r ↦ (r.load read fresh).2) ++
        m.attachments.flatMap fun a ↦ (a.load read fresh).2 := by
    simp [load, hm, collect, Part.load, List.flatMap_map]
  rw [hall, List.mem_append]
  cases slot with
  | item i j =>
    obtain ⟨p, hp, r, hr, rfl⟩ := payloadAt_item.mp hq
    exact .inl (List.mem_flatMap.mpr ⟨p, List.mem_of_getElem? hp,
      List.mem_flatMap.mpr ⟨r, List.mem_of_getElem? hr, hf⟩⟩)
  | attachment i =>
    obtain ⟨a, ha, rfl⟩ := payloadAt_attachment.mp hq
    exact .inr (List.mem_flatMap.mpr ⟨a, List.mem_of_getElem? ha, hf⟩)

end

end Message

end MimeMail
