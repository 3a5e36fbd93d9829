import MimeMail.Proofs.Message.Loading

namespace MimeMail

open Encoding

theorem Payload.or_keep (known cache : Option Bytes) (attempt : Option (Except ReadError Bytes)) :
    (keep known attempt).or cache = keep (known.or cache) attempt := by
  cases attempt with
  | none => rfl
  | some result => cases result <;> rfl

section

variable [Backend]

def FileReader.gone : FileReader :=
  fun _ ↦ .error .notFound

theorem Log.after_of_uses {ev : Event} (hu : ev.Uses) (log : Log) (m : Message) (slot : Slot) :
    log.after m ev slot = Payload.keep (log slot) (m.eventReadAt slot ev) := by
  have hkept : (if m.renews slot ev then none else log slot) = log slot := by
    cases ev with
    | edit | copy => exact hu.elim
    | _ => rfl
  rw [Log.after, Log.record, hkept]
  rcases m.eventReadAt slot ev with _ | _ | _ <;> rfl

namespace Message

def follow (m : Message) (log : Log) : List Event → Message × Log
  | [] => (m, log)
  | ev :: evs => (m.after ev).follow (log.after m ev) evs

/-- No event gets through before the payload in a slot has been read. -/
def Awaits (m : Message) (slot : Slot) : Prop :=
  ∀ evs ev, (∀ ev' ∈ evs, ev'.Uses) → ev.Uses → (m.follow (fun _ ↦ none) evs).1.Completes ev →
    (m.follow (fun _ ↦ none) (evs ++ [ev])).2 slot ≠ none

/-- How an event deals with a file that it has to read: it stops before that, it reads the file, or
it reports it. -/
inductive Faces (m : Message) (slot : Slot) (path : String) (ev : Event) : Prop where
  | stops : m.loading? ev = none → ¬ m.Completes ev → Faces m slot path ev
  | reads {read : FileReader} {fresh : Bool} {bytes : Bytes} : m.loading? ev = some (read, fresh) →
      read path = .ok bytes → (m.after ev).payloadAt slot = some (.file path (some bytes)) →
      Faces m slot path ev
  | reports {read : FileReader} {fresh : Bool} {e : ReadError} :
      m.loading? ev = some (read, fresh) → read path = .error e →
      .payload ⟨path, e⟩ ∈ m.reports ev → ¬ m.Completes ev → Faces m slot path ev

/-- What a message has of the file in a slot. If it is nothing, the message is not prepared. -/
structure Holds (m : Message) (slot : Slot) (path : String) (known : Option Bytes) : Prop where
  payload : m.payloadAt slot = some (.file path known)
  loaded : m.prepared = true → known.isSome = true

section

variable {m : Message} {ev : Event} {read : FileReader} {fresh : Bool}
variable {slot : Slot} {path : String} {known : Option Bytes}

theorem Holds.load (h : m.Holds slot path known) (read : FileReader) (fresh : Bool) :
    (m.load read fresh).1.Holds slot path (Payload.keep known (m.readAt read fresh slot)) := by
  by_cases hm : (m.prepared && !fresh) = true
  · have hload : (m.load read fresh).1 = m := by rw [Message.load, if_pos hm]
    rw [hload, readAt, if_pos hm]
    exact h
  · have hpayload : (m.load read fresh).1.payloadAt slot =
        some (.file path (Payload.keep known (m.readAt read fresh slot))) := by
      rw [payloadAt_load, if_neg hm, readAt, if_neg hm, h.payload, Option.map_some,
        Payload.load_file]
      rfl
    refine ⟨hpayload, fun hp ↦ ?_⟩
    have hcomplete := complete_of_prepared hp (Bool.eq_false_iff.mpr hm) h.payload
    have hloaded := Payload.load_complete hcomplete
    rw [Payload.load_file] at hloaded
    rw [readAt, if_neg hm, h.payload]
    exact hloaded

theorem Holds.after (h : m.Holds slot path known) (hu : ev.Uses) :
    (m.after ev).Holds slot path (Payload.keep known (m.eventReadAt slot ev)) := by
  cases hl : m.loading? ev with
  | none =>
    obtain ⟨hpayloads, hprepared, hattempts, -⟩ := stopsAt_of_loading hu hl
    rw [hattempts]
    exact ⟨hpayloads ▸ h.payload, fun hp ↦ h.loaded (hprepared ▸ hp)⟩
  | some loading =>
    obtain ⟨hpayloads, hprepared, hattempts, -, -⟩ := loadsBy_of_loading hl
    obtain ⟨hpayload, hloaded⟩ := h.load loading.1 loading.2
    rw [hattempts]
    exact ⟨hpayloads ▸ hpayload, fun hp ↦ hloaded (hprepared ▸ hp)⟩

theorem Holds.follow {log : Log} {cache : Option Bytes} {evs : List Event}
    (h : m.Holds slot path ((log slot).or cache)) (hu : ∀ ev ∈ evs, ev.Uses) :
    (m.follow log evs).1.Holds slot path (((m.follow log evs).2 slot).or cache) := by
  induction evs generalizing m log with
  | nil => exact h
  | cons ev evs ih =>
    obtain ⟨hev, hevs⟩ := List.forall_mem_cons.mp hu
    refine ih ?_ hevs
    rw [Log.after_of_uses hev, Payload.or_keep]
    exact h.after hev

theorem follow_concat (m : Message) (log : Log) (evs : List Event) (ev : Event) :
    m.follow log (evs ++ [ev]) =
      ((m.follow log evs).1.after ev, (m.follow log evs).2.after (m.follow log evs).1 ev) := by
  induction evs generalizing m log with
  | nil => rfl
  | cons ev' evs ih => exact ih _ _

theorem Holds.faces (h : m.Holds slot path known) (hu : ev.Uses)
    (hl : ∀ read fresh, m.loading? ev = some (read, fresh) → fresh = true ∨ known = none) :
    m.Faces slot path ev := by
  rcases hload : m.loading? ev with _ | ⟨read, fresh⟩
  · exact .stops hload (stopsAt_of_loading hu hload).completes
  · obtain ⟨hpayloads, -, hattempts, hreports, hcompletes⟩ := loadsBy_of_loading hload
    -- Neither the flag nor contents keep the file from being tried.
    have hm : (m.prepared && !fresh) = false := by
      rcases hl read fresh hload with rfl | rfl
      · exact Bool.and_false _
      · have hprepared : m.prepared = false := Bool.eq_false_iff.mpr fun hp ↦ by
          cases h.loaded hp
        rw [hprepared, Bool.false_and]
    have hfile : (known.isSome && !fresh) = false := by
      rcases hl read fresh hload with rfl | rfl
      · exact Bool.and_false _
      · rw [Option.isSome_none, Bool.false_and]
    cases hr : read path with
    | ok bytes =>
      refine .reads hload hr ?_
      have hread := (h.after hu).payload
      rw [hattempts, readAt, if_neg (by simp [hm]), h.payload] at hread
      simpa [Payload.attempt, hfile, hr, Payload.keep] using hread
    | error e =>
      have hfailure : ⟨path, e⟩ ∈ (m.load read fresh).2 := by
        refine mem_failures_load h.payload hm ?_
        simp [Payload.load, hfile, hr]
      refine .reports hload hr (hreports _ hfailure) fun hc ↦ ?_
      rw [hcompletes hc] at hfailure
      cases hfailure

theorem Holds.reads (h : m.Holds slot path none) (hu : ev.Uses) (hc : m.Completes ev) :
    Payload.keep none (m.eventReadAt slot ev) ≠ none := by
  intro hnone
  have hafter := (h.after hu).payload
  rw [hnone] at hafter
  cases h.faces hu fun _ _ _ ↦ .inr rfl with
  | stops _ hstops => exact hstops hc
  | reads _ _ hread => cases hafter.symm.trans hread
  | reports _ _ _ hreports => exact hreports hc

theorem Holds.awaits (h : m.Holds slot path none) : m.Awaits slot := by
  intro evs ev huses hu hc
  have hfollow : (m.follow (fun _ ↦ none) evs).1.Holds slot path
      (((m.follow (fun _ ↦ none) evs).2 slot).or none) := Holds.follow h huses
  rw [follow_concat]
  dsimp only
  rw [Log.after_of_uses hu]
  cases hs : (m.follow (fun _ ↦ none) evs).2 slot with
  | none =>
    rw [hs] at hfollow
    exact hfollow.reads hu hc
  | some bytes =>
    rcases (m.follow (fun _ ↦ none) evs).1.eventReadAt slot ev with _ | _ | _ <;>
      simp [Payload.keep]

theorem Holds.skips (h : m.Holds slot path known) (hk : known ≠ none)
    (hl : m.loading? ev = some (read, false)) :
    m.eventReadAt slot ev = none ∧ (m.after ev).payloadAt slot = some (.file path known) := by
  obtain ⟨bytes, rfl⟩ := Option.ne_none_iff_exists'.mp hk
  have hnone : m.readAt read false slot = none := by
    rw [readAt, h.payload]
    simp [Payload.attempt]
  have hload := (h.load read false).payload
  obtain ⟨hpayloads, -, hattempts, -, -⟩ := loadsBy_of_loading hl
  rw [hnone] at hload
  exact ⟨(hattempts slot).trans hnone, hpayloads ▸ hload⟩

theorem Holds.given (h : m.Holds slot path known) (hu : ev.Uses) {body : List Char}
    (hb : body ∈ m.outputs ev) :
    ∃ bytes content fields token, Payload.keep known (m.eventReadAt slot ev) = some bytes ∧
      content = Base64.encode bytes ∧ Base64.decode content = some bytes ∧
      Wire.encodingField "base64" ∈ fields ∧
      (Wire.Entity.leaf fields content).write token <:+: body := by
  cases hl : m.loading? ev with
  | none => exact absurd (completes_of_mem_outputs hb) (stopsAt_of_loading hu hl).completes
  | some loading =>
    obtain ⟨hpayload, hloaded⟩ := h.after hu
    obtain ⟨hprepared, author, stamp, rfl⟩ := (loadsBy_of_loading hl).outputs body hb
    obtain ⟨bytes, hbytes⟩ := Option.isSome_iff_exists.mp (hloaded hprepared)
    obtain ⟨content, fields, hencode, hdecode, hlabel, hentity⟩ :=
      entityAt_of_payloadAt hpayload hbytes
    exact ⟨bytes, content, fields, _, hbytes, hencode, hdecode, hlabel,
      (write_entityAt_isInfix hentity).trans (List.suffix_append _ _).isInfix⟩

theorem holds_of_refresh {cache : Option Bytes} {e : ReadError}
    (hq : m.payloadAt slot = some (.file path cache)) (hr : read path = .error e) :
    ⟨path, e⟩ ∈ (m.load read true).2 ∧ (m.load read true).1.prepared = false ∧
      (m.load read true).1.Holds slot path cache := by
  have hm : (m.prepared && !true) = false := Bool.and_false _
  have hfailure : ⟨path, e⟩ ∈ (m.load read true).2 := by
    refine mem_failures_load hq hm ?_
    simp [Payload.load, hr]
  have hprepared : (m.load read true).1.prepared = false := by
    refine Bool.eq_false_iff.mpr fun hp ↦ ?_
    have hcomplete := complete_of_prepared hp hm hq
    simp [Payload.load, hr] at hcomplete
  refine ⟨hfailure, hprepared, ?_, fun hp ↦ ?_⟩
  · rw [payloadAt_load, if_neg (by simp), hq]
    simp [Payload.load, hr]
  · rw [hprepared] at hp
    cases hp

/-- What becomes of a file that a refresh could not read. The refresh reports it, the message is no
longer prepared, and it keeps what it had of the file. If that is nothing, no event gets through
before the file has been read. Later on the message has of the file what was read last, or else what
it had before the refresh. A refresh, and as long as that is nothing every event, reads the file,
reports it or stops before that; other events go on with what there is. What is composed or sent has
what was read last by then, or else what was there before the refresh, in a base64 body that decodes
to just these bytes. -/
theorem refresh_keeps_unreadable {cache : Option Bytes} {e : ReadError}
    (hq : m.payloadAt slot = some (.file path cache)) (hr : read path = .error e) :
    ⟨path, e⟩ ∈ (m.load read true).2 ∧ (m.load read true).1.prepared = false ∧
    (m.load read true).1.payloadAt slot = some (.file path cache) ∧
    (cache = none → (m.load read true).1.Awaits slot) ∧
    ∀ evs m' log, (∀ ev ∈ evs, ev.Uses) →
      (m.load read true).1.follow (fun _ ↦ none) evs = (m', log) →
      m'.payloadAt slot = some (.file path ((log slot).or cache)) ∧
      (∀ ev, ev.Uses →
        (∀ read' fresh, m'.loading? ev = some (read', fresh) →
          fresh = true ∨ (log slot).or cache = none) →
        m'.Faces slot path ev) ∧
      (∀ ev read', m'.loading? ev = some (read', false) → (log slot).or cache ≠ none →
        m'.eventReadAt slot ev = none ∧
          (m'.after ev).payloadAt slot = some (.file path ((log slot).or cache))) ∧
      ∀ ev body, ev.Uses → body ∈ m'.outputs ev →
        ∃ bytes content fields token, (log.after m' ev slot).or cache = some bytes ∧
          content = Base64.encode bytes ∧ Base64.decode content = some bytes ∧
          Wire.encodingField "base64" ∈ fields ∧
          (Wire.Entity.leaf fields content).write token <:+: body := by
  obtain ⟨hfailure, hprepared, hholds⟩ := holds_of_refresh hq hr
  refine ⟨hfailure, hprepared, hholds.payload, ?_, fun evs m' log hevs hfollow ↦ ?_⟩
  · rintro rfl
    exact hholds.awaits
  · have hrun : m'.Holds slot path ((log slot).or cache) := by
      have hall : ((m.load read true).1.follow (fun _ ↦ none) evs).1.Holds slot path _ :=
        Holds.follow hholds hevs
      rwa [hfollow] at hall
    refine ⟨hrun.payload, fun ev hu hl ↦ hrun.faces hu hl,
      fun ev read' hl hk ↦ hrun.skips hk hl, fun ev body hu hb ↦ ?_⟩
    rw [Log.after_of_uses hu, Payload.or_keep]
    exact hrun.given hu hb

end

end Message

end

namespace Message

theorem letter_refresh_keeps_unreadable :
    (letter.load .gone true).1.Awaits (.attachment 0) ∧
    (letter.load .gone true).1.Faces (.attachment 0) "n.txt" (.prepare .gone false) ∧
    (readLetter.load .gone true).1.payloadAt (.attachment 0) = some (.file "n.txt" (some [0x41])) ∧
    (readLetter.load .gone true).1.Faces (.attachment 0) "n.txt" (.prepare .gone true) ∧
    ∃ content fields token, Base64.decode content = some [0x41] ∧
      (Wire.Entity.leaf fields content).write token <:+: readLetter.write .zoe ⟨"", "T"⟩ := by
  have hunknown : letter.payloadAt (.attachment 0) = some (.file "n.txt" none) := rfl
  have hknown : readLetter.payloadAt (.attachment 0) = some (.file "n.txt" (some [0x41])) := rfl
  have hgone : FileReader.gone "n.txt" = .error .notFound := rfl
  obtain ⟨-, -, -, hawaits, hfaces⟩ := refresh_keeps_unreadable hunknown hgone
  obtain ⟨-, -, hkept, -, hrun⟩ := refresh_keeps_unreadable hknown hgone
  obtain ⟨-, hunread, -, -⟩ := hfaces [] _ _ (fun _ h ↦ nomatch h) rfl
  obtain ⟨-, hread, -, hgiven⟩ := hrun [] _ _ (fun _ h ↦ nomatch h) rfl
  obtain ⟨bytes, content, fields, token, hbytes, -, hdecode, -, hout⟩ :=
    hgiven (.compose none (fun _ ↦ ⟨"", "T"⟩) .gone Data.Value.null) _ trivial
      (List.mem_singleton_self _)
  refine ⟨hawaits rfl, hunread _ trivial fun _ _ _ ↦ .inr rfl, hkept,
    hread _ trivial fun _ fresh hl ↦ .inl ?_, content, fields, token, ?_, hout⟩
  · exact (Prod.mk.inj (Option.some.inj hl)).2.symm
  · obtain rfl : [0x41] = bytes := Option.some.inj hbytes
    exact hdecode

/-- What has been read of a file goes out after a refresh that could not read it again. -/
theorem stale_letter_goes_out :
    readLetter.Reachable ∧ (readLetter.load .gone true).2 = [⟨"n.txt", .notFound⟩] ∧
    ((readLetter.load .gone true).1.load .gone false).2 = [] ∧
    ((readLetter.load .gone true).1.compose none (fun _ ↦ ⟨"", "T"⟩) .gone Data.Value.null).2 =
      .ok (readLetter.write .zoe ⟨"", "T"⟩) ∧
    ¬ (readLetter.load .gone true).1.Awaits (.attachment 0) := by
  have hrun :=
    run_letter.step (.compose none (fun _ ↦ ⟨"", "T"⟩) (fun _ ↦ .ok [0x41]) Data.Value.null) trivial
  refine ⟨⟨_, hrun⟩, rfl, rfl, rfl, fun hawaits ↦ ?_⟩
  -- Preparing gets through without a read.
  exact hawaits [] (.prepare .gone false) (fun _ h ↦ nomatch h) trivial rfl rfl

end Message

end MimeMail
