import MimeMail.Proofs.Message.Copy

namespace MimeMail

variable [Backend]

/-- Whether one part takes the place of the other: both are the plain body, or the markup body. -/
def Part.replaces (p q : Part) : Bool :=
  p.isPlain && q.isPlain || p.isHtml && q.isHtml

structure Part.IsBodyKind (kind : Part → Bool) : Prop where
  replaces {p : Part} : kind p = true → p.replaces = kind
  source (p : Part) : kind p.source = kind p

/-- The part that a call gives. A template that cannot be read gives none. -/
def Edit.part? : Edit → Option Part
  | .plain text => some (.plain (.literal text))
  | .plainTemplate source =>
    (Backend.parse source .plain).toOption.map fun t ↦ .plain (.template t "")
  | .html text related => some (.html (.literal text) related)
  | .htmlTemplate source related =>
    (Backend.parse source .markup).toOption.map fun t ↦ .html (.template t "") related
  | .part contentType encoding body related => some (.other contentType encoding body related)
  | _ => none

def Event.part? : Event → Option Part
  | .edit e => e.part?
  | .prepare _ _ | .compose _ _ _ _ | .send _ _ _ _ _ _ | .sendDefault _ _ _ _ _ _ | .copy => none

namespace PartList

/-- Of the parts that calls give, one after the other, those that open an entry. -/
def openings : List Part → List Part
  | [] => []
  | p :: given => p :: (openings given).filter fun q ↦ !p.replaces q

/-- What an entry holds in the end: the part that was given last for it. -/
def latest (given : List Part) (p : Part) : Part :=
  (given.filter p.replaces).getLastD p

/-- The part list that the calls say. -/
def layout (given : List Part) : List Part :=
  (openings given).map (latest given)

end PartList

/-- Puts a part in the place of the one it replaces, or behind all parts. -/
def Message.put (m : Message) (p : Part) : Message :=
  { m with parts := putPart p.replaces p m.parts, prepared := m.prepared && !p.hasFiles }

namespace Part

variable {p q r : Part}

theorem replaces_comm (p q : Part) : p.replaces q = q.replaces p := by
  simp only [replaces, Bool.and_comm]

theorem replaces_congr (h : q.replaces r = true) (p : Part) : p.replaces r = p.replaces q := by
  cases q <;> cases r <;> first | (cases p <;> rfl) | cases h

theorem replaces_plain (body : Content) : (Part.plain body).replaces = isPlain := by
  funext q
  cases q <;> rfl

theorem replaces_html (body : Content) (related : List Related) :
    (Part.html body related).replaces = isHtml := by
  funext q
  cases q <;> rfl

theorem replaces_other (contentType : String) (encoding : TransferEncoding) (body : Bytes)
    (related : List Related) (q : Part) :
    (Part.other contentType encoding body related).replaces q = false := by
  cases q <;> rfl

theorem isPlain_source (p : Part) : p.source.isPlain = p.isPlain := by
  cases p <;> rfl

theorem isHtml_source (p : Part) : p.source.isHtml = p.isHtml := by
  cases p <;> rfl

theorem replaces_source (p q : Part) : p.source.replaces q.source = p.replaces q := by
  simp only [replaces, isPlain_source, isHtml_source]

theorem isBodyKind_isPlain : IsBodyKind isPlain where
  replaces {p} h := by
    cases p with
    | plain body => exact replaces_plain body
    | html | other => cases h
  source := isPlain_source

theorem isBodyKind_isHtml : IsBodyKind isHtml where
  replaces {p} h := by
    cases p with
    | html body related => exact replaces_html body related
    | plain | other => cases h
  source := isHtml_source

theorem source_unload (p : Part) : p.unload.source = p.source := by
  have hitems : (p.related.map Related.source).map Related.source =
      p.related.map Related.source := by
    rw [List.map_map]
    refine List.map_congr_left fun r _ ↦ ?_
    rcases r with ⟨id, contentType, payload⟩
    cases payload <;> rfl
  cases p with
  | plain body => rfl
  | html body related => exact congrArg (Part.html body.source) hitems
  | other contentType encoding body related =>
    exact congrArg (Part.other contentType encoding body) hitems

end Part

theorem Content.ofSource_eq_ok {source : String} {escaping : Escaping} {body : Content} :
    ofSource source escaping = .ok body ↔
      ∃ t, Backend.parse source escaping = .ok t ∧ body = .template t "" := by
  rw [ofSource]
  cases Backend.parse source escaping with
  | error err => simp [Except.map]
  | ok t => simp [Except.map, eq_comm]

section

variable {kind k : Part → Bool} {p : Part} {ps : List Part}

theorem putPart_of_none (h : ps.any kind = false) : putPart kind p ps = ps ++ [p] := by
  induction ps with
  | nil => rfl
  | cons q qs ih =>
    obtain ⟨hq, hqs⟩ := Bool.or_eq_false_iff.mp h
    rw [putPart, hq, if_neg Bool.false_ne_true, ih hqs, List.cons_append]

theorem putPart_of_pairwise (h : ps.Pairwise fun q r ↦ kind q = true → kind r = false)
    (hany : ps.any kind = true) :
    putPart kind p ps = ps.map fun q ↦ if kind q then p else q := by
  induction ps with
  | nil => cases hany
  | cons q qs ih =>
    obtain ⟨hq, hqs⟩ := List.pairwise_cons.mp h
    cases hk : kind q with
    | true =>
      have hkeep : (qs.map fun r ↦ if kind r then p else r) = qs := by
        refine (List.map_congr_left fun r hr ↦ ?_).trans (List.map_id qs)
        rw [hq r hr hk]
        rfl
      simp [putPart, hk, hkeep]
    | false =>
      rw [List.any_cons, hk, Bool.false_or] at hany
      simp [putPart, hk, ih hqs hany]

theorem map_putPart (f : Part → Part) (h : ∀ q, k (f q) = kind q) (p : Part) (ps : List Part) :
    (putPart kind p ps).map f = putPart k (f p) (ps.map f) := by
  induction ps with
  | nil => rfl
  | cons q qs ih =>
    rw [putPart, List.map_cons, putPart, h]
    split
    · rfl
    · rw [List.map_cons, ih]

end

namespace PartList

variable {p q : Part}

theorem latest_concat (given : List Part) (p q : Part) :
    latest (given ++ [p]) q = if q.replaces p then p else latest given q := by
  rw [latest, List.filter_append]
  cases h : q.replaces p <;> simp [latest, h]

theorem openings_concat (given : List Part) (p : Part) :
    openings (given ++ [p]) =
      if given.any p.replaces then openings given else openings given ++ [p] := by
  induction given with
  | nil => rfl
  | cons q qs ih =>
    rw [List.cons_append, openings, ih, List.any_cons, p.replaces_comm q]
    cases hany : qs.any p.replaces <;> cases hq : q.replaces p <;> simp [openings, hq]

theorem pairwise_openings (given : List Part) :
    (openings given).Pairwise fun q r ↦ q.replaces r = false := by
  induction given with
  | nil => exact .nil
  | cons q qs ih =>
    refine List.pairwise_cons.mpr ⟨fun r hr ↦ ?_, ih.filter _⟩
    simpa using (List.mem_filter.mp hr).2

theorem any_openings (p : Part) (given : List Part) :
    (openings given).any p.replaces = given.any p.replaces := by
  induction given with
  | nil => rfl
  | cons q qs ih =>
    cases hq : p.replaces q with
    | true => simp [openings, hq]
    | false =>
      have hkeep : (fun r ↦ !q.replaces r && p.replaces r) = p.replaces := by
        funext r
        cases hr : q.replaces r with
        | false => rfl
        | true => rw [Part.replaces_congr hr, hq]; rfl
      rw [openings, List.any_cons, List.any_cons, hq, List.any_filter, hkeep, ih]

theorem replaces_latest (given : List Part) (p q : Part) :
    p.replaces (latest given q) = p.replaces q := by
  rw [latest]
  rcases hlast : (given.filter q.replaces).getLast? with _ | r
  · rw [List.getLastD_eq_getLast?, hlast]
    rfl
  · rw [List.getLastD_eq_getLast?, hlast, Option.getD_some]
    exact Part.replaces_congr (List.mem_filter.mp (List.mem_of_getLast? hlast)).2 p

theorem mem_of_mem_openings {given : List Part} (h : p ∈ openings given) : p ∈ given := by
  induction given with
  | nil => exact h
  | cons q qs ih =>
    obtain rfl | h := List.mem_cons.mp h
    · exact List.mem_cons_self
    · exact List.mem_cons_of_mem q (ih (List.mem_filter.mp h).1)

theorem any_layout (p : Part) (given : List Part) :
    (layout given).any p.replaces = given.any p.replaces := by
  rw [layout, List.any_map, ← any_openings]
  exact congrArg _ (funext fun q ↦ replaces_latest given p q)

theorem pairwise_layout (p : Part) (given : List Part) :
    (layout given).Pairwise fun q r ↦ p.replaces q = true → p.replaces r = false := by
  refine List.pairwise_map.mpr ((pairwise_openings given).imp fun {q r} hqr hq ↦ ?_)
  rw [replaces_latest] at hq ⊢
  calc
    p.replaces r = r.replaces p := p.replaces_comm r
    _ = r.replaces q := (Part.replaces_congr hq r).symm
    _ = q.replaces r := r.replaces_comm q
    _ = false := hqr

theorem layout_concat (given : List Part) (p : Part) :
    layout (given ++ [p]) = putPart p.replaces p (layout given) := by
  have hlatest (q : Part) :
      latest (given ++ [p]) q = if p.replaces q then p else latest given q := by
    rw [latest_concat, p.replaces_comm q]
  cases hany : given.any p.replaces with
  -- The part goes into an entry that there is already.
  | true =>
    rw [putPart_of_pairwise (pairwise_layout p given) ((any_layout p given).trans hany), layout,
      openings_concat, hany, if_pos rfl, layout, List.map_map]
    refine List.map_congr_left fun q _ ↦ ?_
    rw [hlatest, Function.comp_apply, replaces_latest]
  -- It opens an entry, and the others hold what they held.
  | false =>
    have hnone := List.any_eq_false.mp hany
    have hkeep : (openings given).map (latest (given ++ [p])) = layout given := by
      refine List.map_congr_left fun q hq ↦ ?_
      rw [hlatest, if_neg (hnone q (mem_of_mem_openings hq))]
    have hself : latest (given ++ [p]) p = p := by
      rw [hlatest, latest, List.filter_eq_nil_iff.mpr hnone]
      exact ite_self p
    rw [putPart_of_none ((any_layout p given).trans hany), layout, openings_concat, hany,
      if_neg Bool.false_ne_true, List.map_append, hkeep, List.map_singleton, hself]

theorem getLast?_of_mem_layout {given : List Part} (h : p ∈ layout given)
    (hp : p.replaces p = true) : (given.filter p.replaces).getLast? = some p := by
  obtain ⟨q, hq, rfl⟩ := List.mem_map.mp h
  rw [replaces_latest] at hp
  have hself : (latest given q).replaces = q.replaces := by
    funext r
    rw [Part.replaces_comm, replaces_latest, Part.replaces_comm]
  rw [hself] at hp ⊢
  have hmem : q ∈ given.filter q.replaces := List.mem_filter.mpr ⟨mem_of_mem_openings hq, hp⟩
  rw [latest, List.getLastD_eq_getLast?]
  cases hlast : (given.filter q.replaces).getLast? with
  | none =>
    rw [List.getLast?_eq_none_iff.mp hlast] at hmem
    cases hmem
  | some last => rfl

theorem exists_last_of_findIdx? {kind : Part → Bool} (hkind : Part.IsBodyKind kind)
    {given ps : List Part} (h : ps.map Part.source = (layout given).map Part.source) {i : Nat}
    (hi : ps.findIdx? kind = some i) :
    ∃ p last, ps[i]? = some p ∧ (given.filter kind).getLast? = some last ∧
      p.source = last.source := by
  obtain ⟨hlt, hp, -⟩ := List.findIdx?_eq_some_iff_getElem.mp hi
  have hentry : ((layout given).map Part.source)[i]? = some ps[i].source := by
    rw [← h, List.getElem?_map, List.getElem?_eq_getElem hlt]
    rfl
  rw [List.getElem?_map] at hentry
  obtain ⟨last, hlast, hsame⟩ := Option.map_eq_some_iff.mp hentry
  have hk : kind last = true := by rw [← hkind.source, hsame, hkind.source, hp]
  have hself : last.replaces last = true := by rw [hkind.replaces hk, hk]
  have hfinal := getLast?_of_mem_layout (List.mem_of_getElem? hlast) hself
  rw [hkind.replaces hk] at hfinal
  exact ⟨ps[i], last, List.getElem?_eq_getElem hlt, hfinal, hsame.symm⟩

end PartList

namespace Message

variable {m m' : Message} {ev : Event} {e : Edit} {p : Part}

theorem setPlain_eq_put (m : Message) (body : Content) : m.setPlain body = m.put (.plain body) := by
  rw [put, Part.replaces_plain, setPlain]
  simp [Part.hasFiles, Part.related]

theorem setHtml_eq_put (m : Message) (body : Content) (related : List Related) :
    m.setHtml body related = m.put (.html body related) := by
  rw [put, Part.replaces_html]
  rfl

theorem addPart_eq_put (m : Message) (contentType : String) (encoding : TransferEncoding)
    (body : Bytes) (related : List Related) :
    m.addPart (.other contentType encoding body related) =
      m.put (.other contentType encoding body related) := by
  have hnone : m.parts.any (Part.other contentType encoding body related).replaces = false :=
    List.any_eq_false.mpr fun q _ ↦ by simp [Part.replaces_other]
  rw [put, putPart_of_none hnone, addPart]

theorem edit_of_part (h : e.part? = some p) (m : Message) : m.edit e = .ok (m.put p) := by
  cases e with
  | plain text =>
    obtain rfl := Option.some.inj h
    exact congrArg Except.ok (m.setPlain_eq_put _)
  | html text related =>
    obtain rfl := Option.some.inj h
    exact congrArg Except.ok (m.setHtml_eq_put _ related)
  | part contentType encoding body related =>
    obtain rfl := Option.some.inj h
    exact congrArg Except.ok (m.addPart_eq_put contentType encoding body related)
  | plainTemplate source =>
    rw [Edit.part?] at h
    rw [edit, Content.ofSource]
    cases ht : Backend.parse source .plain with
    | error err => simp [ht, Except.toOption] at h
    | ok t =>
      obtain rfl : .plain (.template t "") = p := by simpa [ht, Except.toOption] using h
      exact congrArg Except.ok (m.setPlain_eq_put _)
  | htmlTemplate source related =>
    rw [Edit.part?] at h
    rw [edit, Content.ofSource]
    cases ht : Backend.parse source .markup with
    | error err => simp [ht, Except.toOption] at h
    | ok t =>
      obtain rfl : .html (.template t "") related = p := by simpa [ht, Except.toOption] using h
      exact congrArg Except.ok (m.setHtml_eq_put _ related)
  | _ => cases h

theorem parts_attachAll (paths : List String) (m : Message) :
    (paths.foldl (fun m path ↦ m.attach (.ofFile "" "" path)) m).parts = m.parts := by
  induction paths generalizing m with
  | nil => rfl
  | cons path paths ih => exact ih _

theorem source_parts_invalidate (m : Message) :
    m.invalidate.parts.map Part.source = m.parts.map Part.source := by
  rw [invalidate_eq, List.map_map]
  exact List.map_congr_left fun p _ ↦ p.source_unload

theorem source_parts_edit (h : e.part? = none) (he : m.edit e = .ok m') :
    m'.parts.map Part.source = m.parts.map Part.source := by
  cases e with
  | domain | subject | sender | author | replyTo | addressees | cc | bcc | attachFile
  | attachObject =>
    obtain rfl := Except.ok.inj he
    rfl
  | subjectTemplate source =>
    obtain ⟨subject, -, hm⟩ := exists_of_bind_ok he
    obtain rfl := Except.ok.inj hm
    rfl
  | plain | html | part => cases h
  | plainTemplate source =>
    obtain ⟨body, hbody, -⟩ := exists_of_bind_ok he
    obtain ⟨t, ht, -⟩ := Content.ofSource_eq_ok.mp hbody
    simp [Edit.part?, ht, Except.toOption] at h
  | htmlTemplate source related =>
    obtain ⟨body, hbody, -⟩ := exists_of_bind_ok he
    obtain ⟨t, ht, -⟩ := Content.ofSource_eq_ok.mp hbody
    simp [Edit.part?, ht, Except.toOption] at h
  | attach paths =>
    obtain rfl := Except.ok.inj he
    rw [parts_attachAll]
  | invalidate =>
    obtain rfl := Except.ok.inj he
    exact m.source_parts_invalidate

theorem source_parts_compose (registry : Option Registry) (stamp : String → Stamp)
    (read : FileReader) (data : Backend.Data) (m : Message) :
    (m.compose registry stamp read data).1.parts.map Part.source = m.parts.map Part.source :=
  congrArg Message.parts (source_compose_fst read data m registry stamp)

theorem source_parts_after (h : ev.part? = none) (m : Message) :
    (m.after ev).parts.map Part.source = m.parts.map Part.source := by
  cases ev with
  | edit e =>
    rw [after]
    split
    · rename_i m' he
      exact source_parts_edit h he
    · rfl
  | prepare read fresh => exact congrArg Message.parts (source_load read fresh m)
  | compose registry stamp read data => exact m.source_parts_compose registry stamp read data
  | send s c read data transport state =>
    rw [after, Sender.message_send]
    exact source_parts_compose c.registry c.stamp read data _
  | sendDefault r c read data transport state =>
    rw [after, Registry.send]
    split
    · rfl
    · rw [Sender.message_send]
      exact source_parts_compose c.registry c.stamp read data _
  | copy =>
    rw [after, copy_eq_invalidate]
    exact m.source_parts_invalidate

theorem after_of_part (h : ev.part? = some p) (m : Message) : m.after ev = m.put p := by
  cases ev with
  | edit e => rw [after, edit_of_part h]
  | _ => cases h

theorem source_parts_put (p : Part) (m : Message) :
    (m.put p).parts.map Part.source =
      putPart p.source.replaces p.source (m.parts.map Part.source) :=
  map_putPart Part.source (fun q ↦ p.replaces_source q) p m.parts

/-- The part list along a run is what the calls say. -/
theorem source_parts_run {given : List Part} (evs : List Event)
    (h : m.parts.map Part.source = (PartList.layout given).map Part.source) :
    (evs.foldl after m).parts.map Part.source =
      (PartList.layout (given ++ evs.filterMap Event.part?)).map Part.source := by
  induction evs generalizing m given with
  | nil => rwa [List.filterMap_nil, List.append_nil]
  | cons ev evs ih =>
    cases hp : ev.part? with
    | none =>
      rw [List.filterMap_cons_none hp]
      exact ih ((m.source_parts_after hp).trans h)
    | some p =>
      rw [List.filterMap_cons_some hp, List.append_cons]
      refine ih ?_
      rw [after_of_part hp, source_parts_put, h, PartList.layout_concat]
      exact (map_putPart Part.source (fun q ↦ p.replaces_source q) p _).symm

end Message

end MimeMail
