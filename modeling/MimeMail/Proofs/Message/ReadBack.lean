import MimeMail.Proofs.Message.Copy
import MimeMail.Proofs.Message.Tree

namespace MimeMail

open Text Wire

theorem Payload.gives_of_failure? {read : FileReader} {p : Payload} (h : p.failure? read = none) :
    p.Gives read ((p.load read false).1.data?.getD []) := by
  cases p with
  | memory data => exact .memory data
  | file path cache =>
    cases cache with
    | some data => exact .kept path data
    | none =>
      rw [failure?] at h
      cases hr : read path with
      | ok data => simpa [load, hr, data?] using Gives.read hr
      | error e =>
        rw [hr] at h
        cases h

section

variable [Backend]

def Contents.resolved (read : FileReader) (data : Backend.Data) : Contents where
  text c := (c.render data).1.text
  bytes p := (p.load read false).1.data?.getD []

theorem Content.renders_of_failure? {data : Backend.Data} {c : Content}
    (h : c.failure? data = none) :
    c.Renders data (c.render data).1.text := by
  cases c with
  | literal text => exact .literal text
  | template t output =>
    rw [failure?] at h
    rw [render]
    cases hr : Backend.render t data with
    | ok text => exact .template output hr
    | error e =>
      rw [hr] at h
      cases h

theorem Content.Renders.render_eq {data : Backend.Data} {c : Content} {text : String}
    (h : c.Renders data text) : (c.render data).1.text = text := by
  cases h with
  | literal text => rfl
  | template output ht =>
    rw [render, ht]
    rfl

namespace Message

variable {m m' : Message} {registry : Option Registry} {stamp : String → Stamp} {read : FileReader}
  {data : Backend.Data} {out : List Char}

/-- If composing succeeds, every template has been rendered with the data and every file read. -/
theorem given_resolved (hm : m.Reachable)
    (hc : m.compose registry stamp read data = (m', .ok out)) :
    (Contents.resolved read data).Given read data m := by
  obtain ⟨author, -, hr, -⟩ := compose_ok hc
  have hnone : m.problems read data = [] := by
    rw [← errors_resolve hm, hr]
  obtain ⟨hlists, hpayloads⟩ := List.append_eq_nil_iff.mp hnone
  obtain ⟨hsubject, hparts⟩ := templateProblems_eq_nil.mp (List.append_eq_nil_iff.mp hlists).1
  have hgives : ∀ q ∈ m.payloads, q.Gives read ((Contents.resolved read data).bytes q) :=
    fun q hq ↦ Payload.gives_of_failure?
      (List.filterMap_eq_nil_iff.mp (List.map_eq_nil_iff.mp hpayloads) q hq)
  have hitems : ∀ p ∈ m.parts, ∀ r ∈ p.related,
      r.payload.Gives read ((Contents.resolved read data).bytes r.payload) := fun p hp r hr ↦
    hgives _ (List.mem_append_left _ (List.mem_flatMap.mpr ⟨p, hp, List.mem_map_of_mem hr⟩))
  exact {
    subject := Content.renders_of_failure? hsubject
    plain := fun body hp ↦ Content.renders_of_failure? (hparts _ hp)
    html := fun body related hp ↦ ⟨Content.renders_of_failure? (hparts _ hp), hitems _ hp⟩
    other := fun contentType encoding body related hp ↦ hitems _ hp
    attachments := fun a ha ↦ hgives _ (List.mem_append_right _ (List.mem_map_of_mem ha)) }

end Message

theorem Part.leafTree_resolved (read : FileReader) (data : Backend.Data) (q : Part) :
    ((q.load read false).1.render data).1.leafTree .held = q.leafTree (.resolved read data) := by
  cases q with
  | plain body => rfl
  | html body related => rfl
  | other contentType encoding body related => cases encoding <;> rfl

theorem Part.tree_resolved (read : FileReader) (data : Backend.Data) (token : List Char)
    (index : Nat) (q : Part) :
    ((q.load read false).1.render data).1.tree .held token index =
      q.tree (.resolved read data) token index := by
  rw [tree_eq, tree_eq, leafTree_resolved, related_render, related_load, List.isEmpty_map,
    List.map_map]
  rfl

theorem Part.htmlBody?_resolved (read : FileReader) (data : Backend.Data) (qs : List Part) :
    htmlBody? (qs.map fun q ↦ ((q.load read false).1.render data).1) =
      (htmlBody? qs).map fun body ↦ (body.render data).1 := by
  induction qs with
  | nil => rfl
  | cons q qs ih =>
    cases q with
    | plain body => exact ih
    | html body related => rfl
    | other contentType encoding body related => exact ih

theorem Part.plainBody?_resolved (read : FileReader) (data : Backend.Data) (qs : List Part) :
    plainBody? (qs.map fun q ↦ ((q.load read false).1.render data).1) =
      (plainBody? qs).map fun body ↦ (body.render data).1 := by
  induction qs with
  | nil => rfl
  | cons q qs ih =>
    cases q with
    | plain body => rfl
    | html body related => exact ih
    | other contentType encoding body related => exact ih

namespace Message

variable {m m' : Message} {registry : Option Registry} {read : FileReader} {data : Backend.Data}
  {out : List Char}

theorem tree_resolved (read : FileReader) (data : Backend.Data) (token : List Char) (m : Message) :
    ((m.loadAll read false).1.render data).1.tree .held token =
      m.tree (.resolved read data) token := by
  have hparts : ((m.loadAll read false).1.render data).1.parts =
      m.parts.map fun q ↦ ((q.load read false).1.render data).1 := by
    rw [render_parts, parts_loadAll, List.map_map]
    rfl
  have hplain : ((m.loadAll read false).1.render data).1.plainTree? .held =
      m.plainTree? (.resolved read data) := by
    rw [plainTree?, plainTree?, hparts, Part.htmlBody?_resolved, Part.plainBody?_resolved]
    cases Part.htmlBody? m.parts <;> cases Part.plainBody? m.parts <;> rfl
  have hentries : ((m.loadAll read false).1.render data).1.entryTrees .held token =
      m.entryTrees (.resolved read data) token := by
    rw [entryTrees, entryTrees, hplain, hparts, List.zipIdx_map, List.map_map]
    refine congrArg _ (List.map_congr_left fun x _ ↦ ?_)
    exact x.1.tree_resolved read data token x.2
  have hbody : ((m.loadAll read false).1.render data).1.bodyTree .held token =
      m.bodyTree (.resolved read data) token := by
    rw [bodyTree, bodyTree, hentries, hparts, Part.htmlBody?_resolved]
    cases Part.htmlBody? m.parts <;> rfl
  have hattachments : ((m.loadAll read false).1.render data).1.attachments =
      m.attachments.map fun a ↦ (a.load read false).1 := m.attachments_loadAll read false
  rw [tree_eq, tree_eq, hbody, hattachments, List.isEmpty_map, List.map_map]
  rfl

/-- The body structure reads back. The reader takes exactly the boundary lines of the token for
boundary lines, and from the output it recovers the tree of the message as it was before composing,
in which every text is a literal or what its template gives for the data, and every payload has the
bytes in memory or those of its file. -/
theorem tree_reads_back {clock : Int} {tokens : String → Bytes → String} (hm : m.Reachable)
    (hc : m.compose registry (.at clock tokens) read data = (m', .ok out)) (hclean : m.Clean InLine)
    (ht : ∀ subject, m.subject.Renders data subject →
      ∀ c ∈ (Stamp.at clock tokens subject).token.toList, InLine c) :
    ∃ (author : Address) (contents : Contents),
      m.resolveAuthor registry = some author ∧ contents.Given read data m ∧
      let subject := contents.text m.subject
      let stamp := Stamp.at clock tokens subject
      let token := stamp.token.toList
      (∀ l kind, (mark token l = .delimiter kind ↔ l = "--".toList ++ kind.boundary token) ∧
        (mark token l = .closing kind ↔ l = "--".toList ++ kind.boundary token ++ "--".toList)) ∧
      readTree token out = some ((m.tree contents token).behind
        (({ m with subject := .literal subject }.fields author stamp).map Field.unfolded)) := by
  obtain ⟨author, hauthor, hr, rfl⟩ := compose_ok hc
  have hgiven := given_resolved hm hc
  refine ⟨author, .resolved read data, hauthor, hgiven, ?_⟩
  intro subject stamp token
  have hm' : m' = ((m.loadAll read false).1.render data).1 := by
    have hfst := congrArg Prod.fst hr
    rw [resolve_eq, load_eq_loadAll hm.loaded] at hfst
    exact hfst.symm
  have hsubject : m'.subject.text = subject := by rw [hm']; rfl
  have hfields : m'.fields author stamp =
      { m with subject := .literal subject }.fields author stamp := by rw [hm']; rfl
  have htree : m'.tree .held token = m.tree (.resolved read data) token := by
    rw [hm']
    exact m.tree_resolved read data token
  have hdate : ∀ c ∈ stamp.date.toList, InLine c := fun c hc ↦
    ((Date.ofSeconds clock).printable_text c hc).inLine
  have htoken : ∀ c ∈ token, InLine c := ht subject hgiven.subject
  have hclean' := hclean.of_source_eq (source_compose hc)
  have hcarries := carries_tree (fun _ h ↦ h.inLine) (fun _ h ↦ h) htoken hclean'
    (parts_ne_nil_of_compose hc)
  have hsound := sound_fields (fun _ h ↦ h.inLine) hclean' author hdate htoken
  refine ⟨fun l kind ↦ ⟨mark_eq_delimiter, mark_eq_closing⟩, ?_⟩
  rw [← hfields, ← htree, hsubject]
  exact hcarries.readTree htoken fun f hf ↦
    ⟨hsound f hf, m'.isEncodingField_fields author stamp f hf⟩

end Message

end

namespace Message

def greeting : Message :=
  (letter.after (.edit (.subjectTemplate "Hi {{name}}"))).after
    (.edit (.plainTemplate "Dear {{name}}"))

theorem reachable_greeting : greeting.Reachable := by
  have hrun := (run_letter.step (.edit (.subjectTemplate "Hi {{name}}")) ?_).step
    (.edit (.plainTemplate "Dear {{name}}")) ?_
  · exact ⟨_, hrun⟩
  all_goals simp [Event.Unread, Edit.related]

theorem greeting_tree_reads_back :
    let data : Backend.Data := .object [("name", .string "Bo")]
    ∃ m' out contents,
      greeting.compose none (.at 0 fun _ _ ↦ "T") (fun _ ↦ .ok [0x41]) data = (m', .ok out) ∧
      contents.Given (fun _ ↦ .ok [0x41]) data greeting ∧ contents.text greeting.subject = "Hi Bo" ∧
      readTree ['T'] out = some ((greeting.tree contents ['T']).behind
        (({ greeting with subject := .literal "Hi Bo" }.fields .zoe
          (.at 0 (fun _ _ ↦ "T") "Hi Bo")).map Field.unfolded)) := by
  intro data
  have hauthor : greeting.resolveAuthor none = some .zoe := by decide +kernel
  have hnone : (greeting.resolve (fun _ ↦ .ok [0x41]) data).2.isEmpty = true := by decide +kernel
  have htext : (greeting.subject.render data).1.text = "Hi Bo" := by decide +kernel
  have hc := compose_of_errors hauthor (List.isEmpty_iff.mp hnone) (.at 0 fun _ _ ↦ "T")
  have hclean : greeting.Clean InLine := by
    constructor <;> decide +kernel
  obtain ⟨author, contents, hauthor', hgiven, -, htree⟩ := tree_reads_back reachable_greeting hc
    hclean fun subject _ ↦ (by decide : ∀ c ∈ "T".toList, InLine c)
  have hsubject : contents.text greeting.subject = "Hi Bo" := hgiven.subject.render_eq ▸ htext
  obtain rfl : Address.zoe = author := Option.some.inj (hauthor.symm.trans hauthor')
  rw [hsubject] at htree
  exact ⟨_, _, contents, hc, hgiven, hsubject, htree⟩

end Message

end MimeMail
