import MimeMail.Proofs.Delivery.Sending

namespace MimeMail

open Wire

/-- Each item of `xs` once, in the order in which they first occur. -/
structure FirstOccurrences (ys xs : List String) : Prop where
  mem : ∀ x, x ∈ ys ↔ x ∈ xs
  nodup : ys.Nodup
  order : ys.Pairwise fun a b ↦ xs.idxOf a < xs.idxOf b

theorem mem_distinct (x : String) (xs : List String) : x ∈ distinct xs ↔ x ∈ xs := by
  induction xs with
  | nil => rfl
  | cons y xs ih =>
    rw [distinct, List.mem_cons, List.mem_cons, List.mem_filter, ih, bne_iff_ne]
    by_cases h : x = y <;> simp [h]

theorem nodup_distinct (xs : List String) : (distinct xs).Nodup := by
  induction xs with
  | nil => exact List.nodup_nil
  | cons y xs ih =>
    have hy : y ∉ (distinct xs).filter (· != y) := by simp
    exact List.nodup_cons.mpr ⟨hy, ih.filter _⟩

theorem order_distinct (xs : List String) :
    (distinct xs).Pairwise fun a b ↦ xs.idxOf a < xs.idxOf b := by
  induction xs with
  | nil => exact List.Pairwise.nil
  | cons y xs ih =>
    have hidx {x : String} (h : x ∈ (distinct xs).filter (· != y)) :
        (y :: xs).idxOf x = xs.idxOf x + 1 :=
      List.idxOf_cons_ne _ (bne_iff_ne.mp (List.mem_filter.mp h).2).symm
    refine List.pairwise_cons.mpr ⟨fun x hx ↦ ?_, (ih.filter _).imp_of_mem fun ha hb hab ↦ ?_⟩
    · rw [hidx hx, List.idxOf_cons_self]
      omega
    · rw [hidx ha, hidx hb]
      omega

theorem firstOccurrences_distinct (xs : List String) : FirstOccurrences (distinct xs) xs :=
  ⟨fun x ↦ mem_distinct x xs, nodup_distinct xs, order_distinct xs⟩

section

variable [Backend]

namespace Message

variable (bcc : List Address) (registry : Option Registry) (stamp : String → Stamp)
  (read : FileReader) (data : Backend.Data) (m : Message)

theorem load_bcc (fresh : Bool) : ({ m with bcc := bcc } : Message).load read fresh =
    ({ (m.load read fresh).1 with bcc := bcc }, (m.load read fresh).2) := by
  rw [load_eq, load_eq]
  dsimp only
  split <;> rfl

theorem resolve_bcc : ({ m with bcc := bcc } : Message).resolve read data =
    ({ (m.resolve read data).1 with bcc := bcc }, (m.resolve read data).2) := by
  rw [resolve_eq, resolve_eq, load_bcc]
  rfl

theorem compose_bcc : ({ m with bcc := bcc } : Message).compose registry stamp read data =
    ({ (m.compose registry stamp read data).1 with bcc := bcc },
      (m.compose registry stamp read data).2) := by
  have hauthor : ({ m with bcc := bcc } : Message).resolveAuthor registry =
      m.resolveAuthor registry := rfl
  rw [compose, compose, hauthor, resolve_bcc]
  cases m.resolveAuthor registry with
  | none => rfl
  | some author =>
    dsimp only
    split <;> rfl

/-- All whom a message names, one list behind the other. -/
def named (m : Message) (registry : Option Registry) : List String :=
  ((if m.addressees.isEmpty then (m.resolveAuthor registry).toList else m.addressees) ++ m.cc ++
    m.bcc).map (·.addr)

theorem firstOccurrences_recipients :
    FirstOccurrences (m.recipients registry) (m.named registry) :=
  firstOccurrences_distinct _

theorem bcc_of_source_eq {m m' : Message} (h : m'.source = m.source) : m'.bcc = m.bcc := by
  have hbcc : m'.source.bcc = m.source.bcc := congrArg Message.bcc h
  exact hbcc

theorem named_of_source_eq {m m' : Message} (h : m'.source = m.source)
    (registry : Option Registry) : m'.named registry = m.named registry := by
  have haddressees : m'.source.addressees = m.source.addressees := congrArg addressees h
  have hcc : m'.source.cc = m.source.cc := congrArg cc h
  simp only [source] at haddressees hcc
  rw [named, named, resolveAuthor_of_source_eq h, haddressees, hcc, bcc_of_source_eq h]

theorem named_eq_header {m : Message} {registry : Option Registry} {author : Address}
    (h : m.resolveAuthor registry = some author) (hparts : m.parts ≠ []) (stamp : Stamp) :
    ∃ toList ccList, mailboxes? "To" (m.header author stamp) = some toList ∧
      mailboxes? "Cc" (m.header author stamp) = some ccList ∧
      m.named registry = (toList ++ ccList).map Prod.snd ++ m.bcc.map (·.addr) := by
  refine ⟨_, _, mailboxes_to hparts author stamp, mailboxes_cc hparts author stamp, ?_⟩
  rw [named, h, ← List.map_append, List.map_map, List.map_append]
  rfl

end Message

namespace Sender

variable {σ : Type} (s : Sender) (c : Composer) (read : FileReader) (data : Backend.Data)
  (t : Transport σ) (m : Message) (state : σ)

def deliveries : List Delivery :=
  (s.send c read data t.logged m ([], state)).state.1

theorem deliveries_eq : s.deliveries c read data t m state =
    match c.compose read data { m with sender := some s } with
    | (_, .error _) => []
    | (m', .ok body) => [s.delivery c.registry m' body] := by
  rcases hc : c.compose read data { m with sender := some s } with ⟨m', result⟩
  cases result with
  | error errors => rw [deliveries, send_of_error hc]
  | ok body =>
    rw [deliveries, send_of_ok hc]
    rfl

theorem bodies_deliveries : (s.deliveries c read data t m state).map Delivery.body =
    (c.compose read data { m with sender := some s }).2.toOption.toList := by
  rw [deliveries_eq]
  rcases c.compose read data { m with sender := some s } with ⟨m', result⟩
  cases result <;> rfl

theorem bodies_deliveries_bcc (bcc : List Address) :
    (s.deliveries c read data t { m with bcc := bcc } state).map Delivery.body =
      (s.deliveries c read data t m state).map Delivery.body := by
  have hcompose := Message.compose_bcc bcc c.registry c.stamp read data { m with sender := some s }
  rw [bodies_deliveries, bodies_deliveries]
  exact congrArg (fun composed ↦ composed.2.toOption.toList) hcompose

end Sender

/-- The Bcc list stays private, and nobody is lost. What composing gives and the body that a
transport is handed are the same with any other Bcc list. The recipients are all whom the message
names, so those of the composer's To and Cc fields among them, and any other one is on the Bcc
list. -/
theorem Message.bcc_stays_private {σ : Type} (m : Message) (s : Sender) (c : Composer)
    (read : FileReader) (data : Backend.Data) (t : Transport σ) (state : σ) :
    (∀ bcc bcc' : List Address,
      (c.compose read data { m with bcc := bcc }).2 =
        (c.compose read data { m with bcc := bcc' }).2 ∧
      (s.deliveries c read data t { m with bcc := bcc } state).map Delivery.body =
        (s.deliveries c read data t { m with bcc := bcc' } state).map Delivery.body) ∧
    (∀ registry, FirstOccurrences (m.recipients registry) (m.named registry)) ∧
    ∀ d ∈ s.deliveries c read data t m state, ∃ m' author toList ccList,
      c.compose read data { m with sender := some s } = (m', .ok d.body) ∧
      d.Agrees m' author (c.stamp m'.subject.text) ∧
      FirstOccurrences d.recipients (({ m with sender := some s } : Message).named c.registry) ∧
      mailboxes? "To" (m'.header author (c.stamp m'.subject.text)) = some toList ∧
      mailboxes? "Cc" (m'.header author (c.stamp m'.subject.text)) = some ccList ∧
      (∀ x ∈ toList ++ ccList, x.2 ∈ d.recipients) ∧
      ∀ addr ∈ d.recipients, (∀ x ∈ toList ++ ccList, x.2 ≠ addr) →
        ∃ b ∈ m.bcc, b.addr = addr := by
  refine ⟨fun bcc bcc' ↦ ⟨?_, ?_⟩, fun registry ↦ m.firstOccurrences_recipients registry,
    fun d hd ↦ ?_⟩
  · rw [Composer.compose, Composer.compose, compose_bcc, compose_bcc bcc']
  · exact (s.bodies_deliveries_bcc c read data t m state bcc).trans
      (s.bodies_deliveries_bcc c read data t m state bcc').symm
  · rw [Sender.deliveries_eq] at hd
    split at hd
    · cases hd
    · rename_i m' body hc
      obtain rfl := List.mem_singleton.mp hd
      obtain ⟨author, hauthor, hagrees⟩ := Sender.delivery_agrees hc
      have hfirst := m'.firstOccurrences_recipients c.registry
      obtain ⟨toList, ccList, hto, hcc, hnamed⟩ := named_eq_header hauthor
        (parts_ne_nil_of_compose hc) (c.stamp m'.subject.text)
      have hmem (addr : String) : addr ∈ m'.recipients c.registry ↔
          addr ∈ (toList ++ ccList).map Prod.snd ∨ addr ∈ m.bcc.map (·.addr) := by
        rw [hfirst.mem, hnamed, List.mem_append, bcc_of_source_eq (source_compose hc)]
      refine ⟨m', author, toList, ccList, hc, hagrees, ?_, hto, hcc, fun x hx ↦ ?_,
        fun addr haddr hnot ↦ ?_⟩
      · rw [← named_of_source_eq (source_compose hc)]
        exact hfirst
      · exact (hmem x.2).mpr (.inl (List.mem_map_of_mem hx))
      · rcases (hmem addr).mp haddr with hheader | hbcc
        · obtain ⟨x, hx, hxa⟩ := List.mem_map.mp hheader
          exact absurd hxa (hnot x hx)
        · exact List.mem_map.mp hbcc

end

theorem Message.copied_bcc_stays_private :
    let relay : Sender := ⟨"h", 25, "u", "p", none⟩
    let copied : Message :=
      { letter with
        cc := [⟨"", "a@b.c", by decide⟩, ⟨"", "y@b.c", by decide⟩]
        bcc := [⟨"", "y@b.c", by decide⟩, ⟨"", "z@b.c", by decide⟩] }
    ∃ d, relay.deliveries ⟨0, .fixed "T", none⟩ (fun _ ↦ .ok [0x41]) Data.Value.null
          (fun _ state ↦ (.ok (), state)) copied () = [d] ∧
      d.recipients = ["a@b.c", "y@b.c", "z@b.c"] ∧
      FirstOccurrences d.recipients ["a@b.c", "a@b.c", "y@b.c", "y@b.c", "z@b.c"] := by
  intro relay copied
  obtain ⟨-, -, hall⟩ := copied.bcc_stays_private relay ⟨0, .fixed "T", none⟩
    (fun _ ↦ .ok [0x41]) Data.Value.null (fun _ state ↦ (.ok (), state)) ()
  obtain ⟨-, -, -, -, -, -, hfirst, -⟩ := hall _ List.mem_cons_self
  exact ⟨_, rfl, by decide, hfirst⟩

end MimeMail
