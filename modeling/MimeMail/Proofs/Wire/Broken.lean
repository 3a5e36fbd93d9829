import MimeMail.Proofs.Wire.Reading

namespace MimeMail.Wire

open Text

variable {token : List Char}

theorem broken_lineBreak {p : Char → Prop} : Broken p lineBreak :=
  .lineBreak .nil

theorem broken_writeFields (fs : List Field) (h : ∀ f ∈ fs, f.Sound Plain) :
    Broken Plain (writeFields fs) := by
  have hblank : ∀ b, IsBlank b → Plain b := by
    rintro b (rfl | rfl) <;> decide
  induction fs with
  | nil => exact .nil
  | cons f fs ih =>
    have hf := (h f List.mem_cons_self).folded_text fun _ hc ↦ .inr hc
    exact ((hf.broken hblank).append broken_lineBreak).append
      (ih fun g hg ↦ h g (List.mem_cons_of_mem f hg))

section

variable (ht : ∀ c ∈ token, Plain c)
include ht

theorem broken_delimiterLine (kind : Kind) : Broken Plain (delimiterLine token kind) :=
  .append (.of_forall (s := "--".toList) (by decide))
    (.of_forall (forall_mem_boundary (fun _ hc ↦ .inr hc) ht kind))

theorem broken_delimiter (kind : Kind) : Broken Plain (delimiter token kind) := by
  have h := (broken_lineBreak.append (broken_delimiterLine ht kind)).append broken_lineBreak
  rwa [delimiterLine, ← List.append_assoc] at h

theorem broken_closing (kind : Kind) : Broken Plain (closing token kind) := by
  have h := ((broken_lineBreak.append (broken_delimiterLine ht kind)).append
    (.of_forall (s := "--".toList) (by decide))).append broken_lineBreak
  rwa [delimiterLine, ← List.append_assoc] at h

theorem broken_writeChildren (kind : Kind) {es : List Entity}
    (h : ∀ e ∈ es, Broken Plain (e.write token)) : Broken Plain (writeChildren token kind es) := by
  induction es with
  | nil => exact .nil
  | cons e es ih =>
    exact ((broken_delimiter ht kind).append (h e List.mem_cons_self)).append
      (ih fun d hd ↦ h d (List.mem_cons_of_mem e hd))

theorem Carries.broken {e : Entity} {t : Tree} (h : Carries Plain token e t) :
    Broken Plain (e.write token) := by
  induction h with
  | @leaf fields _ encoding _ hf he =>
    have hfields := broken_writeFields (fields ++ [encodingField encoding]) (by
      simp only [List.forall_mem_append, List.forall_mem_singleton]
      exact ⟨fun f h ↦ (hf f h).1, sound_encodingField fun c hc ↦ .inr (he.name c hc)⟩)
    exact ((hfields.append broken_lineBreak).append he.broken).append broken_lineBreak
  | @container kind children _ _ _ ih =>
    have hfield := broken_writeFields [containerField token kind] (by
      simpa using sound_containerField (fun _ hc ↦ .inr hc) ht kind)
    rw [writeFields, List.flatMap_singleton] at hfield
    refine (hfield.append (broken_writeChildren ht kind ?_)).append (broken_closing ht kind)
    simpa only [List.forall_mem_map] using ih

end

/-- The header fields that an entity begins with. -/
def Entity.head (token : List Char) : Entity → List Field
  | .leaf fields _ => fields
  | .container kind _ => [containerField token kind]

theorem lines_head (ht : ∀ c ∈ token, InLine c) (e : Entity) :
    ∃ ls, e.lines token = fieldLines (e.head token) ++ [] :: ls := by
  cases e with
  | leaf fields body => exact ⟨_, lines_leaf fields body⟩
  | container kind es =>
    rw [lines_container ht]
    cases es with
    | nil => exact ⟨_, rfl⟩
    | cons e es => exact ⟨_, rfl⟩

theorem Carries.sound_head {p : Char → Prop} (hp : ∀ c, Printable c → p c)
    (ht : ∀ c ∈ token, p c) {e : Entity} {t : Tree} (h : Carries p token e t) :
    ∀ f ∈ e.head token, f.Sound p := by
  cases h with
  | leaf _ hf he =>
    simp only [Entity.head, List.forall_mem_append, List.forall_mem_singleton]
    exact ⟨fun f h ↦ (hf f h).1, sound_encodingField fun c hc ↦ hp c (he.name c hc)⟩
  | container _ _ _ =>
    simp only [Entity.head, List.forall_mem_singleton]
    exact sound_containerField hp ht _

end MimeMail.Wire
