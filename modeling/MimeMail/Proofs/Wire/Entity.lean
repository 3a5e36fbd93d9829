import Mathlib.Data.List.Infix
import MimeMail.Wire.Layout

namespace MimeMail

namespace Wire

theorem writeChildren_eq (token : List Char) (kind : Kind) (es : List Entity) :
    writeChildren token kind es = es.flatMap fun e ↦ delimiter token kind ++ e.write token := by
  induction es with
  | nil => rfl
  | cons e es ih => rw [writeChildren, ih, List.flatMap_cons]

theorem write_child_isInfix {token : List Char} {kind : Kind} {es : List Entity} {e : Entity}
    (h : e ∈ es) : e.write token <:+: (Entity.container kind es).write token := by
  obtain ⟨before, after, rfl⟩ := List.append_of_mem h
  refine ⟨(containerField token kind).write ++ writeChildren token kind before ++
    delimiter token kind, writeChildren token kind after ++ closing token kind, ?_⟩
  simp only [Entity.write, writeChildren_eq, List.flatMap_append, List.flatMap_cons,
    List.append_assoc]

end Wire

open Wire

variable [Backend]

theorem Part.write_item_isInfix {token : List Char} {p : Part} {r : Related} (index : Nat)
    (h : r ∈ p.related) : r.entity.write token <:+: (p.entity index).write token := by
  have hne : p.related.isEmpty = false := by
    rw [List.isEmpty_eq_false_iff_exists_mem]
    exact ⟨r, h⟩
  rw [Part.entity, hne, if_neg Bool.false_ne_true]
  exact write_child_isInfix (.tail _ (List.mem_map_of_mem h))

namespace Message

variable {m : Message} {token : List Char}

theorem write_entry_isInfix {e : Entity} (h : e ∈ m.entries) :
    e.write token <:+: m.bodyEntity.write token := by
  rw [bodyEntity]
  split
  · rename_i e' _ he
    rw [he, List.mem_singleton] at h
    rw [h]
  · exact write_child_isInfix h

theorem write_body_isInfix : m.bodyEntity.write token <:+: m.entity.write token := by
  rw [entity]
  split
  · exact List.infix_rfl
  · exact write_child_isInfix (.head _)

theorem write_part_isInfix {i : Nat} {p : Part} (h : m.parts[i]? = some p) :
    (p.entity i).write token <:+: m.entity.write token := by
  refine (write_entry_isInfix ?_).trans write_body_isInfix
  refine List.mem_append_right _ (List.mem_map.mpr ⟨(p, i), ?_, rfl⟩)
  exact List.mem_zipIdx_iff_getElem?.mpr h

theorem write_attachment_isInfix {a : Attachment} (h : a ∈ m.attachments) :
    a.entity.write token <:+: m.entity.write token := by
  have hne : m.attachments.isEmpty = false := by
    rw [List.isEmpty_eq_false_iff_exists_mem]
    exact ⟨a, h⟩
  rw [entity, hne, if_neg Bool.false_ne_true]
  exact write_child_isInfix (.tail _ (List.mem_map_of_mem h))

end Message

end MimeMail
