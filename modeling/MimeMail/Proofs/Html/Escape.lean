import MimeMail.Html.Reference
import MimeMail.Proofs.Text.Replace
import MimeMail.Text.Basic

namespace MimeMail.Html

open Text Reference

def escaped (c : Char) : List Char :=
  match c with
  | '&' => "&amp;".toList
  | '<' => "&lt;".toList
  | '>' => "&gt;".toList
  | '"' => "&quot;".toList
  | '\x27' => "&#x27;".toList
  | c => [c]

theorem bracket_not_mem_escaped (c : Char) : '<' ∉ escaped c ∧ '>' ∉ escaped c := by
  unfold escaped
  split
  case h_6 hlt hgt _ _ => exact ⟨by simpa [eq_comm] using hlt, by simpa [eq_comm] using hgt⟩
  all_goals decide

theorem escaped_ne_nil (c : Char) : escaped c ≠ [] := by
  unfold escaped
  split <;> simp

theorem escaped_of_isSpace {c : Char} (hc : isSpace c = true) : escaped c = [c] := by
  have hne {d : Char} (hd : isSpace d = false) : c ≠ d := by
    rintro rfl
    exact absurd hc (by simp [hd])
  unfold escaped
  split
  case h_6 => rfl
  all_goals exact absurd rfl (hne (by decide))

theorem decode_escaped (c : Char) (s : List Char) :
    decode (escaped c ++ s) = c :: decode s := by
  have hreference (body : List Char) (c : Char)
      (hbody : reference ('&' :: body ++ s) = Match.of? _ [c] s) :
      decode ('&' :: body ++ s) = c :: decode s :=
    Rule.apply_of_of? hbody (by simp only [List.length_append, List.length_cons]; omega)
  unfold escaped
  split
  case h_6 hamp _ _ _ _ =>
    refine Rule.apply_of_none ?_
    rw [reference]
    rintro u heq
    exact hamp (List.cons.inj heq).1
  · exact hreference "amp;".toList '&' rfl
  · exact hreference "lt;".toList '<' rfl
  · exact hreference "gt;".toList '>' rfl
  · exact hreference "quot;".toList '"' rfl
  · exact hreference "#x27;".toList '\x27' rfl

theorem decode_flatMap_escaped (s : List Char) : decode (s.flatMap escaped) = s :=
  (Rule.apply_flatMap (g := ([·])) decode_escaped s).trans (List.flatMap_singleton' s)

end MimeMail.Html
