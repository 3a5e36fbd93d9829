
namespace MimeMail.Text

/-- What a rule found at the head of `s`. A match is never empty, so every run of a rule ends. -/
structure Match (s : List Char) where
  text : List Char
  rest : List Char
  shorter : rest.length < s.length

abbrev Rule := (s : List Char) → Option (Match s)

def Match.of? (s text rest : List Char) : Option (Match s) :=
  if h : rest.length < s.length then some ⟨text, rest, h⟩ else none

def consumed (s rest : List Char) : List Char :=
  s.take (s.length - rest.length)

def Rule.apply (r : Rule) : List Char → List Char
  | [] => []
  | c :: s =>
    match r (c :: s) with
    | some m => m.text ++ r.apply m.rest
    | none => c :: r.apply s
termination_by s => s.length
decreasing_by
  · exact m.shorter
  · simp

@[simp] theorem Rule.apply_nil (r : Rule) : r.apply [] = [] := by
  rw [apply]

theorem Rule.apply_of_some {r : Rule} {c : Char} {s : List Char} {m : Match (c :: s)}
    (h : r (c :: s) = some m) : r.apply (c :: s) = m.text ++ r.apply m.rest := by
  rw [apply, h]

theorem Rule.apply_of_none {r : Rule} {c : Char} {s : List Char} (h : r (c :: s) = none) :
    r.apply (c :: s) = c :: r.apply s := by
  rw [apply, h]

/-- Passes over as many characters satisfying `p` as it can, so that `k` accepts what follows. -/
def greedy {α : Type} (p : Char → Bool) (k : List Char → Option α) : List Char → Option α
  | [] => k []
  | c :: s => if p c then greedy p k s <|> k (c :: s) else k (c :: s)

end MimeMail.Text
