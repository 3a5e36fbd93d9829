import MimeMail.Html.Reference
import MimeMail.Text.Basic
import MimeMail.Text.Replace

namespace MimeMail.Html

open Text

/-- Folds the characters that have an ASCII letter as their folding; others stay. -/
def foldCase (c : Char) : Char :=
  if c == '\u017f' then 's' else if c == '\u212a' then 'k' else c.toLower

/-- The letters of tag names. A character that is none of them ends a tag name. -/
def isLetter (c : Char) : Bool :=
  'a' ≤ foldCase c && foldCase c ≤ 'z'

/-- Drops `word`, written in lower case, from the head of a text that starts with it in any case. -/
def dropWord? : List Char → List Char → Option (List Char)
  | [], s => some s
  | w :: ws, c :: s => if foldCase c == w then dropWord? ws s else none
  | _ :: _, [] => none

def dropBlanks : List Char → List Char
  | '&' :: 'n' :: 'b' :: 's' :: 'p' :: ';' :: s => dropBlanks s
  | c :: s => if isSpace c then dropBlanks s else c :: s
  | [] => []

theorem length_dropBlanks_le (s : List Char) : (dropBlanks s).length ≤ s.length := by
  fun_induction dropBlanks s with
  | case1 s ih => simp only [List.length_cons]; omega
  | case2 c s _ _ ih => exact Nat.le_succ_of_le ih
  | case3 | case4 => exact Nat.le_refl _

def blankRun : Rule := fun s ↦
  match s with
  | '&' :: 'n' :: 'b' :: 's' :: 'p' :: ';' :: s =>
    some ⟨[' '], dropBlanks s, by
      have := length_dropBlanks_le s
      simp only [List.length_cons]
      omega⟩
  | c :: s =>
    if isSpace c then some ⟨[' '], dropBlanks s, Nat.lt_succ_of_le (length_dropBlanks_le s)⟩
    else none
  | [] => none

def collapseSpace : List Char → List Char :=
  blankRun.apply

def behindLastOnLine? (word : List Char) : List Char → Option (List Char) :=
  greedy (· != '\n') (dropWord? word)

/-- An element from its opening tag to the last closing tag of that name on the line. -/
def element? (opening closing s : List Char) : Option (List Char) := do
  match ← dropWord? opening s with
  | c :: rest => if isLetter c then none else behindLastOnLine? closing rest
  | [] => none

def invisible : Rule := fun s ↦ do
  let rest ← element? "<head".toList "</head>".toList s <|>
    element? "<style".toList "</style>".toList s <|>
    element? "<script".toList "</script>".toList s
  Match.of? s [] rest

def dropInvisible : List Char → List Char :=
  invisible.apply

def headingEnd? (s : List Char) : Option (List Char) := do
  match ← dropWord? "/h".toList s with
  | d :: rest => if isDecimalDigit d then some rest else none
  | [] => none

def dropAnyWord? (words : List String) (s : List Char) : Option (List Char) :=
  words.firstM fun w ↦ dropWord? w.toList s

def breakingTags : List String :=
  ["/p", "p", "br", "/ul", "/ol", "/li", "/div", "/table", "/td"]

def breakingTag : Rule := fun s ↦ do
  let name ← dropWord? ['<'] s
  match ← headingEnd? name <|> dropAnyWord? breakingTags name with
  | c :: rest => if isLetter c then none else Match.of? s ('\n' :: consumed s rest) rest
  | [] => none

def breakLines : List Char → List Char :=
  breakingTag.apply

def spacedTags : List String :=
  ["/p", "p", "br", "/ul", "ul", "/ol", "ol", "/li", "li", "/div", "div", "/table", "table",
    "/td", "td", "hr", "img"]

def spacedTag : Rule := fun s ↦ do
  let name ← dropWord? ['<'] s
  let rest ← dropAnyWord? spacedTags name
  Match.of? s (' ' :: consumed s rest) rest

def spaceTags : List Char → List Char :=
  spacedTag.apply

/-- Reads `name = "value"`, the value not empty; gives the value and what follows it. -/
def attribute? (name s : List Char) : Option (List Char × List Char) := do
  match (← dropWord? name s).dropWhile isSpace with
  | '=' :: s =>
    match s.dropWhile isSpace with
    | '"' :: s =>
      let value := s.takeWhile (· != '"')
      match s.drop value.length with
      | '"' :: rest => if value.isEmpty then none else some (value, rest)
      | _ => none
    | _ => none
  | _ => none

def imageText : Rule := fun s ↦ do
  let (value, rest) ← greedy (· != '>') (attribute? "alt".toList) (← dropWord? "<img ".toList s)
  Match.of? s (value ++ consumed s rest) rest

def keepImageText : List Char → List Char :=
  imageText.apply

def lastLinkEnd? : List Char → Option (List Char × List Char)
  | [] => none
  | c :: s =>
    match lastLinkEnd? s with
    | some (front, tail) => some (c :: front, tail)
    | none => (dropWord? "</a>".toList (c :: s)).map fun tail ↦ ([], tail)

/-- The target of a link that starts at the head of a text: in its opening tag, the last `href`. -/
def linkTarget? (s : List Char) : Option (List Char) := do
  let (value, _) ← greedy (· != '>') (attribute? "href".toList) (← dropWord? "<a ".toList s)
  some value

def firstTarget? : List Char → Option (List Char)
  | [] => none
  | c :: s => linkTarget? (c :: s) <|> firstTarget? s

/-- Puts the target of the first link behind the last `</a>`: what starts with the first link and
ends there counts as one link. -/
def keepLinkTarget (s : List Char) : List Char :=
  match lastLinkEnd? s with
  | none => s
  | some (front, tail) =>
    match firstTarget? front with
    | none => s
    | some target => consumed s tail ++ " [ ".toList ++ target ++ " ] ".toList ++ tail

def tag : Rule := fun s ↦
  match s with
  | '<' :: c :: s' =>
    if c == '>' then none
    else match s'.dropWhile (· != '>') with
      | _ :: rest => Match.of? _ [] rest
      | [] => none
  | _ => none

def removeTags : List Char → List Char :=
  tag.apply

def reducedRun (run : List Char) : List Char :=
  match run.count '\n' with
  | 0 => [' ']
  | n => List.replicate n '\n'

def spaceRun : Rule := fun s ↦
  match s with
  | c :: s =>
    if isSpace c then
      some ⟨reducedRun (c :: s.takeWhile isSpace), s.dropWhile isSpace,
        Nat.lt_succ_of_le (List.dropWhile_sublist _).length_le⟩
    else none
  | [] => none

/-- Reduces each run of white space to its line feeds, or to one space. -/
def normalizeSpace : List Char → List Char :=
  spaceRun.apply

def visibleText (markup : List Char) : List Char :=
  removeTags <| keepLinkTarget <| keepImageText <| spaceTags <| breakLines <| dropInvisible <|
    collapseSpace markup

def plainText (markup : List Char) : List Char :=
  trim <| normalizeSpace <| Reference.decode <| visibleText markup

end MimeMail.Html
