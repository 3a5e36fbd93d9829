import MimeMail.Data.Number

namespace MimeMail.Data

inductive Value where
  | null
  | bool (b : Bool)
  | number (n : Number)
  | string (s : String)
  | array (items : List Value)
  | object (fields : List (String × Value))

namespace Value

instance : Inhabited Value := ⟨null⟩

mutual

def beq : Value → Value → Bool
  | null, null => true
  | bool a, bool b => a == b
  | number a, number b => a.beq b
  | string a, string b => a == b
  | array a, array b => beqItems a b
  | object a, object b => beqFields a b
  | _, _ => false

def beqItems : List Value → List Value → Bool
  | [], [] => true
  | a :: as, b :: bs => beq a b && beqItems as bs
  | _, _ => false

def beqFields : List (String × Value) → List (String × Value) → Bool
  | [], [] => true
  | (k, a) :: as, (l, b) :: bs => k == l && beq a b && beqFields as bs
  | _, _ => false

end

def insertField (name : String) (v : Value) :
    List (String × Value) → List (String × Value)
  | [] => [(name, v)]
  | (k, w) :: fields =>
    if name < k then (name, v) :: (k, w) :: fields
    else if name = k then (name, v) :: fields
    else (k, w) :: insertField name v fields

/-- The object with the fields of `v`, if it is one, and the given ones, the last of each name. -/
def withFields (v : Value) (fields : List (String × Value)) : Value :=
  let own := match v with
    | .object own => own
    | _ => []
  .object (fields.foldl (fun sorted f ↦ insertField f.1 f.2 sorted) own)

def ofFields (fields : List (String × Value)) : Value :=
  withFields null fields

def field? (name : String) : Value → Option Value
  | .object fields => fields.lookup name
  | _ => none

def string? : Value → Option String
  | .string s => some s
  | _ => none

def nat? : Value → Option Nat
  | .number (.int (.ofNat n)) => some n
  | _ => none

def isTrue : Value → Bool
  | null => false
  | bool b => b
  | number n => n.isTrue
  | string s => !s.isEmpty
  | array items => !items.isEmpty
  | object fields => !fields.isEmpty

mutual

/-- The text of a value in rendered output: null writes nothing, and an object only says so. -/
def text : Value → String
  | null => ""
  | bool b => if b then "true" else "false"
  | number n => n.text
  | string s => s
  | array items => "[" ++ ", ".intercalate (texts items) ++ "]"
  | object _ => "[object]"

def texts : List Value → List String
  | [] => []
  | v :: vs => v.text :: texts vs

end

end Value

end MimeMail.Data
