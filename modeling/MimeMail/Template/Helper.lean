import MimeMail.Data.Json
import MimeMail.Template.Basic
import MimeMail.Text.Basic

namespace MimeMail.Template

open Data

inductive Comparison where
  | gt
  | gte
  | lt
  | lte
  deriving DecidableEq, Repr

inductive Test where
  | equal (positive : Bool)
  | compare (c : Comparison)
  | all
  | any
  | negate
  deriving DecidableEq, Repr

inductive Helper where
  | conditional (positive : Bool)
  | iterate
  | enter
  | verbatim
  | log
  | lookup
  | len
  | test (t : Test)
  deriving DecidableEq, Repr

def Helper.ofName? : String → Option Helper
  | "if" => some (.conditional true)
  | "unless" => some (.conditional false)
  | "each" => some .iterate
  | "with" => some .enter
  | "raw" => some .verbatim
  | "log" => some .log
  | "lookup" => some .lookup
  | "len" => some .len
  | "eq" => some (.test (.equal true))
  | "ne" => some (.test (.equal false))
  | "gt" => some (.test (.compare .gt))
  | "gte" => some (.test (.compare .gte))
  | "lt" => some (.test (.compare .lt))
  | "lte" => some (.test (.compare .lte))
  | "and" => some (.test .all)
  | "or" => some (.test .any)
  | "not" => some (.test .negate)
  | _ => none

def Comparison.holds : Comparison → Ordering → Bool
  | .gt, o => o.isGT
  | .gte, o => o.isGE
  | .lt, o => o.isLT
  | .lte, o => o.isLE

def numberOfText? (s : String) : Option Number :=
  match Json.number? s.toList with
  | some (n, []) => some n
  | _ => none

/-- The order of two values: of two numbers, two texts, two truth values, or a number and the text
of one. -/
def valueOrder? : Value → Value → Option Ordering
  | .number a, .number b => some (a.order b)
  | .string a, .string b => some (compareOfLessAndEq a b)
  | .bool a, .bool b => some (compareOfLessAndEq a.toNat b.toNat)
  | .number a, .string b => (numberOfText? b).map a.order
  | .string a, .number b => (numberOfText? a).map (·.order b)
  | _, _ => none

/-- The answer to a test, unless it lacks arguments. Values without an order fail every
comparison. -/
def Test.holds? : Test → List Value → Option Bool
  | .equal positive, a :: b :: _ => some (a.beq b == positive)
  | .compare c, a :: b :: _ => some ((valueOrder? a b).any c.holds)
  | .all, args => some (args.all Value.isTrue)
  | .any, args => some (args.any Value.isTrue)
  | .negate, a :: _ => some !a.isTrue
  | _, _ => none

def item (collection index : Value) : Value :=
  match collection, index with
  | .array items, index => (index.nat?.bind (items[·]?)).getD .null
  | .object fields, .string name => (fields.lookup name).getD .null
  | _, _ => .null

/-- How much a value holds; the length of a text is counted in bytes. -/
def size : Value → Nat
  | .array items => items.length
  | .object fields => fields.length
  | .string s => (Text.utf8 s.toList).length
  | _ => 0

def logLevels : List String :=
  ["error", "warn", "info", "debug", "trace"]

/-- The value that a helper computes. Without all its arguments it computes none. The helpers that
choose what is rendered have nothing to choose from in an expression, and give the empty text. -/
def Helper.value? (h : Helper) (args : List Value) (options : List (String × Value)) :
    Option Value :=
  match h, args with
  | .conditional _, _ :: _ | .iterate, _ :: _ | .enter, _ :: _ | .verbatim, _ => some (.string "")
  | .log, _ =>
    let level := ((options.lookup "level").bind Value.string?).getD "info"
    if logLevels.contains level.toLower then some (.string "") else none
  | .lookup, c :: i :: _ => some (item c i)
  | .len, v :: _ => some (.number (.int (size v)))
  | .test t, args => (t.holds? args).map .bool
  | _, _ => none

end MimeMail.Template
