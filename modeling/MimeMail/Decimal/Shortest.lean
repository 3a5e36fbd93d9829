
namespace MimeMail.Decimal

/-- A positive double `mantissa · 2^exponent`. `low` tells that the double below it is half as far
away as the one above. -/
structure Binary where
  mantissa : Nat
  exponent : Int
  low : Bool
  deriving DecidableEq, Repr

structure Scaled where
  digits : Nat
  exponent : Int
  deriving DecidableEq, Repr

def Binary.ofBits (bits : UInt64) : Binary :=
  let n := bits.toNat % Nat.pow 2 63
  let fraction : Nat := n % Nat.pow 2 52
  let e : Nat := n / Nat.pow 2 52
  if e = 0 then ⟨fraction, -1074, false⟩
  else ⟨Nat.pow 2 52 + fraction, (e : Int) - 1075, fraction = 0 && 1 < e⟩

def powerRatio (b : Nat) (e : Int) : Nat × Nat :=
  if 0 ≤ e then (Nat.pow b e.toNat, 1) else (1, Nat.pow b (-e).toNat)

/-- The point of the grid of multiples of `10^k` that is nearest to `b` among those in its interval.
All lengths are counted in quarters of `2^exponent`, to keep them whole. -/
def Binary.nearest? (b : Binary) (k : Int) : Option Nat :=
  let (p, p') := powerRatio 10 k
  let (a, a') := powerRatio 2 (b.exponent - 2)
  let step := p * a'
  let unit := a * p'
  let value := 4 * b.mantissa * unit
  let below := (if b.low then 1 else 2) * unit
  let inside := fun c ↦
    let x := c * step
    if b.mantissa % 2 = 0 then value ≤ x + below && x ≤ value + 2 * unit
    else value < x + below && x < value + 2 * unit
  let c := value / step
  let remainder := value % step
  let nearer := 2 * remainder < step || (2 * remainder = step && c % 2 = 0)
  if inside c && (nearer || !inside (c + 1)) then some c
  else if inside (c + 1) then some (c + 1)
  else none

def grids : List Int :=
  (List.range 650).map fun (i : Nat) ↦ 309 - (i : Int)

def Binary.shortest (b : Binary) : Scaled :=
  (grids.findSome? fun k ↦ (b.nearest? k).map (⟨·, k⟩)).getD ⟨0, 0⟩

end MimeMail.Decimal
