import ClientGen.Decimal.Double

/-!
# Shortest decimals

The shortest decimal of a double has the fewest digits among the decimals that round to it; of two
such decimals the nearer is taken, and of two equally near the one with an even last digit. For
each count of digits only the two neighbours of the number on that decimal grid matter.
-/

namespace ClientGen

/-- The number `digits · 10 ^ exponent`. -/
structure Decimal where
  digits : Nat
  exponent : Int
deriving DecidableEq, Repr, Inhabited

namespace Decimal

def digitCount (n : Nat) : Nat := (Nat.toDigits 10 n).length

/-- The exponent of the leading digit of a positive quotient. -/
def leadingExponent (num den : Nat) : Int :=
  if den ≤ num then (digitCount (num / den) : Int) - 1
  else
    let k := digitCount (den / num)
    if den == num * Nat.pow 10 (k - 1) then 1 - (k : Int) else -(k : Int)

/-- The interval of reals that round to a positive double, in quarters of its last place: the lower
end, the number, the upper end, and whether the ends belong to it. -/
structure Rounding where
  low : Nat
  value : Nat
  high : Nat
  closed : Bool

def Rounding.of (d : Double) : Rounding where
  low := 4 * d.mantissa - if d.mantissa == Nat.pow 2 52 && -1074 < d.exponent then 1 else 2
  value := 4 * d.mantissa
  high := 4 * d.mantissa + 2
  closed := d.mantissa % 2 == 0

def Rounding.holds (r : Rounding) (x scale : Nat) : Bool :=
  if r.closed then r.low * scale ≤ x && x ≤ r.high * scale
  else r.low * scale < x && x < r.high * scale

/-- Of the neighbours of the number on the grid of step `10 ^ e`, the one that reads back. -/
def onGrid (d : Double) (r : Rounding) (e : Int) : Option Nat :=
  -- a grid point `a` and a bound `b` compare as `a * step` and `b * scale`
  let (step, scale) := if 0 ≤ e then (Nat.pow 10 e.toNat, 1) else (1, Nat.pow 10 (-e).toNat)
  let two := d.exponent - 2
  let (step, scale) :=
    if 0 ≤ two then (step, scale * Nat.pow 2 two.toNat)
    else (step * Nat.pow 2 (-two).toNat, scale)
  let below := r.value * scale / step
  let rest := r.value * scale % step
  match r.holds (below * step) scale && below != 0, r.holds ((below + 1) * step) scale with
  | true, true =>
    some <| if 2 * rest < step then below else if step < 2 * rest then below + 1
      else if below % 2 == 0 then below else below + 1
  | true, false => some below
  | false, true => some (below + 1)
  | false, false => none

/-- The first grid, from `count` digits on, that has a decimal of the number. Just below a power of
ten the first grid finds that power, as ten times its step. -/
def search (d : Double) (r : Rounding) (lead : Int) (count : Nat) : Nat → Decimal
  | 0 => ⟨0, 0⟩
  | fuel + 1 =>
    let e := lead - count + 1
    match onGrid d r e with
    | some a => if a == 10 then ⟨1, e + 1⟩ else ⟨a, e⟩
    | none => search d r lead (count + 1) fuel

/-- The shortest decimal of the absolute value; 17 digits always suffice. -/
def shortest (d : Double) : Decimal :=
  if d.isZero then ⟨0, 0⟩
  else
    let (num, den) := d.quotient
    search d (.of d) (leadingExponent num den) 1 17

end Decimal

end ClientGen
