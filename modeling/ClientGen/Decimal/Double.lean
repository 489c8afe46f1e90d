/-!
# Doubles

The finite numbers of the 64-bit binary format: a sign, a mantissa below 2^53 and a power of two.
A quotient of naturals is rounded to the nearest of them, a tie to the even mantissa, and every
operation here is exact arithmetic followed by one such rounding.
-/

namespace ClientGen

/-- The number `± mantissa · 2 ^ exponent`. -/
structure Double where
  negative : Bool
  mantissa : Nat
  exponent : Int
deriving DecidableEq, Repr, Inhabited

namespace Double

def zero (negative : Bool) : Double := ⟨negative, 0, -1074⟩

def isZero (d : Double) : Bool := d.mantissa == 0

/-- The quotient rounded to the nearest natural, ties to even. -/
def roundDiv (num den : Nat) : Nat :=
  let q := num / den
  let r := num % den
  if 2 * r < den then q else if den < 2 * r then q + 1 else if q % 2 == 0 then q else q + 1

/-- The quotient `num / den` in units of `2 ^ e`, as a quotient of naturals. -/
def inUnits (num den : Nat) (e : Int) : Nat × Nat :=
  if 0 ≤ e then (num, den * Nat.pow 2 e.toNat) else (num * Nat.pow 2 (-e).toNat, den)

/-- The double nearest to `num / den`; none beyond the largest double. -/
def ofQuotient (negative : Bool) (num den : Nat) : Option Double :=
  if num == 0 then some (zero negative)
  else
    let e : Int := (Nat.log2 num : Int) - (Nat.log2 den : Int) - 53
    let (n, d) := inUnits num den e
    let e := max (if n / d < Nat.pow 2 53 then e else e + 1) (-1074)
    let (n, d) := inUnits num den e
    let m := roundDiv n d
    let (m, e) := if m == Nat.pow 2 53 then (Nat.pow 2 52, e + 1) else (m, e)
    if 971 < e then none else some ⟨negative, m, e⟩

/-- The absolute value as a quotient of naturals. -/
def quotient (d : Double) : Nat × Nat := inUnits d.mantissa 1 (-d.exponent)

/-- The double nearest to `10 ^ k`, for `k` up to 308. -/
def powerOfTen (k : Nat) : Double := (ofQuotient false (Nat.pow 10 k) 1).getD (zero false)

def mul (a b : Double) : Option Double :=
  let (n, d) := a.quotient
  let (p, q) := b.quotient
  ofQuotient (a.negative != b.negative) (n * p) (d * q)

def div (a b : Double) : Option Double :=
  let (n, d) := a.quotient
  let (p, q) := b.quotient
  ofQuotient (a.negative != b.negative) (n * q) (d * p)

end Double

end ClientGen
