import ClientGen.Json.Value

/-!
# Number literals

A literal without fraction and power is an integer if it lies between -2^63 and 2^64 - 1 and is
not a negative zero. Any other literal is a double: its digits are gathered as long as they stay
below 2^64, the rest only shift the decimal point, and the gathered number is multiplied or divided
by a power of ten, rounding once more. A number too large for a double is refused.
-/

namespace ClientGen.Json

structure NumberLiteral where
  negative : Bool
  whole : List Char
  fraction : Option (List Char)
  /-- Whether the power is negative, and its digits. -/
  power : Option (Bool × List Char)

def digitValue (c : Char) : Nat := c.toNat - 48

/-- Adds digits to a number while it stays below `2 ^ 64`; what is left starts with the first digit
that would not. -/
def gather (n : Nat) : List Char → Nat × List Char
  | [] => (n, [])
  | d :: rest =>
    if Nat.pow 2 64 ≤ 10 * n + digitValue d then (n, d :: rest)
    else gather (10 * n + digitValue d) rest

/-- `d · 10 ^ exponent`, one power of at most 308 at a time; none if it is too large. -/
def scale (d : Double) (exponent : Int) : Nat → Option Double
  | 0 => some d
  | fuel + 1 =>
    if exponent.natAbs ≤ 308 then
      if 0 ≤ exponent then d.mul (.powerOfTen exponent.natAbs)
      else d.div (.powerOfTen exponent.natAbs)
    else if d.isZero then some d
    else if 0 ≤ exponent then none
    else (d.div (.powerOfTen 308)).bind fun d => scale d (exponent + 308) fuel

/-- A number below `2 ^ 64` divided by `10 ^ 308` three times is zero. -/
def scaled (negative : Bool) (significand : Nat) (exponent : Int) : Option Double := do
  let d ← Double.ofQuotient false significand 1
  let d ← scale d exponent 5
  return { d with negative }

namespace NumberLiteral

/-- The gathered digits and the power of ten that the others stand for. -/
def significand (l : NumberLiteral) : Nat × Int :=
  let (n, left) := gather 0 l.whole
  match l.fraction with
  | none => (n, left.length)
  | some ds =>
    let (n, left') := gather n ds
    (n, (left.length : Int) - ((ds.length : Int) - (left'.length : Int)))

/-- The value of a digit string, and the count of digits after which it passed `2 ^ 31 - 1`. -/
def powerValue (n count : Nat) : List Char → Nat × Option Nat
  | [] => (n, none)
  | d :: rest =>
    let n := 10 * n + digitValue d
    if Nat.pow 2 31 ≤ n then (n, some (count + 1)) else powerValue n (count + 1) rest

/-- The number, or the count of characters after the last digit read when it is too large. -/
def value (l : NumberLiteral) : Except Nat Number :=
  let (n, shift) := l.significand
  let double (exponent : Int) : Except Nat Number :=
    match scaled l.negative n exponent with
    | some d => .ok (.double d)
    | none => .error 0
  match l.fraction, l.power with
  | none, none =>
    if shift != 0 then double shift
    else if !l.negative then .ok (.int n)
    else if n == 0 || Nat.pow 2 63 < n then double 0
    else .ok (.int (-n))
  | _, none => double shift
  | _, some (down, digits) =>
    match powerValue 0 0 digits with
    | (power, none) => double (if down then shift - power else shift + power)
    | (_, some count) =>
      if n != 0 && !down then .error (digits.length - count) else .ok (.double (.zero l.negative))

end NumberLiteral

end ClientGen.Json
