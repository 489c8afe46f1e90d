import ClientGen.Json.Value

/-!
# Scalars of a TOML text

Numbers, dates and times without quotes. An integer lies in 64 bits with sign; a float is the
nearest double, and infinities and not-a-number have no JSON form. A number beyond its range is well
written but has no value. A date or time becomes an object that holds its text.
-/

namespace ClientGen.Toml

/-- Digits of a base with single underscores between them, as a list of digit values. -/
def digits (base : Nat) (value : Char → Option Nat) : List Char → Option (List Nat)
  | [] => none
  | [c] => (value c).bind fun d => if d < base then some [d] else none
  | c :: '_' :: rest => do
    let d ← value c
    if d < base then return d :: (← digits base value rest) else none
  | c :: rest => do
    let d ← value c
    if d < base then return d :: (← digits base value rest) else none

def digit (c : Char) : Option Nat := if c.isDigit then some (c.toNat - 48) else none

def anyDigit (c : Char) : Option Nat :=
  if c.isDigit then some (c.toNat - 48)
  else if 'a' ≤ c && c ≤ 'f' then some (c.toNat - 87)
  else if 'A' ≤ c && c ≤ 'F' then some (c.toNat - 55)
  else none

def decimal : List Char → Option (List Nat) := digits 10 digit

def number (base : Nat) (ds : List Nat) : Nat := ds.foldl (fun n d => base * n + d) 0

/-- Digits without a leading zero, unless zero is all there is. -/
def wholeNumber (cs : List Char) : Option (List Nat) := do
  let ds ← decimal cs
  if ds.length > 1 && ds.head? == some 0 then none else return ds

/-- The sign of a number, if it is written, and the rest. -/
def sign : List Char → Bool × List Char
  | '-' :: rest => (true, rest)
  | '+' :: rest => (false, rest)
  | cs => (false, cs)

/-- An integer, if it is well written, and its value, if it has one. -/
def integer (cs : List Char) : Option (Option Json) := do
  let (negative, rest) := sign cs
  let signed := rest.length < cs.length
  let n ← match rest with
    | '0' :: 'x' :: hex => if signed then none else number 16 <$> digits 16 anyDigit hex
    | '0' :: 'o' :: octal => if signed then none else number 8 <$> digits 8 digit octal
    | '0' :: 'b' :: binary => if signed then none else number 2 <$> digits 2 digit binary
    | _ => number 10 <$> wholeNumber rest
  if negative then return if n ≤ Nat.pow 2 63 then some (.int (-n)) else none
  else return if n < Nat.pow 2 63 then some (.int n) else none

/-- The nearest double to `± digits · 10 ^ power`. -/
def nearest (negative : Bool) (ds : List Nat) (power : Int) : Option Double :=
  let n := number 10 ds
  if n == 0 then some (.zero negative)
  else if 400 < power + ds.length then none
  else if power + ds.length < -400 then some (.zero negative)
  else if 0 ≤ power then Double.ofQuotient negative (n * Nat.pow 10 power.toNat) 1
  else Double.ofQuotient negative n (Nat.pow 10 (-power).toNat)

def isExponentMark (c : Char) : Bool := c == 'e' || c == 'E'

/-- A number with a fraction or a power of ten, or one of the special floats. -/
def float (cs : List Char) : Option (Option Json) := do
  let (negative, rest) := sign cs
  if rest == ['i', 'n', 'f'] || rest == ['n', 'a', 'n'] then return some .null
  let mantissa := rest.takeWhile fun c => !isExponentMark c
  let power ← match rest.dropWhile fun c => !isExponentMark c with
    | [] => some 0
    | _ :: power => do
      let (down, digits) := sign power
      let n := (number 10 (← decimal digits) : Int)
      pure (if down then -n else n)
  let whole ← wholeNumber (mantissa.takeWhile (· != '.'))
  match mantissa.dropWhile (· != '.') with
  | [] =>
    if mantissa.length == rest.length then none
    else return (nearest negative whole power).map fun d => .num (.double d)
  | _ :: fraction =>
    let fraction ← decimal fraction
    return (nearest negative (whole ++ fraction) (power - fraction.length)).map fun d =>
      .num (.double d)

/-- A number of exactly `count` digits within bounds, and the rest. -/
def fixed (count low high : Nat) (cs : List Char) : Option (Nat × List Char) := do
  let ds ← (cs.take count).mapM digit
  if ds.length != count then none
  let n := number 10 ds
  if low ≤ n && n ≤ high then return (n, cs.drop count) else none

def daysIn (year month : Nat) : Nat :=
  if month == 2 then
    if year % 4 == 0 && (year % 100 != 0 || year % 400 == 0) then 29 else 28
  else if [4, 6, 9, 11].contains month then 30
  else 31

def character (c : Char) : List Char → Option (List Char)
  | x :: rest => if x == c then some rest else none
  | [] => none

/-- A date: its text and the rest. -/
def date (cs : List Char) : Option (List Char × List Char) := do
  let (year, rest) ← fixed 4 0 9999 cs
  let (month, rest) ← fixed 2 1 12 (← character '-' rest)
  let (_, rest) ← fixed 2 1 (daysIn year month) (← character '-' rest)
  return (cs.take 10, rest)

/-- The fraction of a second: at most nine digits, without zeros at the end; none if it is zero. -/
def fractionText (ds : List Char) : List Char :=
  let kept := ((ds.take 9).reverse.dropWhile (· == '0')).reverse
  if kept.isEmpty then [] else '.' :: kept

/-- A time of day: its text and the rest. The seconds may be left out, and are zero then. -/
def time (cs : List Char) : Option (List Char × List Char) := do
  let (_, rest) ← fixed 2 0 23 cs
  let (_, rest) ← fixed 2 0 59 (← character ':' rest)
  match rest with
  | ':' :: rest =>
    let (_, rest) ← fixed 2 0 60 rest
    match rest with
    | '.' :: rest =>
      let ds := rest.takeWhile Char.isDigit
      if ds.isEmpty then none
      else return (cs.take 8 ++ fractionText ds, rest.dropWhile Char.isDigit)
    | _ => return (cs.take 8, rest)
  | _ => return (cs.take 5 ++ [':', '0', '0'], rest)

/-- The offset from universal time, or nothing. An offset of zero has a plus. -/
def zone : List Char → Option (List Char)
  | [] => some []
  | ['Z'] | ['z'] => some ['Z']
  | c :: rest => do
    if c != '+' && c != '-' then none
    let (hours, after) ← fixed 2 0 23 rest
    let (minutes, after) ← fixed 2 0 59 (← character ':' after)
    if !after.isEmpty then none
    else return (if hours == 0 && minutes == 0 then '+' else c) :: rest

/-- A date, a time, or a date and a time with or without an offset. -/
def datetimeText (cs : List Char) : Option (List Char) :=
  match date cs with
  | some (day, []) => some day
  | some (day, mark :: rest) => do
    if mark != 'T' && mark != 't' && mark != ' ' then none
    let (hour, rest) ← time rest
    return day ++ 'T' :: hour ++ (← zone rest)
  | none => do
    let (hour, rest) ← time cs
    if rest.isEmpty then return hour else none

/-- The key under which a date or time holds its text. -/
def datetimeKey : String := "$__toml_private_datetime"

def datetime (cs : List Char) : Option Json :=
  (datetimeText cs).map fun text => .obj [(datetimeKey, .str (.ofList text))]

/-- A value written without quotes, if it is well written, and its value, if it has one. -/
def scalar (cs : List Char) : Option (Option Json) :=
  if cs == ['t', 'r', 'u', 'e'] then some (some (.bool true))
  else if cs == ['f', 'a', 'l', 's', 'e'] then some (some (.bool false))
  else (integer cs).or ((float cs).or ((datetime cs).map some))

end ClientGen.Toml
