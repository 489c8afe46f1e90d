import ClientGen.Decimal.Shortest
import ClientGen.Json.Value

/-!
# Written JSON

The compact form has no blanks; the pretty form puts every element on a line of its own, indented
by two spaces, and leaves empty containers on one line. A string escapes the quote, the backslash
and control characters only. A double is written by its shortest digits, positionally from 1e-5
below 1e16, otherwise in scientific notation.
-/

namespace ClientGen.Json

def hexDigit (n : Nat) : Char := if n < 10 then Char.ofNat (48 + n) else Char.ofNat (87 + n)

/-- A character inside a quoted string. -/
def escapeChar (c : Char) : List Char :=
  if c == '"' then ['\\', '"']
  else if c == '\\' then ['\\', '\\']
  else if c == '\n' then ['\\', 'n']
  else if c == '\r' then ['\\', 'r']
  else if c == '\t' then ['\\', 't']
  else if c.toNat == 0x8 then ['\\', 'b']
  else if c.toNat == 0xc then ['\\', 'f']
  else if c.toNat < 0x20 then
    ['\\', 'u', '0', '0', hexDigit (c.toNat / 16), hexDigit (c.toNat % 16)]
  else [c]

def quoted (s : String) : String := .ofList ('"' :: (s.toList.flatMap escapeChar ++ ['"']))

/-- The layout of a double's digits: which leading exponents are written positionally. -/
structure DoubleFormat where
  least : Int
  greatest : Int

/-- Doubles of JSON text. -/
def doubleFormat : DoubleFormat := ⟨-5, 15⟩

def zeros (n : Nat) : List Char := List.replicate n '0'

/-- The digits of a positive decimal around its point; `whole` follows a number without fraction. -/
def positional (whole : List Char) (d : Decimal) : List Char :=
  let ds := Nat.toDigits 10 d.digits
  let lead := d.exponent + (ds.length : Int) - 1
  if 0 ≤ d.exponent then ds ++ zeros d.exponent.toNat ++ whole
  else if 0 ≤ lead then ds.take (lead + 1).toNat ++ '.' :: ds.drop (lead + 1).toNat
  else '0' :: '.' :: zeros (-lead - 1).toNat ++ ds

/-- Positional or scientific digits of a positive decimal. -/
def DoubleFormat.digits (f : DoubleFormat) (d : Decimal) : List Char :=
  let ds := Nat.toDigits 10 d.digits
  let lead := d.exponent + (ds.length : Int) - 1
  if f.least ≤ lead && lead ≤ f.greatest then positional ['.', '0'] d
  else
    let power := (if lead < 0 then ['-'] else ['+']) ++ Nat.toDigits 10 lead.natAbs
    ds.take 1 ++ (if ds.length == 1 then [] else '.' :: ds.drop 1) ++ 'e' :: power

/-- The written double. -/
def doubleText (d : Double) : String :=
  let digits := if d.isZero then ['0', '.', '0'] else doubleFormat.digits (.shortest d)
  .ofList (if d.negative then '-' :: digits else digits)

def numberText : Number → String
  | .int n => toString n
  | .double d => doubleText d

mutual

/-- Without blanks. -/
def compact : Json → String
  | .null => "null"
  | .bool true => "true"
  | .bool false => "false"
  | .num n => numberText n
  | .str s => quoted s
  | .arr [] => "[]"
  | .arr (v :: vs) => "[" ++ compact v ++ compactItems vs ++ "]"
  | .obj [] => "\x7b\x7d"
  | .obj ((k, v) :: rest) => "\x7b" ++ quoted k ++ ":" ++ compact v ++ compactFields rest ++ "\x7d"

def compactItems : List Json → String
  | [] => ""
  | v :: vs => "," ++ compact v ++ compactItems vs

def compactFields : List (String × Json) → String
  | [] => ""
  | (k, v) :: rest => "," ++ quoted k ++ ":" ++ compact v ++ compactFields rest

end

/-- A line break and the indentation of a level. -/
def newline (level : Nat) : String := .ofList ('\n' :: List.replicate (2 * level) ' ')

mutual

/-- One element a line; `level` is the depth at which the value stands. -/
def prettyAt (level : Nat) : Json → String
  | .null => "null"
  | .bool true => "true"
  | .bool false => "false"
  | .num n => numberText n
  | .str s => quoted s
  | .arr [] => "[]"
  | .arr (v :: vs) =>
    "[" ++ newline (level + 1) ++ prettyAt (level + 1) v ++ prettyItems (level + 1) vs ++
      newline level ++ "]"
  | .obj [] => "\x7b\x7d"
  | .obj ((k, v) :: rest) =>
    "\x7b" ++ newline (level + 1) ++ quoted k ++ ": " ++ prettyAt (level + 1) v ++
      prettyFields (level + 1) rest ++ newline level ++ "\x7d"

def prettyItems (level : Nat) : List Json → String
  | [] => ""
  | v :: vs => "," ++ newline level ++ prettyAt level v ++ prettyItems level vs

def prettyFields (level : Nat) : List (String × Json) → String
  | [] => ""
  | (k, v) :: rest =>
    "," ++ newline level ++ quoted k ++ ": " ++ prettyAt level v ++ prettyFields level rest

end

/-- The pretty form. -/
def pretty (v : Json) : String := prettyAt 0 v

/-- The text of a string, the compact form of anything else. -/
def text : Json → String
  | .str s => s
  | v => v.compact

end ClientGen.Json
