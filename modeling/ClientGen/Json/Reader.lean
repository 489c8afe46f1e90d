import ClientGen.Json.Fault
import ClientGen.Json.Number

/-!
# Reading JSON text

Small readers over a cursor: tokens, strings, numbers, lists and maps. Containers may be nested to
a depth of 127; a value that nobody asked for is only passed over, which is laxer: its nesting, its
surrogates and the range of its numbers do not matter.
-/

namespace ClientGen.Json

abbrev Reader (α : Type) := StateT Cursor (Except Halt) α

/-- A fault at the next byte. -/
def failNext {α : Type} (cause : Cause) : Reader α := fun c =>
  .error (.placed ⟨cause, c.peekPlace⟩)

/-- A fault after what was read. -/
def failHere {α : Type} (cause : Cause) : Reader α := fun c =>
  .error (.placed ⟨cause, c.place⟩)

def peek : Reader (Option Char) := do return (← get).rest.head?

def advance : Reader Unit := modify Cursor.next

/-- The next character after blanks, which are passed over. -/
def token : Reader (Option Char) := do
  modify Cursor.skipBlanks
  peek

/-- The characters of a class that come next; the class is of ASCII characters. -/
def span (p : Char → Bool) : Reader (List Char) := fun c =>
  let taken := c.rest.takeWhile p
  .ok (taken, ⟨c.rest.dropWhile p, taken.foldl Place.after c.place⟩)

/-- The remaining letters of a word. -/
def word : List Char → Reader Unit
  | [] => pure ()
  | c :: rest => do
    match ← peek with
    | none => failNext .endInValue
    | some x => if x == c then do advance; word rest else failNext .expectedWord

def hexValue (c : Char) : Option Nat :=
  if c.isDigit then some (c.toNat - 48)
  else if 'a' ≤ c && c ≤ 'f' then some (c.toNat - 87)
  else if 'A' ≤ c && c ≤ 'F' then some (c.toNat - 55)
  else none

/-- Four bytes that should be hexadecimal digits. -/
def fourHex : Reader Nat := fun cursor =>
  match cursor.place.advance? 4 cursor.rest with
  | none => .error (.placed ⟨.endInString, cursor.endPlace⟩)
  | some place =>
    match cursor.rest with
    | a :: b :: c :: d :: rest =>
      match hexValue a, hexValue b, hexValue c, hexValue d with
      | some a, some b, some c, some d =>
        .ok (((a * 16 + b) * 16 + c) * 16 + d, ⟨rest, place⟩)
      | _, _, _, _ => .error (.placed ⟨.invalidEscape, place⟩)
    | _ => .error (.placed ⟨.invalidEscape, place⟩)

/-- One character that must come next inside an escape of two halves. -/
def halfMark (c : Char) : Reader Unit := do
  match ← peek with
  | none => failNext .endInString
  | some x => if x == c then advance else failNext .unfinishedEscape

/-- The character of a `\u` escape; above U+FFFF it takes two. A strict reader wants both halves. -/
def unicodeEscape (strict : Bool) : Reader Char := do
  let n ← fourHex
  if !strict then return Char.ofNat n
  if 0xdc00 ≤ n && n ≤ 0xdfff then failHere .loneSurrogate
  if n < 0xd800 || 0xdbff < n then return Char.ofNat n
  halfMark '\\'
  halfMark 'u'
  let m ← fourHex
  if m < 0xdc00 || 0xdfff < m then failHere .loneSurrogate
  return Char.ofNat ((n - 0xd800) * 0x400 + (m - 0xdc00) + 0x10000)

/-- The character of an escape, after the backslash. -/
def escape (strict : Bool) : Reader Char := do
  let simple (c : Char) : Reader Char := do advance; return c
  match ← peek with
  | none => failNext .endInString
  | some '"' => simple '"'
  | some '\\' => simple '\\'
  | some '/' => simple '/'
  | some 'b' => simple (Char.ofNat 8)
  | some 'f' => simple (Char.ofNat 12)
  | some 'n' => simple '\n'
  | some 'r' => simple '\r'
  | some 't' => simple '\t'
  | some 'u' => do advance; unicodeEscape strict
  | some _ => failNext .invalidEscape

/-- The rest of a string, after `read` in reverse; each step reads at least one character. -/
def stringFrom (strict : Bool) (read : List Char) : Nat → Reader String
  | 0 => failNext .endInString
  | fuel + 1 => do
    match ← peek with
    | none => failNext .endInString
    | some '"' => do
      advance
      return .ofList read.reverse
    | some '\\' => do
      advance
      let c ← escape strict
      stringFrom strict (c :: read) fuel
    | some c =>
      if c.toNat < 0x20 then (if strict then failNext else failHere) .controlCharacter
      else do
        advance
        stringFrom strict (c :: read) fuel

/-- The rest of a string, after its opening quote. -/
def stringRest (strict : Bool) : Reader String := do
  stringFrom strict [] ((← get).rest.length + 1)

/-- At least one digit; a strict reader tells the end of the text from a wrong character. -/
def someDigits (strict : Bool) : Reader (List Char) := do
  match ← peek with
  | none => failNext (if strict then .endInValue else .invalidNumber)
  | some c => if c.isDigit then span Char.isDigit else failNext .invalidNumber

/-- A number, after its sign. -/
def numberRest (strict negative : Bool) : Reader NumberLiteral := do
  let whole ← match ← peek with
    | some '0' => do
      advance
      match ← peek with
      | some c => if c.isDigit then failNext .invalidNumber else pure ['0']
      | none => pure ['0']
    | _ => someDigits strict
  let fraction ← match ← peek with
    | some '.' => do
      advance
      some <$> someDigits strict
    | _ => pure none
  let e ← peek
  if e != some 'e' && e != some 'E' then return { negative, whole, fraction, power := none }
  advance
  let sign ← peek
  if sign == some '+' || sign == some '-' then advance
  let digits ← someDigits strict
  return { negative, whole, fraction, power := some (sign == some '-', digits) }

/-- A place some columns back on the same line. -/
def Place.back (p : Place) (count : Nat) : Place := ⟨p.line, p.column - count⟩

/-- The rest of a number whose value is wanted. -/
def numberValue (negative : Bool) : Reader Number := do
  let literal ← numberRest true negative
  match literal.value with
  | .ok n => return n
  | .error unread => fun c => .error (.placed ⟨.numberOutOfRange, c.place.back unread⟩)

/-- The fault of a value of another form than the expected one; a scalar is read first. -/
def mismatch {α : Type} (expected : String) : Reader α := do
  let found (f : Found) : Reader α := failHere (.invalidType f expected)
  let number : Number → Reader α
    | .int n => found (.integer n)
    | .double d => found (.double d)
  match ← peek with
  | some 'n' => do advance; word ['u', 'l', 'l']; found .null
  | some 't' => do advance; word ['r', 'u', 'e']; found (.boolean true)
  | some 'f' => do advance; word ['a', 'l', 's', 'e']; found (.boolean false)
  | some '-' => do advance; number (← numberValue true)
  | some '"' => do advance; found (.string (← stringRest true))
  | some '[' => found .sequence
  | some '\x7b' => found .map
  | some c => if c.isDigit then do number (← numberValue false) else failNext .expectedValue
  | none => failNext .endInValue

def string : Reader String := do
  match ← token with
  | none => failNext .endInValue
  | some '"' => do advance; stringRest true
  | some _ => mismatch "a string"

def boolean : Reader Bool := do
  match ← token with
  | none => failNext .endInValue
  | some 't' => do advance; word ['r', 'u', 'e']; return true
  | some 'f' => do advance; word ['a', 'l', 's', 'e']; return false
  | some _ => mismatch "a boolean"

/-- Null stands for nothing. -/
def optional {α : Type} (read : Reader α) : Reader (Option α) := do
  match ← token with
  | some 'n' => do advance; word ['u', 'l', 'l']; return none
  | _ => some <$> read

/-- Another element of a list follows. -/
def moreElements (first : Bool) : Reader Bool := do
  match ← token with
  | some ']' => return false
  | some c =>
    if first then return true
    else if c == ',' then do
      advance
      match ← token with
      | some ']' => failNext .trailingComma
      | some _ => return true
      | none => failNext .endInValue
    else failNext .expectedListEnd
  | none => failNext .endInList

/-- Another entry of an object follows; the cursor is then at its key. -/
def moreEntries (first : Bool) : Reader Bool := do
  match ← token with
  | some '\x7d' => return false
  | some c =>
    if first then
      if c == '"' then return true else failNext .keyNotString
    else if c == ',' then do
      advance
      match ← token with
      | some '"' => return true
      | some '\x7d' => failNext .trailingComma
      | some _ => failNext .keyNotString
      | none => failNext .endInValue
    else failNext .expectedObjectEnd
  | none => failNext .endInObject

def colon : Reader Unit := do
  match ← token with
  | some ':' => advance
  | some _ => failNext .expectedColon
  | none => failNext .endInObject

/-- A key, with its quotes. -/
def key : Reader String := do
  advance
  stringRest true

/-- The elements up to the closing bracket, after `read` in reverse. -/
def elementsFrom {α : Type} (item : Reader α) (read : List α) : Nat → Reader (List α)
  | 0 => return read.reverse
  | fuel + 1 => do
    if ← moreElements read.isEmpty then
      let a ← item
      elementsFrom item (a :: read) fuel
    else
      advance
      return read.reverse

/-- The entries up to the closing brace, joined with the ones read. -/
def entriesFrom {α : Type} (value : Reader α) (first : Bool) (read : Entries α) :
    Nat → Reader (Entries α)
  | 0 => return read
  | fuel + 1 => do
    if ← moreEntries first then
      let k ← key
      colon
      let v ← value
      entriesFrom value false (read.put k v) fuel
    else
      advance
      return read

/-- Opens a container, unless it would be nested too deeply. -/
def enter {ι β : Type} (inner : Option ι) (body : ι → Nat → Reader β) : Reader β := do
  match inner with
  | none => failNext .tooDeep
  | some inner => do
    advance
    body inner ((← get).rest.length + 1)

/-- A list; `item` is missing where no deeper container is allowed. -/
def listOf {α : Type} (item : Option (Reader α)) : Reader (List α) := do
  match ← token with
  | none => failNext .endInValue
  | some '[' => enter item fun item => elementsFrom item []
  | some _ => mismatch "a sequence"

/-- A map with keys in order of first appearance. -/
def mapOf {α : Type} (value : Option (Reader α)) : Reader (Entries α) := do
  match ← token with
  | none => failNext .endInValue
  | some '\x7b' => enter value fun value => entriesFrom value true []
  | some _ => mismatch "a map"

/-- Any value whose elements are read by `inner`. -/
def valueWith (inner : Option (Reader Json)) : Reader Json := do
  match ← token with
  | none => failNext .endInValue
  | some 'n' => do advance; word ['u', 'l', 'l']; return .null
  | some 't' => do advance; word ['r', 'u', 'e']; return .bool true
  | some 'f' => do advance; word ['a', 'l', 's', 'e']; return .bool false
  | some '-' => do advance; return .num (← numberValue true)
  | some '"' => do advance; return .str (← stringRest true)
  | some '[' => return .arr (← enter inner fun item => elementsFrom item [])
  | some '\x7b' => return .obj (← enter inner fun value => entriesFrom value true [])
  | some c => if c.isDigit then return .num (← numberValue false) else failNext .expectedValue

/-- Any value in which `depth` containers may be nested. -/
def value : Nat → Reader Json
  | 0 => valueWith none
  | depth + 1 => valueWith (some (value depth))

/-- Where passing over a value stands: before a value, or after an opening bracket (`false`) or an
element (`true`). -/
inductive PassStage
  | before
  | after (element : Bool)

/-- Passes over values; `stack` tells for each open container whether it is an object. -/
def passFrom (stack : List Bool) (stage : PassStage) : Nat → Reader Unit
  | 0 => return
  | fuel + 1 => do
    match stage with
    | .before =>
      let scalar (read : Reader Unit) : Reader Unit := do
        read
        if stack.isEmpty then return else passFrom stack (.after true) fuel
      match ← token with
      | none => failNext .endInValue
      | some 'n' => scalar do advance; word ['u', 'l', 'l']
      | some 't' => scalar do advance; word ['r', 'u', 'e']
      | some 'f' => scalar do advance; word ['a', 'l', 's', 'e']
      | some '-' => scalar do advance; discard (numberRest false true)
      | some '"' => scalar do advance; discard (stringRest false)
      | some '[' => do advance; passFrom (false :: stack) (.after false) fuel
      | some '\x7b' => do advance; passFrom (true :: stack) (.after false) fuel
      | some c =>
        if c.isDigit then scalar (discard (numberRest false false)) else failNext .expectedValue
    | .after element =>
      match stack with
      | [] => return
      | isObject :: outer =>
        let entry : Reader Unit := do
          if isObject then
            match ← token with
            | some '"' => do advance; discard (stringRest false); colon
            | some _ => failNext .keyNotString
            | none => failNext .endInObject
          passFrom stack .before fuel
        match ← token with
        | none => failNext (if isObject then .endInObject else .endInList)
        | some c =>
          if c == ',' && element then do
            advance
            entry
          else if c == (if isObject then '\x7d' else ']') then do
            advance
            if outer.isEmpty then return else passFrom outer (.after true) fuel
          else if element then failNext (if isObject then .expectedObjectEnd else .expectedListEnd)
          else entry

/-- Passes over one value; each step reads a character or turns to the next value. -/
def pass : Reader Unit := do
  passFrom [] .before (2 * (← get).rest.length + 2)

/-- How deep containers may be nested. -/
def depthLimit : Nat := 127

/-- The whole text, read as one value with blanks around it. -/
def readAll {α : Type} (read : Reader α) (text : String) : Except Fault α :=
  let whole : Reader α := do
    let a ← read
    match ← token with
    | none => return a
    | some _ => failNext .trailingCharacters
  match whole.run { rest := text.toList } with
  | .ok (a, _) => .ok a
  | .error failure => .error failure.fault

/-- Any JSON value. -/
def parse (text : String) : Except Fault Json := readAll (value depthLimit) text

end ClientGen.Json
