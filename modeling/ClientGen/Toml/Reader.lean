import ClientGen.Toml.Table

/-!
# Reading TOML text

Lines define values by bare, quoted or dotted keys, or open a table or an element of a list of
tables. Reading a text gives its root table as a JSON object, or nothing if any line is wrong.
-/

namespace ClientGen.Toml

abbrev Reader (α : Type) := StateT (List Char) Option α

def peek : Reader (Option Char) := do return (← get).head?

def skip : Reader Unit := modify (·.drop 1)

def spaces : Reader Unit := modify (·.dropWhile fun c => c == ' ' || c == '\t')

def expect (c : Char) : Reader Unit := do
  if (← peek) == some c then skip else failure

/-- Takes a text that comes next, if it does. -/
def take? (text : List Char) : Reader Bool := do
  match text.isPrefixOf? (← get) with
  | some rest => do
    set rest
    return true
  | none => return false

def isControl (c : Char) : Bool := (c.toNat < 0x20 && c != '\t') || c.toNat == 0x7f

/-- A line break of one or two characters. -/
def lineBreak? : Reader Bool := do
  if ← take? ['\n'] then return true else take? ['\r', '\n']

/-- Blanks and a comment up to the end of the line. -/
def lineRest : Reader Unit := do
  spaces
  if (← peek) == some '#' then
    let comment := (← get).takeWhile fun c => c != '\n' && c != '\r'
    if comment.any isControl then failure
    modify (·.drop comment.length)

/-- Blanks, comments and line breaks. -/
def blankLines : Nat → Reader Unit
  | 0 => return
  | fuel + 1 => do
    lineRest
    if ← lineBreak? then blankLines fuel

def blanks : Reader Unit := do blankLines ((← get).length + 1)

/-- A character by its number of exactly `count` hexadecimal digits. -/
def escaped (count : Nat) : Reader Char := do
  let ds := ((← get).take count).filterMap anyDigit
  let n := number 16 ds
  if ds.length != count || 0x10ffff < n || (0xd800 ≤ n && n ≤ 0xdfff) then failure
  modify (·.drop count)
  return Char.ofNat n

/-- The character of an escape, after the backslash. -/
def escape : Reader Char := do
  let c ← peek
  skip
  match c with
  | some 'b' => return Char.ofNat 8
  | some 't' => return '\t'
  | some 'n' => return '\n'
  | some 'f' => return Char.ofNat 12
  | some 'r' => return '\r'
  | some 'e' => return Char.ofNat 27
  | some '"' => return '"'
  | some '\\' => return '\\'
  | some 'x' => escaped 2
  | some 'u' => escaped 4
  | some 'U' => escaped 8
  | _ => failure

/-- The rest of a string on one line, after `read` in reverse. -/
def lineString (quote : Char) (escapes : Bool) (read : List Char) : Nat → Reader String
  | 0 => failure
  | fuel + 1 => do
    match ← peek with
    | none => failure
    | some c =>
      skip
      if c == quote then return .ofList read.reverse
      else if c == '\\' && escapes then lineString quote escapes ((← escape) :: read) fuel
      else if isControl c then failure
      else lineString quote escapes (c :: read) fuel

/-- The text after blanks and line breaks. -/
def afterBreaks : List Char → List Char
  | '\r' :: '\n' :: rest => afterBreaks rest
  | c :: rest => if c == ' ' || c == '\t' || c == '\n' then afterBreaks rest else c :: rest
  | [] => []

/-- Whether a backslash ends the line; the blank text after it is skipped. -/
def joinedLine? : Reader Bool := do
  let cs ← get
  spaces
  if ← lineBreak? then
    modify afterBreaks
    return true
  else
    set cs
    return false

/-- The rest of a string of several lines, after `read` in reverse. -/
def blockString (quote : Char) (escapes : Bool) (read : List Char) : Nat → Reader String
  | 0 => failure
  | fuel + 1 => do
    let closing := [quote, quote, quote]
    if closing.isPrefixOf (← get) then
      -- of up to five quotes the last three close the string
      let count := ((← get).takeWhile (· == quote)).length
      if 5 < count then failure
      modify (·.drop count)
      return .ofList (List.replicate (count - 3) quote ++ read).reverse
    match ← peek with
    | none => failure
    | some c =>
      if ← take? ['\r', '\n'] then blockString quote escapes ('\n' :: '\r' :: read) fuel
      else if ← take? ['\n'] then blockString quote escapes ('\n' :: read) fuel
      else
        skip
        if c == '\\' && escapes then
          if ← joinedLine? then blockString quote escapes read fuel
          else blockString quote escapes ((← escape) :: read) fuel
        else if isControl c then failure
        else blockString quote escapes (c :: read) fuel

/-- A quoted string on one line. -/
def quoted : Reader String := do
  let fuel := (← get).length + 1
  match ← peek with
  | some '"' => do skip; lineString '"' true [] fuel
  | some '\x27' => do skip; lineString '\x27' false [] fuel
  | _ => failure

/-- A quoted string on one or several lines. -/
def anyQuoted : Reader String := do
  let fuel := (← get).length + 1
  if ← take? ['"', '"', '"'] then
    discard lineBreak?
    blockString '"' true [] fuel
  else if ← take? ['\x27', '\x27', '\x27'] then
    discard lineBreak?
    blockString '\x27' false [] fuel
  else quoted

def isBareChar (c : Char) : Bool := c.isAlphanum || c == '-' || c == '_'

def simpleKey : Reader String := do
  let bare := (← get).takeWhile isBareChar
  if bare.isEmpty then quoted
  else do
    modify (·.drop bare.length)
    return .ofList bare

/-- The keys between dots, after `read` in reverse. -/
def dottedKey (read : List String) : Nat → Reader (List String)
  | 0 => failure
  | fuel + 1 => do
    let k ← simpleKey
    spaces
    if ← take? ['.'] then do
      spaces
      dottedKey (k :: read) fuel
    else return (k :: read).reverse

/-- The count of dots in a key stays below this. -/
def dotLimit : Nat := 80

def key : Reader (List String) := do
  let names ← dottedKey [] ((← get).length + 1)
  if names.length ≤ dotLimit then return names else failure

def isScalarChar (c : Char) : Bool :=
  c.isAlphanum || c == '_' || c == '+' || c == '-' || c == '.' || c == ':'

/-- The characters of a scalar; a blank may stand between a date and a time. -/
def scalarText : Reader (List Char) := do
  let first := (← get).takeWhile isScalarChar
  modify (·.drop first.length)
  match date first, ← get with
  | some (_, []), ' ' :: c :: rest =>
    if c.isDigit then do
      let second := (c :: rest).takeWhile isScalarChar
      modify (·.drop (second.length + 1))
      return first ++ ' ' :: second
    else return first
  | _, _ => return first

/-- The elements of a list up to its bracket, after `read` in reverse. -/
def elements (item : Reader Node) (read : List Node) : Nat → Reader (List Node)
  | 0 => failure
  | fuel + 1 => do
    blanks
    if ← take? [']'] then return read.reverse
    let v ← item
    blanks
    if ← take? [','] then elements item (v :: read) fuel
    else do
      expect ']'
      return (v :: read).reverse

/-- The entries of an inline table up to its brace. -/
def inlineEntries (item : Reader Node) (table : Table) : Nat → Reader Table
  | 0 => failure
  | fuel + 1 => do
    blanks
    if ← take? ['\x7d'] then return table
    let k ← key
    blanks
    expect '='
    blanks
    let v ← item
    let table ← define v true k table
    blanks
    if ← take? [','] then inlineEntries item table fuel
    else do
      expect '\x7d'
      return table

/-- A value whose elements are read by `inner`; without it neither a list nor a table may open. -/
def valueWith (inner : Option (Reader Node)) : Reader Node := do
  let fuel := (← get).length + 1
  match ← peek with
  | some '"' | some '\x27' => return .value (some (.str (← anyQuoted)))
  | some '[' => do
    skip
    return .list (← elements (← inner) [] fuel)
  | some '\x7b' => do
    skip
    return .inline (← inlineEntries (← inner) [] fuel)
  | _ => do
    let v ← scalar (← scalarText)
    return .value v

/-- A value with lists and tables nested to a depth. -/
def value : Nat → Reader Node
  | 0 => valueWith none
  | depth + 1 => valueWith (some (value depth))

def depthLimit : Nat := 80

/-- One line in the table at `path`: the root table and the path for the next line. -/
def line (path : List String) (root : Table) : Reader (List String × Table) := do
  spaces
  match ← peek with
  | none | some '#' | some '\n' | some '\r' => return (path, root)
  | some '[' => do
    let element ← take? ['[', '[']
    if !element then skip
    spaces
    let k ← key
    expect ']'
    if element then expect ']'
    let last ← k.getLast?
    let root ← changeAt (if element then openElement last else openTable last) k.dropLast root
    return (k, root)
  | some _ => do
    let k ← key
    expect '='
    spaces
    let v ← value depthLimit
    let root ← changeAt (define v true k) path root
    return (path, root)

/-- The lines of a text up to its end. -/
def lines (path : List String) (root : Table) : Nat → Reader Table
  | 0 => failure
  | fuel + 1 => do
    let (path, root) ← line path root
    lineRest
    if ← lineBreak? then lines path root fuel
    else if (← peek).isNone then return root
    else failure

/-- The root table of a text with the values of its keys; a mark of byte order may come first. -/
def parse (text : String) : Option (List (String × Json)) := do
  let cs := text.toList
  let cs := if cs.head? == some '\ufeff' then cs.drop 1 else cs
  let (root, _) ← (lines [] [] (cs.length + 1)).run cs
  allValues (sorted root)

end ClientGen.Toml
