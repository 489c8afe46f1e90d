import ClientGen.Json.Cursor
import ClientGen.Json.Printer
import ClientGen.Unicode.Printable

/-!
# Faults of JSON text

What can be wrong with a text that is read as a value of a given form. A fault of syntax or type
has a place from the start; a fault of a whole record gets its place when the record ends.
-/

namespace ClientGen.Json

/-- What stood where something else was expected. -/
inductive Found
  | null
  | boolean (b : Bool)
  | integer (n : Int)
  | double (d : Double)
  | string (s : String)
  | sequence
  | map

inductive Cause
  | endInValue
  | endInObject
  | endInList
  | endInString
  | expectedValue
  | expectedColon
  | expectedObjectEnd
  | expectedListEnd
  | expectedWord
  | keyNotString
  | trailingComma
  | trailingCharacters
  | invalidNumber
  | numberOutOfRange
  | invalidEscape
  | unfinishedEscape
  | loneSurrogate
  | controlCharacter
  | tooDeep
  | invalidType (found : Found) (expected : String)
  | invalidLength (length : Nat) (expected : String)
  | missingField (name : String)
  | duplicateField (name : String)
  | noAlternative (name : String)

/-- A character of a string shown inside a message. -/
def shownChar (c : Char) : List Char :=
  if c == '"' then ['\\', '"']
  else if c == '\\' then ['\\', '\\']
  else if c == '\n' then ['\\', 'n']
  else if c == '\r' then ['\\', 'r']
  else if c == '\t' then ['\\', 't']
  else if c.toNat == 0 then ['\\', '0']
  else if Unicode.isHidden c then
    ['\\', 'u', '\x7b'] ++ Nat.toDigits 16 c.toNat ++ ['\x7d']
  else [c]

def shown (s : String) : String := .ofList ('"' :: (s.toList.flatMap shownChar ++ ['"']))

def Found.text : Found → String
  | .null => "null"
  | .boolean b => "boolean `" ++ (if b then "true" else "false") ++ "`"
  | .integer n => "integer `" ++ toString n ++ "`"
  | .double d => "floating point `" ++ doubleText d ++ "`"
  | .string s => "string " ++ shown s
  | .sequence => "sequence"
  | .map => "map"

def Cause.text : Cause → String
  | .endInValue => "EOF while parsing a value"
  | .endInObject => "EOF while parsing an object"
  | .endInList => "EOF while parsing a list"
  | .endInString => "EOF while parsing a string"
  | .expectedValue => "expected value"
  | .expectedColon => "expected `:`"
  | .expectedObjectEnd => "expected `,` or `\x7d`"
  | .expectedListEnd => "expected `,` or `]`"
  | .expectedWord => "expected ident"
  | .keyNotString => "key must be a string"
  | .trailingComma => "trailing comma"
  | .trailingCharacters => "trailing characters"
  | .invalidNumber => "invalid number"
  | .numberOutOfRange => "number out of range"
  | .invalidEscape => "invalid escape"
  | .unfinishedEscape => "unexpected end of hex escape"
  | .loneSurrogate => "lone leading surrogate in hex escape"
  | .controlCharacter => "control character (\\u0000-\\u001F) found while parsing a string"
  | .tooDeep => "recursion limit exceeded"
  | .invalidType found expected => "invalid type: " ++ found.text ++ ", expected " ++ expected
  | .invalidLength length expected =>
    "invalid length " ++ toString length ++ ", expected " ++ expected
  | .missingField name => "missing field `" ++ name ++ "`"
  | .duplicateField name => "duplicate field `" ++ name ++ "`"
  | .noAlternative name => "data did not match any variant of untagged enum " ++ name

structure Fault where
  cause : Cause
  place : Place

def Fault.text (f : Fault) : String :=
  f.cause.text ++ " at line " ++ toString f.place.line ++ " column " ++ toString f.place.column

/-- A fault on its way out of the reader: with its place, or with the cursor from which the
enclosing record finds one. -/
inductive Halt
  | placed (fault : Fault)
  | unplaced (cause : Cause) (cursor : Cursor)

/-- Gives a fault that has none its place. -/
def Halt.close (find : Cursor → Place) : Halt → Halt
  | .placed fault => .placed fault
  | .unplaced cause cursor => .placed ⟨cause, find cursor⟩

def Halt.fault : Halt → Fault
  | .placed fault => fault
  | .unplaced cause cursor => ⟨cause, cursor.place⟩

end ClientGen.Json
