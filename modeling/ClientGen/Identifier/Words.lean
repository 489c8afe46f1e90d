import ClientGen.Unicode.Alphanumeric
import ClientGen.Unicode.Case

/-!
# Words of an identifier

Names of a document become identifiers by joining their words. Underscore, hyphen, space and dot
separate words; Pascal case gives each word a capital, camel case gives all but the first
character of the result one. Inside a word capitals are kept.
-/

namespace ClientGen.Identifier

def isWordSeparator (c : Char) : Bool := c == '_' || c == '-' || c == ' ' || c == '.'

/-- The first character in its capital form. -/
def capitalize : List Char → List Char
  | [] => []
  | c :: rest => Unicode.upper c ++ rest

/-- The first character in its small form. -/
def uncapitalize : List Char → List Char
  | [] => []
  | c :: rest => Unicode.lower c ++ rest

def pascal (cs : List Char) : List Char := (cs.splitOnP isWordSeparator).flatMap capitalize

def camel (cs : List Char) : List Char := uncapitalize (pascal cs)

/-- Square brackets go; whatever is no letter, digit or word separator becomes an underscore. -/
def legal (cs : List Char) : List Char :=
  (cs.filter fun c => !(c == '[' || c == ']')).map fun c =>
    if Unicode.isAlphanumeric c || isWordSeparator c then c else '_'

/-- Small letters, with a capital at the start (`start`) and after each separator. -/
def capitalizeEach (separators : List Char) (start : Bool) : List Char → List Char
  | [] => []
  | c :: rest =>
    if separators.contains c then c :: capitalizeEach separators true rest
    else
      (if start then Unicode.upper c else Unicode.lower c) ++ capitalizeEach separators false rest

def pascalCase (s : String) : String := .ofList (pascal s.toList)

def camelCase (s : String) : String := .ofList (camel s.toList)

def initialCaps (s : String) : String := .ofList (capitalize s.toList)

def legalize (s : String) : String := .ofList (legal s.toList)

def capitalizeFully (separators : List Char) (s : String) : String :=
  .ofList (capitalizeEach separators true s.toList)

def lowercase (s : String) : String := .ofList (Unicode.lowerText s.toList)

def uppercase (s : String) : String := .ofList (Unicode.upperText s.toList)

end ClientGen.Identifier
