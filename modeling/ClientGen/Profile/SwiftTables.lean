import ClientGen.Profile.Target

/-!
# Tables of Swift

Reserved words, types and literals of the Swift language, shared by the profiles that generate it.
-/

namespace ClientGen.Swift

/-- The names of the types that the language defines. -/
def builtinTypes : List String :=
  ["Int", "Int32", "Int64", "Float", "Double", "Bool", "Void", "String", "Character", "AnyObject"]

/-- Words of the language other than the names of its types. -/
def keywords : List String :=
  ["class", "break", "as", "associativity", "deinit", "case", "dynamicType", "convenience", "enum",
   "continue", "false", "dynamic", "extension", "default", "is", "didSet", "func", "do", "nil",
   "final", "import", "else", "self", "get", "init", "fallthrough", "Self", "infix", "internal",
   "for", "super", "inout", "let", "if", "true", "lazy", "operator", "in", "COLUMN", "left",
   "private", "return", "FILE", "mutating", "protocol", "switch", "FUNCTION", "none", "public",
   "where", "LINE", "nonmutating", "static", "while", "optional", "struct", "override", "subscript",
   "postfix", "typealias", "precedence", "var", "prefix", "Protocol", "required", "right", "set",
   "Type", "unowned", "weak"]

def reservedWords : List String := builtinTypes ++ keywords

def names : ReservedWords := .ofList reservedWords

def containers : ContainerSyntax where
  list := "[\x7b\x7d]"
  map := "[String:\x7b\x7d]"

def literals : DefaultLiterals where
  null := "nil"
  zero := "0"
  boolean := "false"
  string := "\"\""
  list := "[]"
  map := "[:]"
  enumPattern := "\x7btype\x7d(rawValue: \"\x7braw\x7d\")!"

def types : TypeTable where
  containers := containers
  mapping :=
    [("array", "Array"), ("List", "Array"), ("map", "Dictionary"), ("date", "NSDate"),
     ("Date", "NSDate"), ("DateTime", "NSDate"), ("boolean", "Bool"), ("string", "String"),
     ("char", "Character"), ("short", "Int"), ("int", "Int32"), ("long", "Int64"),
     ("integer", "Int32"), ("Integer", "Int32"), ("float", "Float"), ("number", "Double"),
     ("double", "Double"), ("object", "AnyObject"), ("file", "NSURL"), ("binary", "NSData"),
     ("ByteArray", "NSData")]

def classes : TypeClasses where
  integer := ["Int", "Int32"]
  long := ["Int64"]
  float := ["Float"]
  double := ["Double"]
  boolean := ["Bool"]
  string := ["String"]
  primitives := builtinTypes
  raw := ["NSData"]

def hints : ReturnHints := ⟨"Int", "Bool"⟩

end ClientGen.Swift
