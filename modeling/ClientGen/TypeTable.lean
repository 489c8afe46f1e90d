import ClientGen.SchemaType
import ClientGen.Json.Value
import ClientGen.Text

/-!
# Types of a target

A target has a table from tokens of a document to its own types; the engine has one for tokens
that the target does not mention, and a token in neither table stands for itself. Lists and maps
are written by filling a pattern. Resolved types are sorted into scalar classes.
-/

namespace ClientGen

/-- Types of tokens that a target does not mention. -/
def engineTypes : List (String × String) :=
  [("array", "List"), ("map", "Map"), ("List", "List"), ("boolean", "Boolean"),
   ("string", "String"), ("int", "Integer"), ("float", "Float"), ("number", "BigDecimal"),
   ("DateTime", "Date"), ("long", "Long"), ("short", "Short"), ("char", "String"),
   ("double", "Double"), ("object", "Object"), ("integer", "Integer"), ("ByteArray", "byte[]"),
   ("binary", "byte[]")]

/-- How a target writes lists and maps: patterns with one pair of braces for the element. -/
structure ContainerSyntax where
  list : String
  map : String
deriving DecidableEq, Repr

namespace ContainerSyntax

def hole : List Char := ['\x7b', '\x7d']

def fill (pattern element : String) : String :=
  .ofList (Text.replaceFirst hole element.toList pattern.toList)

def listOf (s : ContainerSyntax) (element : String) : String := fill s.list element

def mapOf (s : ContainerSyntax) (value : String) : String := fill s.map value

end ContainerSyntax

structure TypeTable where
  containers : ContainerSyntax
  mapping : Entries String := []
deriving DecidableEq, Repr

namespace TypeTable

def insert (t : TypeTable) (token type : String) : TypeTable :=
  { t with mapping := t.mapping.put token type }

/-- The type of a token: the target's table first, then the engine's. -/
def lookup (t : TypeTable) (token : String) : Option String :=
  (t.mapping.get? token).or (Entries.get? engineTypes token)

def isKnown (t : TypeTable) (token : String) : Bool := (t.lookup token).isSome

def resolveToken (t : TypeTable) (token : String) : String := (t.lookup token).getD token

/-- The type in the target; a model that no table mentions is named by `modelName`. -/
def resolve (t : TypeTable) (modelName : String → String) : SchemaType → String
  | .primitive token => t.resolveToken token
  | .model name => (t.lookup name).getD (modelName name)
  | .list element => t.containers.listOf (t.resolve modelName element)
  | .map value => t.containers.mapOf (t.resolve modelName value)

end TypeTable

inductive ScalarClass
  | integer
  | long
  | float
  | double
  | boolean
  | string
  | other
deriving DecidableEq, Repr

def ScalarClass.isNumeric : ScalarClass → Bool
  | .integer | .long | .float | .double => true
  | _ => false

/-- The types of a target by scalar class, those built into its language, and those that hold raw
data. -/
structure TypeClasses where
  integer : List String := []
  long : List String := []
  float : List String := []
  double : List String := []
  boolean : List String := []
  string : List String := []
  primitives : List String := []
  raw : List String := []
deriving DecidableEq, Repr

namespace TypeClasses

/-- The first class that lists the type. -/
def classify (c : TypeClasses) (type : String) : ScalarClass :=
  if c.integer.contains type then .integer
  else if c.long.contains type then .long
  else if c.float.contains type then .float
  else if c.double.contains type then .double
  else if c.boolean.contains type then .boolean
  else if c.string.contains type then .string
  else .other

def isPrimitive (c : TypeClasses) (type : String) : Bool := c.primitives.contains type

def isRaw (c : TypeClasses) (type : String) : Bool := c.raw.contains type

end TypeClasses

end ClientGen
