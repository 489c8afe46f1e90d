import ClientGen.SchemaType

/-!
# Models

A model is built from one definition: a named type with properties, each with its type in the
target, its default literal and its place in the document.
-/

namespace ClientGen

/-- What the resolved type of a property is; a boolean counts as numeric too. -/
structure TypeFlags where
  isInteger : Bool := false
  isLong : Bool := false
  isFloat : Bool := false
  isDouble : Bool := false
  isBoolean : Bool := false
  isString : Bool := false
  isNumeric : Bool := false
  isPrimitiveType : Bool := false
deriving DecidableEq, Repr, Inhabited

/-- A case of an enumeration: its name and the value it stands for. -/
structure EnumCase where
  caseName : String
  rawValue : String
deriving DecidableEq, Repr

structure Property where
  name : String
  /-- The name in the document. -/
  baseName : String
  /-- The token of the declared type. -/
  schemaType : String
  dataType : String
  /-- The type inside all containers. -/
  baseType : String
  /-- The type to declare: that of the enumeration, if the property is one. -/
  dataTypeWithEnum : String
  required : Bool := false
  defaultValue : String := ""
  schemaDefault : Option String := none
  description : Option String := none
  isEnum : Bool := false
  allowableValues : List String := []
  enumCases : List EnumCase := []
  container : Container := .scalar
  isRaw : Bool := false
  /-- A raw property that is not the last one of its model. -/
  hasMoreRaw : Bool := false
  isId : Bool := false
  flags : TypeFlags := {}
deriving DecidableEq, Repr

/-- An optional property of a single value, named and typed alike in document and target. -/
def Property.of (name dataType : String) : Property where
  name := name
  baseName := name
  schemaType := dataType
  dataType := dataType
  baseType := dataType
  dataTypeWithEnum := dataType

structure Model where
  name : String
  displayName : String
  className : String
  description : Option String := none
  properties : List Property := []
  /-- The name of the property that identifies a value, found or not. -/
  id : Option String := none
  required : List String := []
  imports : List String := []
  hasProperties : Bool := false
  isEnumType : Bool := false
  hasEnumProperties : Bool := false
  enumCases : List EnumCase := []
  /-- The places of the raw properties. -/
  rawIndices : List Nat := []
deriving DecidableEq, Repr

namespace Model

def of (name className : String) : Model where
  name := name
  displayName := name
  className := className

/-- The place of the first property with the name of the id; an empty name finds none. -/
def idIndex? (m : Model) : Option Nat :=
  match m.id with
  | none => none
  | some id => if id.isEmpty then none else m.properties.findIdx? (·.name == id)

def idProperty? (m : Model) : Option Property := m.idIndex?.bind (m.properties[·]?)

def hasId (m : Model) : Bool := m.idProperty?.isSome

/-- The id property changed by `f`, if there is one. -/
def mapId (m : Model) (f : Property → Property) : Model :=
  match m.idIndex? with
  | some i => { m with properties := m.properties.modify i f }
  | none => m

def rawProperties (m : Model) : List Property := m.rawIndices.filterMap (m.properties[·]?)

def hasRawProperties (m : Model) : Bool := !m.rawIndices.isEmpty

def refreshFlags (m : Model) : Model :=
  { m with
    hasProperties := !m.properties.isEmpty
    hasEnumProperties := m.properties.any (·.isEnum) }

/-- A sorted set of names with one more. -/
def addName (names : List String) (name : String) : List String :=
  match names with
  | [] => [name]
  | n :: rest =>
    if name < n then name :: n :: rest else if name == n then n :: rest
    else n :: addName rest name

def nameSet (names : List String) : List String := names.foldl addName []

theorem mem_addName {names : List String} {name x : String} :
    x ∈ addName names name ↔ x ∈ names ∨ x = name := by
  induction names with
  | nil => simp [addName]
  | cons n rest ih => grind [addName]

end Model

end ClientGen
