import ClientGen.Json.Printer
import ClientGen.SchemaType
import ClientGen.Text

/-!
# Schemas

A schema declares a type by a reference, by a `type` with its `format`, or by the kind of its
elements; it may list allowed values, a default and named properties.
-/

namespace ClientGen

/-- What a map admits besides its named properties: anything or nothing, or values of a schema. -/
inductive ValueRule (σ : Type)
  | allowed (yes : Bool)
  | schema (s : σ)

structure Schema where
  kind : Option String := none
  format : Option String := none
  reference : Option String := none
  title : Option String := none
  description : Option String := none
  items : Option Schema := none
  additional : Option (ValueRule Schema) := none
  properties : List (String × Schema) := []
  required : List String := []
  allowed : List Json := []
  default : Option Json := none
deriving Inhabited

namespace Schema

/-- The definition that a reference names. -/
def referenced (reference : String) : String :=
  (Text.dropStart? "#/definitions/" reference).getD reference

def refName (s : Schema) : Option String := s.reference.map referenced

/-- The declared type. A list without elements holds objects; an object that admits further
values is a map. -/
def type (s : Schema) : SchemaType :=
  match s with
  | { reference := some r, .. } => .model (referenced r)
  | { kind := some "array", items := some items, .. } => .list items.type
  | { kind := some "array", items := none, .. } => .list (.primitive "object")
  | { kind := some "object", additional, .. } | { kind := none, additional, .. } =>
    match additional with
    | some (.schema values) => .map values.type
    | some (.allowed true) => .map (.primitive "object")
    | _ => .primitive "object"
  | { kind, format, .. } => .primitive (primitiveToken kind format)
termination_by structural s

/-- The allowed values as a reader of the document sees them. -/
def allowedTexts (s : Schema) : List String := s.allowed.map Json.text

def isEnum (s : Schema) : Bool := !s.allowed.isEmpty

def defaultText (s : Schema) : Option String := s.default.map Json.text

def isRequired (s : Schema) (property : String) : Bool := s.required.contains property

end Schema

end ClientGen
