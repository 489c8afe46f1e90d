/-!
# Types of a document

A document speaks of primitive tokens of its own vocabulary (`string`, `long`, `DateTime`), of
models by the name of their definition, and of lists and maps of these.
-/

namespace ClientGen

/-- The shape of a type: a single value, a list, or a map keyed by strings. -/
inductive Container
  | scalar
  | list
  | map
deriving DecidableEq, Repr

namespace Container

def name : Container → String
  | .scalar => "none"
  | .list => "list"
  | .map => "map"

/-- The token by which a document calls a container. -/
def token? : Container → Option String
  | .scalar => none
  | .list => some "array"
  | .map => some "map"

end Container

inductive SchemaType
  | primitive (token : String)
  | model (name : String)
  | list (element : SchemaType)
  | map (value : SchemaType)
deriving DecidableEq, Repr

namespace SchemaType

def token : SchemaType → String
  | .primitive token => token
  | .model name => name
  | .list _ => "array"
  | .map _ => "map"

def container : SchemaType → Container
  | .list _ => .list
  | .map _ => .map
  | _ => .scalar

/-- The type inside all containers. -/
def innermost : SchemaType → SchemaType
  | .list element => element.innermost
  | .map value => value.innermost
  | t => t

def isModel : SchemaType → Bool
  | .model _ => true
  | _ => false

/-- The containers of a type, outermost first. -/
def containers : SchemaType → List Container
  | .list element => .list :: element.containers
  | .map value => .map :: value.containers
  | _ => []

theorem innermost_innermost (t : SchemaType) : t.innermost.innermost = t.innermost := by
  induction t with
  | primitive | model => rfl
  | list _ ih | map _ ih => exact ih

end SchemaType

/-- The token for a `type` and a `format`; a type nobody knows stands for itself. -/
def primitiveToken (kind format : Option String) : String :=
  match kind, format with
  | some "integer", some "int64" => "long"
  | some "integer", _ => "integer"
  | some "number", some "float" => "float"
  | some "number", some "double" => "double"
  | some "number", _ => "number"
  | some "string", some "date" => "date"
  | some "string", some "date-time" => "DateTime"
  | some "string", some "binary" => "binary"
  | some "string", some "byte" => "ByteArray"
  | some other, _ => other
  | none, _ => "object"

end ClientGen
