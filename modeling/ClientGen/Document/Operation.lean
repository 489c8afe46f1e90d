import ClientGen.Document.Schema

/-!
# Declared operations

A path item declares an operation for each of seven methods and parameters that they share. The
order of the methods below is the order in which operations are visited.
-/

namespace ClientGen

inductive HttpMethod
  | get
  | put
  | post
  | delete
  | options
  | head
  | patch
deriving DecidableEq, Repr

namespace HttpMethod

def all : List HttpMethod := [.get, .put, .post, .delete, .options, .head, .patch]

def name : HttpMethod → String
  | .get => "GET"
  | .put => "PUT"
  | .post => "POST"
  | .delete => "DELETE"
  | .options => "OPTIONS"
  | .head => "HEAD"
  | .patch => "PATCH"

/-- The method of a name in any letter case of ASCII. -/
def ofName? (s : String) : Option HttpMethod :=
  all.find? fun m => s.toList.map Char.toUpper == m.name.toList

/-- Shown for a name that is no method. -/
def unknownMessage (s : String) : String := "unknown HTTP method '" ++ s ++ "'"

end HttpMethod

structure ParameterDecl where
  name : String := ""
  place : String := ""
  required : Bool := false
  description : Option String := none
  kind : Option String := none
  format : Option String := none
  items : Option Schema := none
  schema : Option Schema := none
deriving Inhabited

/-- The declared type: that of the schema of a body; a list without elements holds strings. -/
def ParameterDecl.type (p : ParameterDecl) : SchemaType :=
  match p.schema, p.kind with
  | some schema, _ => schema.type
  | none, some "array" => .list ((p.items.map Schema.type).getD (.primitive "string"))
  | none, kind => .primitive (primitiveToken kind p.format)

structure ResponseDecl where
  description : Option String := none
  schema : Option Schema := none
  /-- Examples keyed by content type. -/
  examples : Entries Json := []
deriving Inhabited

structure OperationDecl where
  id : Option String := none
  tags : List String := []
  summary : Option String := none
  description : Option String := none
  parameters : List ParameterDecl := []
  /-- Responses keyed by status code. -/
  responses : Entries ResponseDecl := []
deriving Inhabited

structure PathItem where
  get : Option OperationDecl := none
  put : Option OperationDecl := none
  post : Option OperationDecl := none
  delete : Option OperationDecl := none
  options : Option OperationDecl := none
  head : Option OperationDecl := none
  patch : Option OperationDecl := none
  parameters : List ParameterDecl := []
deriving Inhabited

namespace PathItem

def operation? (item : PathItem) : HttpMethod → Option OperationDecl
  | .get => item.get
  | .put => item.put
  | .post => item.post
  | .delete => item.delete
  | .options => item.options
  | .head => item.head
  | .patch => item.patch

/-- The declared operations in the order of the methods. -/
def operations (item : PathItem) : List (HttpMethod × OperationDecl) :=
  HttpMethod.all.filterMap fun m => (item.operation? m).map (m, ·)

end PathItem

/-- Two declarations of one parameter: the same name at the same place. -/
def ParameterDecl.sameKey (p q : ParameterDecl) : Bool := p.name == q.name && p.place == q.place

/-- The shared parameters that the operation does not declare itself, then its own. -/
def OperationDecl.mergedParameters (o : OperationDecl) (item : PathItem) : List ParameterDecl :=
  (item.parameters.filter fun p => !o.parameters.any (·.sameKey p)) ++ o.parameters

end ClientGen
