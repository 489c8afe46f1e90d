import ClientGen.Document.Operation

/-!
# Operations of an API

An operation of the generated client: the method it is called by, its parameters and responses in
the types of the target, and the examples attached to it. Operations with one resource form a
group.
-/

namespace ClientGen

/-- The part of a request that carries a parameter. -/
inductive ParameterLocation
  | path
  | query
  | header
  | body
  | formData
deriving DecidableEq, Repr

namespace ParameterLocation

/-- An unknown place counts as the query. -/
def ofPlace : String → ParameterLocation
  | "path" => .path
  | "header" => .header
  | "body" => .body
  | "formData" => .formData
  | _ => .query

def name : ParameterLocation → String
  | .path => "path"
  | .query => "query"
  | .header => "header"
  | .body => "body"
  | .formData => "formData"

end ParameterLocation

structure Parameter where
  baseName : String
  paramName : String
  location : ParameterLocation
  dataType : String
  required : Bool
  description : Option String
deriving DecidableEq, Repr

structure Response where
  code : String
  /-- The type of the body; none without a body. -/
  dataType : Option String := none
  baseType : Option String := none
  container : Container := .scalar
  isPrimitive : Bool := true
  isListContainer : Bool := false
  description : Option String := none
deriving DecidableEq, Repr

namespace Response

def of (code : String) : Response where
  code := code

/-- With a body that is no primitive. -/
def withBody (r : Response) (dataType : String) : Response :=
  { r with dataType := some dataType, baseType := some dataType, isPrimitive := false }

/-- The response of an operation that declares nothing better: a text. -/
def generic (stringType : String) : Response := { of "" with dataType := some stringType }

/-- Stands for any status. -/
def isWildcard (r : Response) : Bool := r.code == "default" || r.code == "0"

def isSuccessCode (code : String) : Bool := code.toList.head? == some '2'

def isSuccess (r : Response) : Bool := isSuccessCode r.code

end Response

structure Example where
  contentType : String
  text : String
deriving DecidableEq, Repr

structure Operation where
  method : HttpMethod
  /-- The path in the document. -/
  rawPath : String
  /-- The path in the syntax of the target; none if the resource path of the group is all of it. -/
  path : Option String
  operationId : String
  /-- The operation id in the document. -/
  nickname : String
  summary : Option String := none
  notes : Option String := none
  parameters : List Parameter := []
  responses : List Response := []
  successfulResponse : Option Response := none
  examples : List Example := []
deriving DecidableEq, Repr

/-- Which of the usual operations of a data model a group has, and what two of them return. -/
structure GroupSummary where
  hasCreate : Bool := false
  hasUpsert : Bool := false
  hasFind : Bool := false
  hasFindOne : Bool := false
  hasFindById : Bool := false
  hasCount : Bool := false
  hasDeleteById : Bool := false
  countReturnType : String := ""
  deleteReturnType : String := ""
deriving DecidableEq, Repr

structure OperationGroup where
  /-- The resource segment; empty when it cannot name the group. -/
  baseName : String
  className : String
  resourcePath : Option String := none
  operations : List Operation := []
  summary : GroupSummary := {}
deriving DecidableEq, Repr

end ClientGen
