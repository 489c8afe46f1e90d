import ClientGen.Document.Basic
import ClientGen.Document.Span
import ClientGen.Json.Record

/-!
# Reading documents

The fields of each record of a document, in their order. `depth` is the number of containers that
may still be opened where the record stands; the records of a document nest only through schemas.
-/

namespace ClientGen

open Json

namespace Document

def textField {σ : Type} (name : String) (store : σ → Option String → σ) : FieldReader σ :=
  .of name .optional (optional string) store

/-- What stands one container deeper, where that is allowed. -/
def deeper {α : Type} (inside : Nat → α) : Nat → Option α
  | 0 => none
  | depth + 1 => some (inside depth)

/-- What a map admits: the value is read once as a whole, and then as a flag or as a schema. -/
def readRule (depth : Nat) (schema : Reader Schema) : Reader (ValueRule Schema) := fun start =>
  match value depth start with
  | .error failure => .error failure
  | .ok (_, after) =>
    match boolean start, schema start with
    | .ok (yes, _), _ => .ok (.allowed yes, after)
    | _, .ok (s, _) => .ok (.schema s, after)
    | _, _ => .error (.unplaced (.noAlternative "AdditionalProperties") after)

/-- The fields of a schema; `inner` reads a schema just below it, `property` one inside a map. -/
def schemaFields (depth : Nat) (inner : Reader Schema) (property : Option (Reader Schema)) :
    List (FieldReader Schema) :=
  [textField "type" fun s v => { s with kind := v },
   textField "format" fun s v => { s with format := v },
   textField "$ref" fun s v => { s with reference := v },
   textField "title" fun s v => { s with title := v },
   textField "description" fun s v => { s with description := v },
   .of "items" .optional (optional inner) fun s v => { s with items := v },
   .of "additionalProperties" .optional (optional (readRule depth inner)) fun s v =>
     { s with additional := v },
   .of "properties" .defaulted (mapOf property) fun s v => { s with properties := v },
   .of "required" .defaulted (listOf (deeper (fun _ => string) depth)) fun s v =>
     { s with required := v },
   .of "enum" .defaulted (listOf (deeper value depth)) fun s v => { s with allowed := v },
   .of "default" .optional (optional (value depth)) fun s v => { s with default := v }]

def readSchema : Nat → Reader Schema
  | 0 => record "Schema" {} none
  | 1 => record "Schema" {} (some (schemaFields 0 (readSchema 0) none))
  | depth + 2 =>
    record "Schema" {}
      (some (schemaFields (depth + 1) (readSchema (depth + 1)) (some (readSchema depth))))

def parameterFields (depth : Nat) : List (FieldReader ParameterDecl) :=
  [.of "name" .required string fun p v => { p with name := v },
   .of "in" .required string fun p v => { p with place := v },
   .of "required" .defaulted boolean fun p v => { p with required := v },
   textField "description" fun p v => { p with description := v },
   textField "type" fun p v => { p with kind := v },
   textField "format" fun p v => { p with format := v },
   .of "items" .optional (optional (readSchema depth)) fun p v => { p with items := v },
   .of "schema" .optional (optional (readSchema depth)) fun p v => { p with schema := v }]

def readParameter (depth : Nat) : Reader ParameterDecl :=
  record "ParameterDef" {} (deeper parameterFields depth)

def responseFields (depth : Nat) : List (FieldReader ResponseDecl) :=
  [textField "description" fun r v => { r with description := v },
   .of "schema" .optional (optional (readSchema depth)) fun r v => { r with schema := v },
   .of "examples" .defaulted (mapOf (deeper value depth)) fun r v => { r with examples := v }]

def readResponse (depth : Nat) : Reader ResponseDecl :=
  record "ResponseDef" {} (deeper responseFields depth)

def operationFields (depth : Nat) : List (FieldReader OperationDecl) :=
  [textField "operationId" fun o v => { o with id := v },
   .of "tags" .defaulted (listOf (deeper (fun _ => string) depth)) fun o v =>
     { o with tags := v },
   textField "summary" fun o v => { o with summary := v },
   textField "description" fun o v => { o with description := v },
   .of "parameters" .defaulted (listOf (deeper readParameter depth)) fun o v =>
     { o with parameters := v },
   .of "responses" .defaulted (mapOf (deeper readResponse depth)) fun o v =>
     { o with responses := v }]

def readOperation (depth : Nat) : Reader OperationDecl :=
  record "OperationDef" {} (deeper operationFields depth)

def pathFields (depth : Nat) : List (FieldReader PathItem) :=
  let operation (name : String) (store : PathItem → Option OperationDecl → PathItem) :=
    FieldReader.of name .optional (optional (readOperation depth)) store
  [operation "get" fun p v => { p with get := v },
   operation "put" fun p v => { p with put := v },
   operation "post" fun p v => { p with post := v },
   operation "delete" fun p v => { p with delete := v },
   operation "options" fun p v => { p with options := v },
   operation "head" fun p v => { p with head := v },
   operation "patch" fun p v => { p with patch := v },
   .of "parameters" .defaulted (listOf (deeper readParameter depth)) fun p v =>
     { p with parameters := v }]

def readPathItem (depth : Nat) : Reader PathItem :=
  record "PathItem" {} (deeper pathFields depth)

def infoFields : List (FieldReader Info) :=
  [.of "title" .defaulted string fun i v => { i with title := v },
   .of "version" .defaulted string fun i v => { i with version := v },
   textField "description" fun i v => { i with description := v }]

def readInfo (depth : Nat) : Reader Info :=
  record "Info" {} (deeper (fun _ => infoFields) depth)

def documentFields (depth : Nat) : List (FieldReader Document) :=
  [textField "swagger" fun d v => { d with swagger := v },
   .of "info" .defaulted (readInfo depth) fun d v => { d with info := v },
   textField "host" fun d v => { d with host := v },
   textField "basePath" fun d v => { d with basePath := v },
   .of "definitions" .defaulted (mapOf (deeper readSchema depth)) fun d v =>
     { d with definitions := v },
   .of "paths" .defaulted (mapOf (deeper readPathItem depth)) fun d v => { d with paths := v }]

def read (depth : Nat) : Reader Document :=
  record "Document" {} (deeper documentFields depth)

/-- A text that is no description: the fault and the span it is shown at. -/
structure ParseError where
  fault : Fault
  span : Option Span

def ParseError.message : String := "failed to parse API description"

def ParseError.code : String := "quill::document::parse"

def ParseError.of (text : String) (fault : Fault) : ParseError :=
  ⟨fault, Span.ofPlace text fault.place.line fault.place.column⟩

/-- A text read by one of the readers above, from the outside. -/
def parseWith {α : Type} (read : Nat → Reader α) (text : String) : Except ParseError α :=
  (readAll (read depthLimit) text).mapError (.of text)

def parse (text : String) : Except ParseError Document := parseWith read text

end Document

end ClientGen
