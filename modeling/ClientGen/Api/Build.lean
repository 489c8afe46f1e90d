import ClientGen.Document.Basic
import ClientGen.Profile.Basic
import ClientGen.Run.Diagnostic

/-!
# From a document to an API

Every definition gives a model and every declared operation an operation; operations are grouped by
the first segment of their path. A run is refused at the first operation whose id cannot name a
method. Types that no table knows and stray braces in a path are reported, not refused.
-/

namespace ClientGen

variable (p : Profile) (t : Target)

def buildPhase : String := "build"

/-- Reports a primitive token that no table of the target knows. -/
def unknownType (type : SchemaType) (location : String) : List Diagnostic :=
  match type.innermost with
  | .primitive token =>
    if t.spec.types.isKnown token then []
    else [⟨.warning, buildPhase, "unknown type '" ++ token ++ "' passed through", some location⟩]
  | _ => []

/-- The working name of the type of an enumeration. -/
def enumWorkingName (propertyName : String) : String :=
  Identifier.initialCaps (Identifier.camelCase (Identifier.legalize propertyName)) ++
    Identifier.enumEnding

def Property.build (name : String) (schema : Schema) (required : Bool) : Property :=
  let type := schema.type
  let dataType := p.resolveType t type
  let baseType := p.resolveType t type.innermost
  let property : Property :=
    { name := p.varName t name
      baseName := name
      schemaType := type.token
      dataType
      baseType
      dataTypeWithEnum := if schema.isEnum then enumWorkingName name else dataType
      required
      schemaDefault := schema.defaultText
      description := schema.description
      isEnum := schema.isEnum
      allowableValues := schema.allowedTexts
      container := type.container
      isRaw := t.spec.classes.isRaw dataType
      flags := t.spec.classes.flags dataType baseType }
  { property with defaultValue := p.defaultValue t property }

def EnumCase.ofRaw (raw : String) : EnumCase := ⟨Identifier.enumCaseName raw, raw⟩

/-- The model that a property refers to, by its definition. -/
def Schema.referencedModel? (s : Schema) : Option String :=
  match s.type.innermost with
  | .model name => some name
  | _ => none

/-- A definition with allowed values but no properties is itself an enumeration. -/
def Schema.isEnumType (s : Schema) : Bool := s.isEnum && s.properties.isEmpty

def Model.build (name : String) (schema : Schema) : Model :=
  Model.refreshFlags
    { name
      displayName := schema.title.getD name
      className := p.modelName t name
      description := schema.description
      properties := schema.properties.map fun (n, s) => .build p t n s (schema.isRequired n)
      required := Model.nameSet schema.required
      imports :=
        Model.nameSet <| schema.properties.filterMap fun (_, s) =>
          s.referencedModel?.map (p.modelName t)
      isEnumType := schema.isEnumType
      enumCases := if schema.isEnumType then schema.allowedTexts.map .ofRaw else [] }

def Model.diagnostics (name : String) (schema : Schema) : List Diagnostic :=
  schema.properties.flatMap fun (n, s) =>
    unknownType t s.type ("definitions." ++ name ++ "." ++ n)

def Parameter.build (decl : ParameterDecl) : Parameter where
  baseName := decl.name
  paramName := p.paramName t decl.name
  location := .ofPlace decl.place
  dataType := p.resolveType t decl.type
  required := decl.required
  description := decl.description

def Response.build (code : String) (decl : ResponseDecl) : Response :=
  match decl.schema with
  | none => { code, description := decl.description }
  | some schema =>
    let type := schema.type
    let baseType := p.resolveType t type.innermost
    { code
      dataType := some (p.resolveType t type)
      baseType := some baseType
      container := type.container
      isPrimitive := t.spec.classes.isPrimitive baseType
      description := decl.description }

/-- The response that examples are taken from: the first success, else the default. -/
def exampleSource? (responses : Entries ResponseDecl) : Option ResponseDecl :=
  ((responses.find? fun r => Response.isSuccessCode r.1).or
    (responses.find? fun r => r.1 == "default")).map (·.2)

/-- A text as it is, any other value in its pretty form. -/
def exampleText : Json → String
  | .str s => s
  | v => v.pretty

def Example.collect (responses : Entries ResponseDecl) : List Example :=
  match exampleSource? responses with
  | some r => r.examples.map fun (contentType, v) => ⟨contentType, exampleText v⟩
  | none => []

/-- Why the id of an operation cannot name a method, if it cannot. -/
def OperationSite.refusal? (site : OperationSite) : Option Failure :=
  let id := site.decl.id.getD ""
  if Unicode.allBlank id then some (.emptyOperationId site.method site.path)
  else if t.spec.names.isReserved id then
    some (.reservedOperationId id site.method site.path)
  else if (p.operationName t id).isEmpty then some (.emptyOperationId site.method site.path)
  else none

/-- The operation of a site whose id is not refused. -/
def Operation.build (site : OperationSite) : Operation :=
  let id := site.decl.id.getD ""
  { method := site.method
    rawPath := site.path
    path := some (p.normalizePath t site.path)
    operationId := p.operationName t id
    nickname := id
    summary := site.decl.summary
    notes := site.decl.description
    parameters := (site.decl.mergedParameters site.item).map (.build p t)
    responses := site.decl.responses.map fun (code, r) => .build p t code r
    examples := Example.collect site.decl.responses }

def Operation.diagnostics (site : OperationSite) : List Diagnostic :=
  (if hasStrayBrace site.path then
    [⟨.warning, buildPhase, "malformed path parameter left as literal text",
      some ("paths." ++ site.path)⟩]
  else []) ++
    (site.decl.mergedParameters site.item).flatMap fun q =>
      unknownType t q.type ("paths." ++ site.path ++ "." ++ q.name)

/-- The sites before the first refused one, and its refusal. -/
def acceptedSites : List OperationSite → List OperationSite × Option Failure
  | [] => ([], none)
  | site :: rest =>
    match site.refusal? p t with
    | some failure => ([], some failure)
    | none =>
      let (sites, failure) := acceptedSites rest
      (site :: sites, failure)

/-- The first segment of a path, after all its leading slashes. -/
def resourceSegment (path : String) : String :=
  .ofList ((path.toList.dropWhile (· == '/')).takeWhile (· != '/'))

/-- The segment that an operation is grouped by. -/
def Operation.segment (o : Operation) : String := resourceSegment o.rawPath

/-- Neither the root nor a placeholder names a group. -/
def isNameable (segment : String) : Bool :=
  !segment.isEmpty && segment.toList.head? != some '\x7b'

/-- Groups by their segments, in order of the first appearance of these, and the numbers handed out
to groups without a name. -/
structure GroupTable where
  groups : Entries OperationGroup := []
  anonymous : AnonymousNames := {}

/-- A group without operations; a segment that names nothing takes the next number. -/
def openGroup (segment : String) (anonymous : AnonymousNames) : OperationGroup × AnonymousNames :=
  let baseName := if isNameable segment then segment else ""
  let (className, anonymous) := p.apiName t baseName anonymous
  ({ baseName, className }, anonymous)

/-- The group of a segment, opened if there is none yet. -/
def GroupTable.group (table : GroupTable) (segment : String) : OperationGroup × AnonymousNames :=
  match table.groups.get? segment with
  | some group => (group, table.anonymous)
  | none => openGroup p t segment table.anonymous

/-- One more operation, last in the group of its segment. -/
def GroupTable.add (table : GroupTable) (o : Operation) : GroupTable :=
  let (group, anonymous) := table.group p t o.segment
  { groups := table.groups.put o.segment { group with operations := group.operations ++ [o] }
    anonymous }

/-- Operations put into their groups one after the other. -/
def groupOperations (operations : List Operation) (anonymous : AnonymousNames) : GroupTable :=
  operations.foldl (.add p t) { anonymous }

/-- What building a document gives: numbers are handed out even when the document is refused. -/
structure BuildOutcome where
  result : Except Failure (Api × List Diagnostic)
  anonymous : AnonymousNames

def Document.header (d : Document) : ApiMeta where
  title := d.info.title
  version := d.info.version
  description := d.info.description
  host := d.host
  basePath := d.basePath

def Api.build (d : Document) (anonymous : AnonymousNames) : BuildOutcome :=
  let (sites, failure) := acceptedSites p t d.sites
  let table := groupOperations p t (sites.map (.build p t)) anonymous
  match failure with
  | some failure => ⟨.error failure, table.anonymous⟩
  | none =>
    let api : Api :=
      { header := d.header
        models := d.definitions.map fun (n, s) => .build p t n s
        groups := table.groups.map (·.2) }
    let diagnostics :=
      d.definitions.flatMap (fun (n, s) => Model.diagnostics t n s) ++
        sites.flatMap (Operation.diagnostics t)
    ⟨.ok (api, diagnostics), table.anonymous⟩

end ClientGen
