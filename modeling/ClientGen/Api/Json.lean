import ClientGen.Api.Basic
import ClientGen.Json.Value

/-!
# The API as JSON

Templates and snapshots see the API as JSON objects whose keys have a fixed order. Flags and
summaries are keys of the object they belong to; a model does not show the places of its raw
properties.
-/

namespace ClientGen

def TypeFlags.fields (f : TypeFlags) : List (String × Json) :=
  [("isInteger", .bool f.isInteger), ("isLong", .bool f.isLong), ("isFloat", .bool f.isFloat),
   ("isDouble", .bool f.isDouble), ("isBoolean", .bool f.isBoolean),
   ("isString", .bool f.isString), ("isNumeric", .bool f.isNumeric),
   ("isPrimitiveType", .bool f.isPrimitiveType)]

def EnumCase.toJson (c : EnumCase) : Json :=
  .obj [("caseName", .str c.caseName), ("rawValue", .str c.rawValue)]

def Property.toJson (p : Property) : Json :=
  .obj <|
    [("name", .str p.name), ("baseName", .str p.baseName), ("schemaType", .str p.schemaType),
     ("dataType", .str p.dataType), ("baseType", .str p.baseType),
     ("dataTypeWithEnum", .str p.dataTypeWithEnum), ("required", .bool p.required),
     ("defaultValue", .str p.defaultValue), ("schemaDefault", .ofText? p.schemaDefault),
     ("description", .ofText? p.description), ("isEnum", .bool p.isEnum),
     ("allowableValues", .strings p.allowableValues),
     ("enumCases", .arr (p.enumCases.map EnumCase.toJson)), ("container", .str p.container.name),
     ("isRaw", .bool p.isRaw), ("hasMoreRaw", .bool p.hasMoreRaw), ("isId", .bool p.isId)] ++
    p.flags.fields

def Model.toJson (m : Model) : Json :=
  .obj
    [("name", .str m.name), ("displayName", .str m.displayName), ("className", .str m.className),
     ("description", .ofText? m.description),
     ("properties", .arr (m.properties.map Property.toJson)),
     ("id", .ofText? m.id), ("required", .strings m.required), ("imports", .strings m.imports),
     ("hasProperties", .bool m.hasProperties), ("isEnumType", .bool m.isEnumType),
     ("hasEnumProperties", .bool m.hasEnumProperties),
     ("enumCases", .arr (m.enumCases.map EnumCase.toJson))]

def Parameter.toJson (p : Parameter) : Json :=
  .obj
    [("baseName", .str p.baseName), ("paramName", .str p.paramName),
     ("location", .str p.location.name), ("dataType", .str p.dataType),
     ("required", .bool p.required), ("description", .ofText? p.description)]

def Response.toJson (r : Response) : Json :=
  .obj
    [("code", .str r.code), ("dataType", .ofText? r.dataType), ("baseType", .ofText? r.baseType),
     ("container", .str r.container.name), ("isPrimitive", .bool r.isPrimitive),
     ("isListContainer", .bool r.isListContainer), ("description", .ofText? r.description)]

def Example.toJson (e : Example) : Json :=
  .obj [("contentType", .str e.contentType), ("example", .str e.text)]

def Operation.toJson (o : Operation) : Json :=
  .obj
    [("httpMethod", .str o.method.name), ("rawPath", .str o.rawPath), ("path", .ofText? o.path),
     ("operationId", .str o.operationId), ("nickname", .str o.nickname),
     ("summary", .ofText? o.summary), ("notes", .ofText? o.notes),
     ("parameters", .arr (o.parameters.map Parameter.toJson)),
     ("responses", .arr (o.responses.map Response.toJson)),
     ("successfulResponse", (o.successfulResponse.map Response.toJson).getD .null),
     ("examples", .arr (o.examples.map Example.toJson))]

def GroupSummary.fields (s : GroupSummary) : List (String × Json) :=
  [("hasCreate", .bool s.hasCreate), ("hasUpsert", .bool s.hasUpsert), ("hasFind", .bool s.hasFind),
   ("hasFindOne", .bool s.hasFindOne), ("hasFindById", .bool s.hasFindById),
   ("hasCount", .bool s.hasCount), ("hasDeleteById", .bool s.hasDeleteById),
   ("countReturnType", .str s.countReturnType), ("deleteReturnType", .str s.deleteReturnType)]

def OperationGroup.toJson (g : OperationGroup) : Json :=
  .obj <|
    [("baseName", .str g.baseName), ("className", .str g.className),
     ("resourcePath", .ofText? g.resourcePath),
     ("operations", .arr (g.operations.map Operation.toJson))] ++ g.summary.fields

def ApiMeta.toJson (m : ApiMeta) : Json :=
  .obj
    [("title", .str m.title), ("version", .str m.version), ("description", .ofText? m.description),
     ("host", .ofText? m.host), ("basePath", .ofText? m.basePath)]

def Api.toJson (a : Api) : Json :=
  .obj
    [("meta", a.header.toJson), ("models", .arr (a.models.map Model.toJson)),
     ("groups", .arr (a.groups.map OperationGroup.toJson))]

end ClientGen
