import ClientGen.Profile.Basic
import ClientGen.Profile.SwiftTables

/-!
# The profile `LoopBackSwift`

Clients for LoopBack services, with models that may be kept in Realm and an optional data API over
all models, which takes operation paths relative to their resource.
-/

namespace ClientGen.LoopBack

def defaultProject : String := "LoopBackSwiftClient"

def projectOption : String := "projectName"

def realmOption : String := "useRealm"

def dataOption : String := "generateDataAPI"

def options : List ConfigOption :=
  [.text projectOption "Project name in Xcode" defaultProject,
   .text "projectLicense" "License text of the project" "The MIT License (MIT)",
   .text "primaryKeyFieldName" "Name of the identity property of every model" "id",
   .flag realmOption "Generate Realm-backed models" false,
   .flag dataOption "Generate a data API over all models" false]

/-- Built-in types may name models; the names that the runtime gives to objects may not. -/
def names : ReservedWords :=
  (ReservedWords.ofList Swift.keywords).extend ["realm", "hash", "description"]

def types : TypeTable where
  containers := Swift.containers
  mapping :=
    [("array", "Array"), ("List", "Array"), ("map", "Dictionary"), ("date", "NSDate"),
     ("Date", "NSDate"), ("DateTime", "NSDate"), ("boolean", "Bool"), ("string", "String"),
     ("char", "Character"), ("short", "Int"), ("int", "Int"), ("int64", "Int64"), ("long", "Int"),
     ("integer", "Int64"), ("Integer", "Int"), ("float", "Float"), ("number", "Int64"),
     ("double", "Double"), ("object", "AnyObject"), ("file", "NSURL"), ("binary", "[UInt8]")]
/-- A wide integer is an integer, but not built in. -/
def classes : TypeClasses where
  integer := ["Int", "Int64"]
  float := ["Float"]
  double := ["Double"]
  boolean := ["Bool"]
  string := ["String"]
  primitives := ["Int", "Float", "Double", "Bool", "Void", "String", "Character", "AnyObject"]
  raw := ["NSData"]

/-- A template and the file of the same name that it renders to. -/
def sourceFile (folder name : String) : ManifestEntry := ⟨name ++ ".tera", folder, name ++ ".swift"⟩

def manifest (project : String) (layout : Layout) : Manifest :=
  let util := sourceFile layout.utilFolder
  .ofList <|
    ["AuthenticationMethod", "APIKey", "RequestAuthenticator"].map (sourceFile layout.authFolder) ++
      [⟨"BaseAPI.tera", layout.utilFolder, "API.swift"⟩] ++
      ["APIError", "RxAlamofireObjectMapping", "Primitives+URLEscapedString", "NSData+JSON",
        "Int64+_ObjectiveCBridgeable", "ISO8601ExtendedDateTransform"].map util ++
      [⟨"Podspec.tera", "", project ++ ".podspec"⟩, ⟨"LICENSE.tera", "", "LICENSE"⟩,
        util "NSDate+toString"]

def realmFiles (layout : Layout) : List ManifestEntry :=
  ["RealmListTransform", "RealmOptionalTransform", "RealmWrappers", "RealmInt64ListTransform"].map
    (sourceFile layout.persistenceFolder)

def dataFiles (layout : Layout) : List ManifestEntry :=
  ["UnsupportedOperation", "UnsupportedModelType"].map (sourceFile layout.utilFolder)

def spec : ProfileSpec where
  types := types
  classes := classes
  names := names
  literals := { Swift.literals with list := "[:]" }
  path := ⟨"\\(", ")"⟩
  layout := { source := defaultProject }
  manifest := manifest defaultProject { source := defaultProject }
  modelTemplates := [⟨"model.tera", ".swift"⟩]
  apiTemplates := [⟨"api.tera", ".swift"⟩]
  options := options
  returnHints := Swift.hints

/-- With Realm, objects are stored as data and its helper files are added. -/
def withRealm (s : ProfileSpec) : ProfileSpec :=
  { s with
    manifest := s.manifest.addAll (realmFiles s.layout)
    types := s.types.insert "object" "NSData" }

/-- With a data API, one file sees all models and operation paths are relative. -/
def withDataApi (s : ProfileSpec) : ProfileSpec :=
  { s with
    topLevel := s.topLevel ++ [⟨"DataAPI.tera", s.layout.source, "DataAPI.swift"⟩]
    manifest := s.manifest.addAll (dataFiles s.layout)
    stripResourcePath := true }

def configure (config : Config) : Target :=
  let settings := Settings.resolve options config
  let project := (settings.string? projectOption).getD defaultProject
  let layout : Layout := { source := project }
  let base := { spec with layout := layout, manifest := manifest project layout }
  let base := if settings.flag realmOption then withRealm base else base
  let base := if settings.flag dataOption then withDataApi base else base
  ⟨base, settings⟩

/-- The part of an id after its last dot. -/
def lastSegment (cs : List Char) : List Char := (cs.reverse.takeWhile (· != '.')).reverse

/-- A wide integer is declared as a built-in type; with Realm the id is always required. -/
def finishProperty (t : Target) (p : Property) : Property :=
  let p :=
    if p.baseType == "Int64" then { p with flags := { p.flags with isPrimitiveType := true } }
    else p
  if p.isId && t.settings.flag realmOption then { p with required := true } else p

def profile : Profile where
  name := "LoopBackSwift"
  help := "Generates a client library for the LoopBackSwift framework."
  spec := spec
  configure := configure
  operationName := fun _ raw => operationName (.ofList (lastSegment raw.toList))
  idType := fun _ type => if type == "Double" then "Int" else type
  finishProperty := finishProperty

end ClientGen.LoopBack
