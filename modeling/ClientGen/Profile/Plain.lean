import ClientGen.Profile.Basic
import ClientGen.Profile.SwiftTables

/-!
# The profile `plain`

A small set of tables with no hook of its own: the engine's rules from end to end.
-/

namespace ClientGen.Plain

def types : TypeTable where
  containers := Swift.containers
  mapping :=
    [("integer", "Int"), ("int", "Int"), ("long", "Int64"), ("float", "Float"),
     ("double", "Double"), ("number", "Double"), ("boolean", "Bool"), ("string", "String"),
     ("date", "Date"), ("DateTime", "Date"), ("binary", "Data"), ("ByteArray", "Data"),
     ("file", "URL"), ("object", "Any")]

def classes : TypeClasses where
  integer := ["Int"]
  long := ["Int64"]
  float := ["Float"]
  double := ["Double"]
  boolean := ["Bool"]
  string := ["String"]
  primitives := ["Int", "Int64", "Float", "Double", "Bool", "String"]
  raw := ["Data"]

def sourceFolder : String := "Sources"

def spec : ProfileSpec where
  types := types
  classes := classes
  names := .ofList ["class", "return", "self", "type", "func"]
  literals := { Swift.literals with list := "[:]" }
  path := ⟨"\\(", ")"⟩
  layout := { source := sourceFolder }
  manifest :=
    .ofList [⟨"Helper.swift", sourceFolder, "Helper.swift"⟩, ⟨"README.md", "", "README.md"⟩]
  modelTemplates := [⟨"model.swift", ".swift"⟩]
  apiTemplates := [⟨"api.swift", ".swift"⟩]
  topLevel := [⟨"index.swift", sourceFolder, "Index.swift"⟩]
  options :=
    [.text "projectName" "Name of the generated project" "PlainClient",
     .text "primaryKeyFieldName" "Identity property name" "id"]
  returnHints := Swift.hints

def profile : Profile where
  name := "plain"
  help := "Engine defaults only"
  spec := spec

end ClientGen.Plain
