import ClientGen.Profile.Swift

/-!
# The profile `moya`

Clients built on Moya, derived from `swift`: the supporting files of the base profile make way for
others, the sources move to the root of the project, and every example is kept.
-/

namespace ClientGen.Moya

def spec : ProfileSpec := { Swift.spec with path := ⟨"\\(", ".URLEscapedString)"⟩ }

def sourceFiles (folder : String) : List ManifestEntry :=
  ⟨"Swift+URLEscapedString.tera", folder, "String+URLEscapedString.swift"⟩ ::
    ["ParameterEncoding+encode", "Parameters", "JsonSerializable", "JsonDeserializers", "Utils"].map
      (Swift.sourceFile folder)

/-- The files that do not fit Moya, by the names that the base profile gives them. -/
def droppedFiles (source project : String) : List ManifestEntry :=
  [⟨"AlamofireImplementations.tera", source, "AlamofireImplementations.swift"⟩,
   ⟨"APIs.tera", source, "APIs.swift"⟩,
   ⟨"Models.tera", source, "Models.swift"⟩,
   ⟨"Extensions.tera", source, "Extensions.swift"⟩,
   ⟨"APIHelper.tera", source, "APIHelper.swift"⟩,
   ⟨"Cartfile.tera", "", "Cartfile"⟩,
   ⟨"Podspec.tera", "", project ++ ".podspec"⟩]

def configure (config : Config) : Target :=
  let base := Swift.configure spec config
  let project := (base.settings.string? Swift.projectOption).getD ""
  let dropped := droppedFiles base.spec.layout.source project
  { base with
    spec := { base.spec with
      layout := { source := project }
      manifest := (base.spec.manifest.removeAll dropped).addAll (sourceFiles project) } }

def profile : Profile where
  name := "moya"
  help := "Generates a client library for the Moya framework."
  spec := spec
  configure := configure
  operationName := fun _ raw => Identifier.initialCaps (operationName raw)
  normalizePath := fun t => t.spec.path.normalize id
  keepsExample := fun _ _ => true

end ClientGen.Moya
