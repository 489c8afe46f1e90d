import ClientGen.Profile.Basic
import ClientGen.Profile.SwiftTables

/-!
# The profile `swift`

Clients built on Alamofire. The sources stand in a folder of the project, and the supporting files
are named for the project that the settings give.
-/

namespace ClientGen.Swift

def projectOption : String := "projectName"

def defaultProject : String := "SwaggerClient"

def options : List ConfigOption :=
  [.text projectOption "Project name in Xcode" defaultProject,
   .text "responseAs" "Optionally use libraries to manage response (PromiseKit)" "",
   .flag "unwrapRequired" "Treat 'required' properties as non-optional" false,
   .text "podSource" "Source information used for Podspec" "",
   .text "podVersion" "Version used for Podspec" "",
   .text "podAuthors" "Authors used for Podspec" "",
   .text "podSocialMediaURL" "Social Media URL used for Podspec" "",
   .text "podDocsetURL" "Docset URL used for Podspec" "",
   .text "podLicense" "License used for Podspec" "",
   .text "podHomepage" "Homepage used for Podspec" "",
   .text "podSummary" "Summary used for Podspec" "",
   .text "podDescription" "Description used for Podspec" "",
   .text "podScreenshots" "Screenshots used for Podspec" "",
   .text "podDocumentationURL" "Documentation URL used for Podspec" ""]

def sourceFolder (project : String) : String := project ++ "/Classes/Swaggers"

def podspec (project : String) : ManifestEntry := ⟨"Podspec.tera", "", project ++ ".podspec"⟩

def cartfile : ManifestEntry := ⟨"Cartfile.tera", "", "Cartfile"⟩

/-- A template and the file of the same name that it renders to. -/
def sourceFile (folder name : String) : ManifestEntry := ⟨name ++ ".tera", folder, name ++ ".swift"⟩

def sourceFiles (folder : String) : List ManifestEntry :=
  ["APIHelper", "AlamofireImplementations", "Extensions", "Models", "APIs"].map (sourceFile folder)

def manifest (project folder : String) : Manifest :=
  .ofList (podspec project :: cartfile :: sourceFiles folder)

def spec : ProfileSpec where
  types := types
  classes := classes
  names := names
  literals := literals
  path := ⟨"\x7b", "\x7d"⟩
  layout := { source := sourceFolder defaultProject }
  manifest := manifest defaultProject (sourceFolder defaultProject)
  modelTemplates := [⟨"model.tera", ".swift"⟩]
  apiTemplates := [⟨"api.tera", ".swift"⟩]
  options := options
  returnHints := hints

/-- The project that the settings name. -/
def project (settings : Settings) : String :=
  (settings.string? projectOption).getD defaultProject

/-- Layout and manifest of a derived set of tables, moved to the project of the settings. -/
def configure (spec : ProfileSpec) (config : Config) : Target :=
  let settings := Settings.resolve spec.options config
  let project := project settings
  let source := sourceFolder project
  { spec := { spec with layout := { source }, manifest := manifest project source }
    settings }

def profile : Profile where
  name := "swift"
  help := "Generates a swift client library."
  spec := spec
  configure := configure spec

end ClientGen.Swift
