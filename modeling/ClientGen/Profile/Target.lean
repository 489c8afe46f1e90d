import ClientGen.Identifier.EnumCase
import ClientGen.Layout
import ClientGen.Manifest
import ClientGen.PathTemplate
import ClientGen.Settings
import ClientGen.TypeTable

/-!
# Targets

The tables of a profile: types, reserved words, literals, folders, templates and options. A target
is a copy of them for one run, patched for the settings of that run.
-/

namespace ClientGen

/-- How the target writes default values. -/
structure DefaultLiterals where
  null : String
  zero : String
  boolean : String
  string : String
  list : String
  map : String
  /-- A case of an enumeration, with places for its type and its raw value. -/
  enumPattern : String
deriving DecidableEq, Repr

namespace DefaultLiterals

def typePlace : String := "\x7btype\x7d"

def rawPlace : String := "\x7braw\x7d"

/-- The case of an enumeration: the type is filled in first, then the raw value. -/
def enumCase (l : DefaultLiterals) (typeName raw : String) : String :=
  Text.replaceAll rawPlace raw (Text.replaceAll typePlace typeName l.enumPattern)

end DefaultLiterals

/-- A template for one file per model or group; `extension` follows the name of the class. -/
structure TemplateBinding where
  template : String
  extension : String
deriving DecidableEq, Repr

/-- What counting and deleting return when no response says so. -/
structure ReturnHints where
  count : String
  delete : String
deriving DecidableEq, Repr

structure ProfileSpec where
  types : TypeTable
  classes : TypeClasses
  names : ReservedWords
  literals : DefaultLiterals
  path : PathSyntax
  layout : Layout
  manifest : Manifest
  modelTemplates : List TemplateBinding
  apiTemplates : List TemplateBinding
  /-- Files that see every model and group. -/
  topLevel : List ManifestEntry := []
  options : List ConfigOption
  /-- Operation paths lose the resource path of their group. -/
  stripResourcePath : Bool := false
  returnHints : ReturnHints

/-- The type of a text in the target. -/
def ProfileSpec.stringType (s : ProfileSpec) : String := s.types.resolveToken "string"

structure Target where
  spec : ProfileSpec
  settings : Settings

end ClientGen
