import ClientGen.Profile.Naming

/-!
# Profiles

A profile is a set of tables and a hook for each decision of a run that a target may take in its own
way. A hook that is not given follows the engine's rule.
-/

namespace ClientGen

structure Profile where
  name : String
  help : String
  spec : ProfileSpec
  /-- The tables patched for the given options. -/
  configure : Config → Target := fun config => ⟨spec, .resolve spec.options config⟩
  modelName : Target → String → String := Target.modelName
  varName : Target → String → String := Target.varName
  paramName : Target → String → String := varName
  apiName : Target → String → AnonymousNames → String × AnonymousNames := fun _ => ClientGen.apiName
  /-- The method for a declared id, which is neither blank nor reserved. -/
  operationName : Target → String → String := fun _ => ClientGen.operationName
  normalizePath : Target → String → String := fun t => t.spec.path.normalize (paramName t)
  resolveType : Target → SchemaType → String := fun t => t.spec.types.resolve (modelName t)
  defaultValue : Target → Property → String := Target.defaultValue
  /-- The type of a property that identifies its model. -/
  idType : Target → String → String := fun _ type => type
  /-- Adjusts a property once its flags are known, before enumerations and defaults. -/
  finishProperty : Target → Property → Property := fun _ p => p
  /-- Adjusts a model at the end of the model phase. -/
  finishModel : Target → Model → Model := fun _ m => m
  /-- Adjusts a group with operations at the end of the group phase. -/
  finishGroup : Target → OperationGroup → OperationGroup := fun _ g => g
  keepsExample : Target → Example → Bool := fun _ e => e.contentType == "application/json"
  normalizeExample : Target → String → String := fun _ => oneLine

/-- What profiles generate: a library that calls the described API. -/
def Profile.kind : String := "client"

/-- The profiles to choose from, in order of registration. -/
structure Registry where
  profiles : List Profile := []

namespace Registry

/-- A profile of the same name makes way. -/
def register (r : Registry) (p : Profile) : Registry :=
  ⟨r.profiles.filter (·.name != p.name) ++ [p]⟩

def names (r : Registry) : List String := r.profiles.map (·.name)

def get (r : Registry) (name : String) : Except Failure Profile :=
  match r.profiles.find? (·.name == name) with
  | some p => .ok p
  | none => .error (.unknownProfile name r.names)

end Registry

end ClientGen
