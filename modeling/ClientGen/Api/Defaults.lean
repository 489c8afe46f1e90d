import ClientGen.Api.Build

/-!
# Flags, enumerations and default values

Once the identity of a model is settled, each property gets its flags, the profile's adjustment,
the cases and the type of its enumeration, and last the default literal that all of these decide.
-/

namespace ClientGen

variable (p : Profile) (t : Target)

def propertyPhase : String := "property"

/-- Cases and type of an enumeration; any other property stays as it is. -/
def Property.withCases (q : Property) : Property :=
  if q.isEnum then
    { q with
      enumCases := q.allowableValues.map .ofRaw
      dataTypeWithEnum := Identifier.enumTypeName t.spec.names q.dataTypeWithEnum q.baseName }
  else q

def Property.finish (q : Property) : Property :=
  let q := { q with flags := t.spec.classes.flags q.dataType q.baseType }
  let q := (p.finishProperty t q).withCases t
  { q with defaultValue := p.defaultValue t q }

def Model.finish (m : Model) : Model :=
  Model.refreshFlags { m with properties := m.properties.map (.finish p t) }

def Api.finishModels (api : Api) : Api := { api with models := api.models.map (.finish p t) }

end ClientGen
