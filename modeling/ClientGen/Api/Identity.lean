import ClientGen.Profile.Basic
import ClientGen.Run.Diagnostic

/-!
# Identity and raw data

A setting names the property that identifies the values of every model; the profile may give it
another type. The properties that hold raw data are listed by their places, and each but the last
knows that more follow.
-/

namespace ClientGen

variable (p : Profile) (t : Target)

def modelPhase : String := "model"

def primaryKeyOption : String := "primaryKeyFieldName"

/-- Each raw property learns whether another one follows. -/
def markMoreRaw : List Property → List Property
  | [] => []
  | q :: rest =>
    (if q.isRaw then { q with hasMoreRaw := rest.any (·.isRaw) } else q) :: markMoreRaw rest

/-- The places of the raw properties. -/
def rawPlaces (properties : List Property) : List Nat :=
  properties.zipIdx.filterMap fun (q, i) => if q.isRaw then some i else none

def Model.partitionRaw (m : Model) : Model :=
  { m with properties := markMoreRaw m.properties, rawIndices := rawPlaces m.properties }

def Model.identify (id : Option String) (m : Model) : Model :=
  let m := { m with id }.mapId fun q => { q with isId := true, dataType := p.idType t q.dataType }
  (p.finishModel t m.partitionRaw).refreshFlags

/-- A model that is no enumeration and has no property of the wanted name. -/
def Model.lacksId (id : Option String) (m : Model) : Bool :=
  id.isSome && !m.isEnumType && ({ m with id } : Model).idIndex?.isNone

def Api.identify (api : Api) : Api :=
  { api with models := api.models.map (.identify p t (t.settings.string? primaryKeyOption)) }

def Api.identifyDiagnostics (api : Api) : List Diagnostic :=
  (api.models.filter (·.lacksId (t.settings.string? primaryKeyOption))).map fun m =>
    ⟨.info, modelPhase, "model has no id property", some ("definitions." ++ m.name)⟩

end ClientGen
