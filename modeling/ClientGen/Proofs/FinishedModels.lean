import Mathlib.Data.List.Basic
import ClientGen.Proofs.Profiles
import ClientGen.Proofs.Runs

/-!
# Models of a finished run

A property is built from its declaration, then placed in its model (it may be the id, and other raw
properties may follow it), and then finished. Each of these steps reads what the steps before it
left. Here the outcome is told from the declaration alone, so that no later proof opens a phase.
-/

namespace ClientGen.Proofs

variable {p : Profile} {t : Target} {d : Document} {c : Config}

section

variable (p t)

/-- The setting that names the id of every model. -/
def primaryKey : Option String := t.settings.string? primaryKeyOption

def finishedModel (name : String) (s : Schema) : Model :=
  ((Model.build p t name s).identify p t (primaryKey t)).finish p t

def asId (q : Property) : Property := { q with isId := true, dataType := p.idType t q.dataType }

/-- A built property in its place: it may be the id, and raw properties may follow. -/
def placed (isId followed : Bool) (q : Property) : Property :=
  let q := if isId then asId p t q else q
  if q.isRaw then { q with hasMoreRaw := followed } else q

/-- A built model that knows its id. -/
def identified (name : String) (s : Schema) : Model :=
  ({ Model.build p t name s with id := primaryKey t } : Model).mapId (asId p t)

/-- A property of a finished run, by the name and the schema that declare it. -/
structure Settled (mandatory : Bool) (declared : String) (s : Schema) (q : Property) : Prop where
  name : q.name = p.varName t declared
  baseName : q.baseName = declared
  container : q.container = s.type.container
  baseType : q.baseType = p.resolveType t s.type.innermost
  dataType : q.dataType =
    if q.isId then p.idType t (p.resolveType t s.type) else p.resolveType t s.type
  isRaw : q.isRaw = t.spec.classes.isRaw (p.resolveType t s.type)
  required : q.required =
    (mandatory || (decide (IsLoopBack p) && q.isId && t.settings.flag LoopBack.realmOption))
  isEnum : q.isEnum = s.isEnum
  allowableValues : q.allowableValues = s.allowedTexts
  schemaDefault : q.schemaDefault = s.defaultText
  enumCases : q.enumCases = if s.isEnum then s.allowedTexts.map .ofRaw else []
  dataTypeWithEnum : q.dataTypeWithEnum =
    if s.isEnum then Identifier.enumTypeName t.spec.names (enumWorkingName declared) declared
    else p.resolveType t s.type
  flags : q.flags =
    { t.spec.classes.flags q.dataType q.baseType with
      isPrimitiveType := t.spec.classes.isPrimitive q.baseType ||
        (decide (IsLoopBack p) && q.baseType == "Int64") }
  defaultValue : q.defaultValue = t.defaultValue q

end

lemma finishedApi_models :
    (finishedApi p t d).models = d.definitions.map fun e => finishedModel p t e.1 e.2 := by
  simp only [finishedApi, Api.embedExamples, Api.settleGroups, Api.finishModels, Api.identify,
    builtApi, List.map_map]
  rfl

/-! ### One property -/

section

variable (p t)

/-- A finished property before its default literal, which all other fields decide. -/
def undefaulted (q : Property) : Property :=
  { q with
    required := q.required ||
      (decide (IsLoopBack p) && q.isId && t.settings.flag LoopBack.realmOption)
    flags := { t.spec.classes.flags q.dataType q.baseType with
      isPrimitiveType := t.spec.classes.isPrimitive q.baseType ||
        (decide (IsLoopBack p) && q.baseType == "Int64") }
    enumCases := if q.isEnum then q.allowableValues.map .ofRaw else q.enumCases
    dataTypeWithEnum :=
      if q.isEnum then Identifier.enumTypeName t.spec.names q.dataTypeWithEnum q.baseName
      else q.dataTypeWithEnum }

end

lemma finish_eq (hp : p ∈ Registry.builtin.profiles) (q : Property) :
    q.finish p t =
      { undefaulted p t q with defaultValue := t.defaultValue (undefaulted p t q) } := by
  unfold Property.finish undefaulted
  simp only [finishProperty_builtin hp, defaultValue_builtin hp, Property.withCases]
  cases henum : q.isEnum
  · simp only [Bool.false_eq_true, if_false]
    rfl
  · simp only [if_true]
    rfl

/-- What the place of a property decides, and what it leaves alone. -/
lemma placed_eq (isId followed : Bool) (q : Property) :
    placed p t isId followed q =
      { q with
        isId := isId || q.isId
        dataType := if isId then p.idType t q.dataType else q.dataType
        hasMoreRaw := if q.isRaw then followed else q.hasMoreRaw } := by
  unfold placed
  by_cases hraw : q.isRaw = true
  · cases isId <;> simp only [asId, if_pos hraw, Bool.false_eq_true, if_false, if_true] <;> rfl
  · cases isId <;> simp only [asId, if_neg hraw, Bool.false_eq_true, if_false, if_true] <;> rfl

theorem settled_finish (hp : p ∈ Registry.builtin.profiles) (isId followed mandatory : Bool)
    (declared : String) (s : Schema) :
    Settled p t mandatory declared s
      ((placed p t isId followed (.build p t declared s mandatory)).finish p t) := by
  rw [finish_eq hp, placed_eq]
  constructor
  case dataType => cases isId <;> rfl
  case dataTypeWithEnum =>
    -- the working name of an enumeration is read once more, when the enumeration is finished
    simp only [undefaulted, Property.build]
    split <;> rfl
  all_goals rfl

/-! ### All properties of a model -/

lemma getElem?_mapId (m : Model) (f : Property → Property) (i : Nat) :
    (m.mapId f).properties[i]? =
      m.properties[i]?.map fun q => if m.idIndex? = some i then f q else q := by
  unfold Model.mapId
  cases hplace : m.idIndex? with
  | none => simp
  | some place =>
    rw [List.getElem?_modify]
    by_cases hi : place = i <;> simp [hi]

lemma getElem?_markMoreRaw (qs : List Property) (i : Nat) :
    (markMoreRaw qs)[i]? = qs[i]?.map fun q =>
      if q.isRaw then { q with hasMoreRaw := (qs.drop (i + 1)).any (·.isRaw) } else q := by
  induction qs generalizing i with
  | nil => rfl
  | cons q rest ih =>
    cases i with
    | zero => simp [markMoreRaw]
    | succ i => simpa [markMoreRaw] using ih i

/-- The place of the first property with the name of the id, if there is one. -/
def idPlace (p : Profile) (t : Target) (s : Schema) : Option Nat :=
  ({ Model.build p t "" s with id := primaryKey t } : Model).idIndex?

/-- Raw properties are declared after this place. -/
def rawAfter (p : Profile) (t : Target) (s : Schema) (i : Nat) : Bool :=
  (s.properties.drop (i + 1)).any fun e => t.spec.classes.isRaw (p.resolveType t e.2.type)

lemma finishedModel_eq (hp : p ∈ Registry.builtin.profiles) (name : String) (s : Schema) :
    finishedModel p t name s = (identified p t name s).partitionRaw.refreshFlags.finish p t := by
  simp only [finishedModel, Model.identify, finishModel_builtin hp]
  rfl

lemma getElem?_identified (name : String) (s : Schema) (i : Nat) :
    (identified p t name s).properties[i]? = s.properties[i]?.map fun e =>
      if idPlace p t s = some i then asId p t (.build p t e.1 e.2 (s.isRequired e.1))
      else .build p t e.1 e.2 (s.isRequired e.1) := by
  have hbuilt : ({ Model.build p t name s with id := primaryKey t } : Model).properties =
      s.properties.map fun e => .build p t e.1 e.2 (s.isRequired e.1) := rfl
  have hplace : ({ Model.build p t name s with id := primaryKey t } : Model).idIndex? =
      idPlace p t s := rfl
  rw [identified, getElem?_mapId, hbuilt, hplace, List.getElem?_map, Option.map_map]
  rfl

lemma isRaw_identified (name : String) (s : Schema) :
    (identified p t name s).properties.map (·.isRaw) =
      s.properties.map fun e => t.spec.classes.isRaw (p.resolveType t e.2.type) := by
  apply List.ext_getElem?
  intro i
  rw [List.getElem?_map, getElem?_identified, Option.map_map, List.getElem?_map]
  congr 1
  funext e
  rw [Function.comp_apply]
  split <;> rfl

lemma any_drop_congr {α β : Type} {xs : List α} {ys : List β} {f : α → Bool} {g : β → Bool}
    (h : xs.map f = ys.map g) (n : Nat) : (xs.drop n).any f = (ys.drop n).any g := by
  have hdrop := congrArg (fun values => (values.drop n).any id) h
  simpa only [← List.map_drop, List.any_map, Function.id_comp] using hdrop

/-- Every property of a finished model is a declared one, built, placed and finished. -/
theorem getElem?_finishedModel (hp : p ∈ Registry.builtin.profiles) (name : String) (s : Schema)
    (i : Nat) :
    (finishedModel p t name s).properties[i]? = s.properties[i]?.map fun e =>
      (placed p t (idPlace p t s == some i) (rawAfter p t s i)
        (.build p t e.1 e.2 (s.isRequired e.1))).finish p t := by
  have hprops : (finishedModel p t name s).properties =
      (markMoreRaw (identified p t name s).properties).map (.finish p t) := by
    rw [finishedModel_eq hp]
    rfl
  have hafter : ((identified p t name s).properties.drop (i + 1)).any (·.isRaw) =
      rawAfter p t s i := any_drop_congr (isRaw_identified name s) (i + 1)
  rw [hprops, List.getElem?_map, getElem?_markMoreRaw, hafter, getElem?_identified,
    Option.map_map, Option.map_map]
  congr 1
  funext e
  by_cases hi : idPlace p t s = some i
  · simp only [Function.comp_apply, placed, hi, if_true, beq_self_eq_true]
  · simp only [Function.comp_apply, placed, hi, if_false, beq_eq_false_iff_ne.2 hi,
      Bool.false_eq_true]

/-- A property of a finished model is settled by the declaration at its place. -/
theorem settled_of_getElem? (hp : p ∈ Registry.builtin.profiles) {name : String} {s : Schema}
    {i : Nat} {q : Property} (h : (finishedModel p t name s).properties[i]? = some q) :
    ∃ e, s.properties[i]? = some e ∧ Settled p t (s.isRequired e.1) e.1 e.2 q := by
  rw [getElem?_finishedModel hp] at h
  obtain ⟨e, he, rfl⟩ := Option.map_eq_some_iff.1 h
  exact ⟨e, he, settled_finish hp ..⟩

lemma settled_of_mem (hp : p ∈ Registry.builtin.profiles) {name : String} {s : Schema}
    {q : Property} (h : q ∈ (finishedModel p t name s).properties) :
    ∃ e ∈ s.properties, Settled p t (s.isRequired e.1) e.1 e.2 q := by
  obtain ⟨i, hi⟩ := List.mem_iff_getElem?.1 h
  obtain ⟨e, he, hq⟩ := settled_of_getElem? hp hi
  exact ⟨e, List.mem_of_getElem? he, hq⟩

/-- What the declaration of a property decides, it decides for all properties of a model. -/
lemma map_finishedModel (hp : p ∈ Registry.builtin.profiles) (name : String) (s : Schema)
    {β : Type} {f : Property → β} {g : String × Schema → β}
    (h : ∀ e q, Settled p t (s.isRequired e.1) e.1 e.2 q → f q = g e) :
    (finishedModel p t name s).properties.map f = s.properties.map g := by
  apply List.ext_getElem?
  intro i
  rw [List.getElem?_map, List.getElem?_map]
  cases hi : (finishedModel p t name s).properties[i]? with
  | none =>
    rw [getElem?_finishedModel hp, Option.map_eq_none_iff] at hi
    rw [hi]
    rfl
  | some q =>
    obtain ⟨e, he, hq⟩ := settled_of_getElem? hp hi
    rw [he, Option.map_some, Option.map_some, h e q hq]

/-- What the phases after the build phase leave alone, and the name of the id. -/
lemma finishedModel_fields (hp : p ∈ Registry.builtin.profiles) (name : String) (s : Schema) :
    (finishedModel p t name s).name = name ∧
      (finishedModel p t name s).isEnumType = s.isEnumType ∧
      (finishedModel p t name s).id = primaryKey t := by
  rw [finishedModel_eq hp]
  simp only [Model.finish, Model.refreshFlags, Model.partitionRaw, identified, Model.mapId]
  split <;> exact ⟨rfl, rfl, rfl⟩

lemma baseNames_finishedModel (hp : p ∈ Registry.builtin.profiles) (name : String) (s : Schema) :
    (finishedModel p t name s).properties.map (·.baseName) = s.properties.map (·.1) :=
  map_finishedModel hp name s fun _ _ hq => hq.baseName

end ClientGen.Proofs
