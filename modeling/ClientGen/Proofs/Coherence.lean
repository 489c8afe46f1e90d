import ClientGen.Proofs.FinishedModels

/-!
# Coherence of finished properties

Types, requiredness and names of a property change until the last phase for models is over. Its
flags, cases and default literal are decided by the fields that it has in the end: no literal or
flag is left from an earlier type, and none from a time when the property was optional.
-/

namespace ClientGen.Proofs

variable {p : Profile} {t : Target} {d : Document} {c : Config}

/-! ### Default literals -/

/-- The literals that the fields of a property allow as its default. -/
inductive DefaultOf (t : Target) (q : Property) : String → Prop
  | optional (h : q.required = false) : DefaultOf t q t.spec.literals.null
  | declared {raw : String} (h : q.required = true) (he : q.isEnum = true)
    (hr : q.schemaDefault = some raw) :
    DefaultOf t q (t.spec.literals.enumCase q.dataTypeWithEnum raw)
  | first {raw : String} {rest : List String} (h : q.required = true) (he : q.isEnum = true)
    (hd : q.schemaDefault = none) (hr : q.allowableValues = raw :: rest) :
    DefaultOf t q (t.spec.literals.enumCase q.dataTypeWithEnum raw)
  | list (h : q.required = true) (he : q.isEnum = false) (hc : q.container = .list) :
    DefaultOf t q t.spec.literals.list
  | map (h : q.required = true) (he : q.isEnum = false) (hc : q.container = .map) :
    DefaultOf t q t.spec.literals.map
  | zero (h : q.required = true) (he : q.isEnum = false) (hc : q.container = .scalar)
    (hk : (t.spec.classes.classify q.dataType).isNumeric = true) :
    DefaultOf t q t.spec.literals.zero
  | boolean (h : q.required = true) (he : q.isEnum = false) (hc : q.container = .scalar)
    (hk : t.spec.classes.classify q.dataType = .boolean) :
    DefaultOf t q t.spec.literals.boolean
  | string (h : q.required = true) (he : q.isEnum = false) (hc : q.container = .scalar)
    (hk : t.spec.classes.classify q.dataType = .string) :
    DefaultOf t q t.spec.literals.string
  | other (h : q.required = true) (he : q.isEnum = false) (hc : q.container = .scalar)
    (hk : t.spec.classes.classify q.dataType = .other) :
    DefaultOf t q t.spec.literals.null

lemma defaultOf_defaultValue {q : Property} (henum : q.isEnum = true → q.allowableValues ≠ []) :
    DefaultOf t q (t.defaultValue q) := by
  unfold Target.defaultValue
  cases hreq : q.required with
  | false => exact .optional hreq
  | true =>
    cases he : q.isEnum with
    | true =>
      cases hd : q.schemaDefault with
      | some raw =>
        simp only [Property.initialValue?, hd, Option.some_or]
        exact .declared hreq he hd
      | none =>
        obtain ⟨raw, rest, hr⟩ := List.exists_cons_of_ne_nil (henum he)
        simp only [Property.initialValue?, hd, hr, Option.none_or, List.head?_cons]
        exact .first hreq he hd hr
    | false =>
      cases hc : q.container with
      | list => exact .list hreq he hc
      | map => exact .map hreq he hc
      | scalar =>
        simp only [Target.emptyLiteral]
        cases hk : t.spec.classes.classify q.dataType with
        | boolean => exact .boolean hreq he hc hk
        | string => exact .string hreq he hc hk
        | other => exact .other hreq he hc hk
        | _ => exact .zero hreq he hc (by rw [hk]; rfl)

/-- At most one literal is allowed. -/
lemma DefaultOf.eq_defaultValue {q : Property} {v : String} (h : DefaultOf t q v) :
    v = t.defaultValue q := by
  unfold Target.defaultValue
  cases h with
  | optional h => simp [h]
  | declared h he hr => simp [h, he, hr, Property.initialValue?]
  | first h he hd hr => simp [h, he, hd, hr, Property.initialValue?]
  | list h he hc => simp [h, he, hc, Target.emptyLiteral]
  | map h he hc => simp [h, he, hc, Target.emptyLiteral]
  | zero h he hc hk =>
    cases hclass : t.spec.classes.classify q.dataType <;>
      simp_all [Target.emptyLiteral, ScalarClass.isNumeric]
  | boolean h he hc hk => simp [h, he, hc, hk, Target.emptyLiteral]
  | string h he hc hk => simp [h, he, hc, hk, Target.emptyLiteral]
  | other h he hc hk => simp [h, he, hc, hk, Target.emptyLiteral]

/-! ### Flags -/

/-- The flag of a scalar class; types of no class have none. -/
def classFlag (f : TypeFlags) : ScalarClass → Bool
  | .integer => f.isInteger
  | .long => f.isLong
  | .float => f.isFloat
  | .double => f.isDouble
  | .boolean => f.isBoolean
  | .string => f.isString
  | .other => false

lemma classFlag_flags (classes : TypeClasses) (dataType baseType : String) (k : ScalarClass) :
    classFlag (classes.flags dataType baseType) k = true ↔
      k ≠ .other ∧ classes.classify dataType = k := by
  cases k <;> simp [classFlag, TypeClasses.flags]

lemma isNumeric_flags (classes : TypeClasses) (dataType baseType : String) :
    (classes.flags dataType baseType).isNumeric = true ↔
      ∃ k ∈ [ScalarClass.integer, .long, .float, .double, .boolean],
        classFlag (classes.flags dataType baseType) k = true := by
  simp only [classFlag_flags]
  cases hk : classes.classify dataType <;> simp [TypeClasses.flags, hk, ScalarClass.isNumeric]

/-! ### Properties -/

/-- Flags, cases and default literal of a property fit its other fields. -/
structure Coherent (p : Profile) (t : Target) (q : Property) : Prop where
  default : ∀ v, DefaultOf t q v ↔ v = q.defaultValue
  typeName : q.isEnum = true → q.dataTypeWithEnum =
    Identifier.enumTypeName t.spec.names (enumWorkingName q.baseName) q.baseName
  cases : q.isEnum = true → q.enumCases.map (·.rawValue) = q.allowableValues ∧
    ∀ e ∈ q.enumCases, e.caseName = Identifier.enumCaseName e.rawValue
  noCases : q.isEnum = false → q.enumCases = []
  classFlags : ∀ k, classFlag q.flags k = true ↔
    k ≠ .other ∧ t.spec.classes.classify q.dataType = k
  oneClass : ∀ k l, classFlag q.flags k = true → classFlag q.flags l = true → k = l
  numeric : q.flags.isNumeric = true ↔
    ∃ k ∈ [ScalarClass.integer, .long, .float, .double, .boolean], classFlag q.flags k = true
  builtIn : q.flags.isPrimitiveType = true ↔
    t.spec.classes.isPrimitive q.baseType = true ∨ IsLoopBack p ∧ q.baseType = "Int64"

lemma allowedTexts_ne_nil {s : Schema} (h : s.isEnum = true) : s.allowedTexts ≠ [] := by
  simpa [Schema.isEnum, Schema.allowedTexts] using h

theorem Settled.coherent {mandatory : Bool} {declared : String} {s : Schema} {q : Property}
    (h : Settled p t mandatory declared s q) : Coherent p t q := by
  have hflag : ∀ k, classFlag q.flags k =
      classFlag (t.spec.classes.flags q.dataType q.baseType) k := by
    intro k
    rw [h.flags]
    cases k <;> rfl
  have hclass : ∀ k, classFlag q.flags k = true ↔
      k ≠ .other ∧ t.spec.classes.classify q.dataType = k := by
    intro k
    rw [hflag, classFlag_flags]
  have hvalues : q.isEnum = true → q.allowableValues ≠ [] := by
    rw [h.isEnum, h.allowableValues]
    exact allowedTexts_ne_nil
  refine ⟨?_, ?_, ?_, ?_, hclass, ?_, ?_, ?_⟩
  · intro v
    rw [h.defaultValue]
    constructor
    · exact DefaultOf.eq_defaultValue
    · rintro rfl
      exact defaultOf_defaultValue hvalues
  · intro he
    rw [h.dataTypeWithEnum, if_pos (h.isEnum ▸ he), h.baseName]
  · intro he
    rw [h.enumCases, if_pos (h.isEnum ▸ he), h.allowableValues]
    constructor
    · rw [List.map_map]
      exact List.map_id _
    · intro e hmem
      obtain ⟨raw, -, rfl⟩ := List.mem_map.1 hmem
      rfl
  · intro he
    have hs : ¬s.isEnum = true := by rw [← h.isEnum, he]; exact Bool.false_ne_true
    rw [h.enumCases, if_neg hs]
  · intro k l hk hl
    exact ((hclass k).1 hk).2.symm.trans ((hclass l).1 hl).2
  · simp only [hflag]
    rw [h.flags]
    exact isNumeric_flags ..
  · rw [h.flags]
    simp

/-- In a finished run the default literal, the cases, the name and the flags of every property are
those that its final fields decide, and a model knows whether it has properties and enumerations. -/
theorem coherent_of_run (hp : p ∈ Registry.builtin.profiles) {run : Run}
    (h : generate p d c = .ok run) :
    ∃ api, run.api = some api ∧ ∀ m ∈ api.models,
      (m.hasProperties = true ↔ m.properties ≠ []) ∧
      (m.hasEnumProperties = true ↔ ∃ q ∈ m.properties, q.isEnum = true) ∧
      ∀ q ∈ m.properties, Coherent p (p.configure c) q := by
  obtain ⟨-, rfl⟩ := generate_eq_ok_iff.1 h
  refine ⟨finishedApi p (p.configure c) d, rfl, fun m hm => ?_⟩
  rw [finishedApi_models] at hm
  obtain ⟨e, -, rfl⟩ := List.mem_map.1 hm
  refine ⟨?_, ?_, fun q hq => ?_⟩
  · simp [finishedModel, Model.finish, Model.refreshFlags]
  · simp [finishedModel, Model.finish, Model.refreshFlags]
  · obtain ⟨_, -, hsettled⟩ := settled_of_mem hp hq
    exact hsettled.coherent

/-- An id that becomes required and an integer, an enumeration with a default, and a list. -/
def storeItem : Document where
  definitions :=
    [("Item",
      { required := ["class", "tags"]
        properties :=
          [("id", { kind := some "number", format := some "double" }),
           ("class",
            { kind := some "string", allowed := [.str "new", .str "IN_USE"],
              default := some (.str "IN_USE") }),
           ("tags", { kind := some "array", items := some { kind := some "string" } })] })]

def realm : Config := .ofEntries [(LoopBack.realmOption, .bool true)]

theorem coherent_of_run_storeItem :
    generate LoopBack.profile storeItem realm =
        .ok (finishedRun LoopBack.profile storeItem realm) ∧
      ∃ api, (finishedRun LoopBack.profile storeItem realm).api = some api ∧
        (api.models.flatMap fun m => m.properties.map fun q => q.defaultValue) =
          ["0", "_Class(rawValue: \"IN_USE\")!", "[:]"] ∧
        ∀ m ∈ api.models, ∀ q ∈ m.properties,
          Coherent LoopBack.profile (LoopBack.profile.configure realm) q := by
  have hrun : generate LoopBack.profile storeItem realm =
      .ok (finishedRun LoopBack.profile storeItem realm) := generate_of_accepted (by decide +kernel)
  obtain ⟨api, hapi, hmodels⟩ := coherent_of_run (mem_builtin_iff.2 (by simp)) hrun
  refine ⟨hrun, api, hapi, ?_, fun m hm => (hmodels m hm).2.2⟩
  obtain rfl := Option.some.inj hapi
  decide +kernel

end ClientGen.Proofs
