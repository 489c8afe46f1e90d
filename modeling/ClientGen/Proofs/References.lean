import ClientGen.Proofs.FinishedModels
import ClientGen.Proofs.Responses

/-!
# References to definitions

A reference becomes the class of the definition that it names, unless a type table knows the name:
then it becomes the type of the table. The imports of a model name the classes all the same, so for
such a name the import and the type that is used differ.
-/

namespace ClientGen.Proofs

variable {p : Profile} {t : Target} {d : Document} {c : Config}

section

variable (p t)

/-- A type table turns the name of a definition into another type than its class. -/
def Shadowed (name : String) : Prop :=
  ∃ type, t.spec.types.lookup name = some type ∧ type ≠ p.modelName t name

/-- The references of a definition in its model, where `models` are all models of the run. -/
structure Linked (models : List Model) (s : Schema) (m : Model) : Prop where
  baseType : ∀ (i : Nat) (f : String × Schema) (q : Property) (name : String),
    s.properties[i]? = some f → m.properties[i]? = some q → f.2.type.innermost = .model name →
    ∀ target ∈ models, target.name = name →
      (q.baseType = target.className ↔ ¬Shadowed p t name)
  imports : ∀ x, x ∈ m.imports ↔ ∃ f ∈ s.properties, ∃ name,
    f.2.type.innermost = .model name ∧ x = p.modelName t name
  used : (∀ f ∈ s.properties, ∀ name, f.2.type.innermost = .model name → ¬Shadowed p t name) →
    ∀ x, x ∈ m.imports ↔ ∃ (i : Nat) (f : String × Schema) (q : Property) (name : String),
      s.properties[i]? = some f ∧ m.properties[i]? = some q ∧
        f.2.type.innermost = .model name ∧ x = q.baseType

end

instance (name : String) : Decidable (Shadowed p t name) :=
  decidable_of_iff ((t.spec.types.lookup name).any (· != p.modelName t name) = true) <| by
    unfold Shadowed
    cases t.spec.types.lookup name <;> simp

lemma resolveType_model_eq_iff (hp : p ∈ Registry.builtin.profiles) {name : String} :
    p.resolveType t (.model name) = p.modelName t name ↔ ¬Shadowed p t name := by
  rw [resolveType_builtin hp, TypeTable.resolve]
  unfold Shadowed
  cases t.spec.types.lookup name <;> simp

/-! ### Models and their imports -/

lemma mem_nameSet_iff {names : List String} {x : String} : x ∈ Model.nameSet names ↔ x ∈ names := by
  have hfold : ∀ set : List String, x ∈ names.foldl Model.addName set ↔ x ∈ set ∨ x ∈ names := by
    induction names with
    | nil => simp
    | cons name rest ih =>
      intro set
      rw [List.foldl_cons, ih, Model.mem_addName, List.mem_cons, or_assoc]
  rw [Model.nameSet, hfold, List.mem_nil_iff, false_or]

lemma className_finishedModel (hp : p ∈ Registry.builtin.profiles) (name : String) (s : Schema) :
    (finishedModel p t name s).className = p.modelName t name := by
  rw [finishedModel_eq hp]
  simp only [Model.finish, Model.refreshFlags, Model.partitionRaw, identified, Model.mapId]
  split <;> rfl

lemma imports_finishedModel (hp : p ∈ Registry.builtin.profiles) (name : String) (s : Schema) :
    (finishedModel p t name s).imports = Model.nameSet
      (s.properties.filterMap fun f => f.2.referencedModel?.map (p.modelName t)) := by
  rw [finishedModel_eq hp]
  simp only [Model.finish, Model.refreshFlags, Model.partitionRaw, identified, Model.mapId]
  split <;> rfl

lemma referencedModel?_eq_some_iff {s : Schema} {name : String} :
    s.referencedModel? = some name ↔ s.type.innermost = .model name := by
  unfold Schema.referencedModel?
  split
  · rename_i other h
    rw [h, SchemaType.model.injEq, Option.some.injEq]
  · rename_i h
    constructor
    · intro hnone
      cases hnone
    · intro hmodel
      exact absurd hmodel (h name)

lemma mem_imports_iff (hp : p ∈ Registry.builtin.profiles) {name x : String} {s : Schema} :
    x ∈ (finishedModel p t name s).imports ↔
      ∃ f ∈ s.properties, ∃ name, f.2.type.innermost = .model name ∧ x = p.modelName t name := by
  rw [imports_finishedModel hp, mem_nameSet_iff, List.mem_filterMap]
  simp only [Option.map_eq_some_iff, referencedModel?_eq_some_iff, @eq_comm _ x]

lemma className_of_mem (hp : p ∈ Registry.builtin.profiles) {m : Model}
    (hm : m ∈ (finishedApi p t d).models) : m.className = p.modelName t m.name := by
  rw [finishedApi_models] at hm
  obtain ⟨e, -, rfl⟩ := List.mem_map.1 hm
  rw [className_finishedModel hp, (finishedModel_fields hp e.1 e.2).1]

/-- The type of a property inside all containers, by the declaration at its place. -/
lemma baseType_finishedModel (hp : p ∈ Registry.builtin.profiles) {name : String} {s : Schema}
    {i : Nat} {f : String × Schema} {q : Property} (hf : s.properties[i]? = some f)
    (hq : (finishedModel p t name s).properties[i]? = some q) :
    q.baseType = p.resolveType t f.2.type.innermost := by
  obtain ⟨e, he, hsettled⟩ := settled_of_getElem? hp hq
  obtain rfl := Option.some.inj (hf.symm.trans he)
  exact hsettled.baseType

theorem linked_finishedModel (hp : p ∈ Registry.builtin.profiles) (name : String) (s : Schema) :
    Linked p t (finishedApi p t d).models s (finishedModel p t name s) := by
  constructor
  case baseType =>
    rintro i f q name hf hq hmodel target htarget rfl
    rw [baseType_finishedModel hp hf hq, hmodel, className_of_mem hp htarget]
    exact resolveType_model_eq_iff hp
  case imports =>
    intro x
    exact mem_imports_iff hp
  case used =>
    intro hclear x
    rw [mem_imports_iff hp]
    constructor
    · rintro ⟨f, hf, name', hmodel, rfl⟩
      obtain ⟨i, hi⟩ := List.mem_iff_getElem?.1 hf
      have hq := getElem?_finishedModel (t := t) hp name s i
      rw [hi, Option.map_some] at hq
      refine ⟨i, f, _, name', hi, hq, hmodel, ?_⟩
      rw [baseType_finishedModel hp hi hq, hmodel]
      exact ((resolveType_model_eq_iff hp).2 (hclear f hf name' hmodel)).symm
    · rintro ⟨i, f, q, name', hi, hq, hmodel, rfl⟩
      have hf := List.mem_of_getElem? hi
      refine ⟨f, hf, name', hmodel, ?_⟩
      rw [baseType_finishedModel hp hi hq, hmodel]
      exact (resolveType_model_eq_iff hp).2 (hclear f hf name' hmodel)

/-! ### Responses -/

lemma baseType_finishedOperation {resource : Option String} {site : OperationSite} {i : Nat}
    {e : String × ResponseDecl} {r : Response} {type : SchemaType}
    (he : site.decl.responses[i]? = some e)
    (hr : (finishedOperation p t resource (.build p t site)).responses[i]? = some r)
    (htype : bodyType? e = some type) : r.baseType = some (p.resolveType t type.innermost) := by
  have hall := map_responses_finishedOperation (p := p) (t := t) (f := (·.baseType)) (fun _ => rfl)
    (fun _ _ => rfl) resource site
  have hplace := congrArg (·[i]?) hall
  simp only [List.getElem?_map, he, hr, Option.map_some, build_response, htype] at hplace
  exact Option.some.inj hplace

/-- In a finished run a property or a response that refers to a definition, in whatever containers,
has the class of the definition for its base type, unless a type table knows the name for another
type. The imports of a model are the classes that its properties refer to; they are the base types
of these properties if no table knows one of the names. -/
theorem references_of_run (hp : p ∈ Registry.builtin.profiles) {run : Run}
    (h : generate p d c = .ok run) :
    ∃ api, run.api = some api ∧
      (api.models.map fun m => (m.name, m.className, m.properties.map (·.baseName))) =
        (d.definitions.map fun e =>
          (e.1, p.modelName (p.configure c) e.1, e.2.properties.map (·.1))) ∧
      (∀ (i : Nat) (e : String × Schema) (m : Model), d.definitions[i]? = some e →
        api.models[i]? = some m → Linked p (p.configure c) api.models e.2 m) ∧
      ∀ o ∈ api.operations, ∃ site ∈ d.sites, o.rawPath = site.path ∧ o.method = site.method ∧
        (o.responses.map (·.code)) = site.decl.responses.map (·.1) ∧
        ∀ (i : Nat) (e : String × ResponseDecl) (r : Response) (type : SchemaType) (name : String),
          site.decl.responses[i]? = some e → o.responses[i]? = some r → bodyType? e = some type →
          type.innermost = .model name → ∀ target ∈ api.models, target.name = name →
            (r.baseType = some target.className ↔ ¬Shadowed p (p.configure c) name) := by
  obtain ⟨-, rfl⟩ := generate_eq_ok_iff.1 h
  refine ⟨finishedApi p (p.configure c) d, rfl, ?_, ?_, fun o ho => ?_⟩
  · rw [finishedApi_models, List.map_map]
    refine List.map_congr_left fun e _ => ?_
    rw [Function.comp_apply, (finishedModel_fields hp e.1 e.2).1, className_finishedModel hp,
      baseNames_finishedModel hp]
  · intro i e m he hm
    rw [finishedApi_models, List.getElem?_map, he, Option.map_some] at hm
    obtain rfl := Option.some.inj hm
    exact linked_finishedModel hp e.1 e.2
  · obtain ⟨site, hsite, resource, rfl⟩ := exists_site_of_mem_operations hp ho
    refine ⟨site, hsite, rfl, rfl, ?_, ?_⟩
    · rw [map_responses_finishedOperation (fun _ => rfl) fun _ _ => rfl]
      refine List.map_congr_left fun e _ => ?_
      rw [build_response]
    · rintro i e r type name he hr htype hmodel target htarget rfl
      rw [baseType_finishedOperation he hr htype, hmodel, className_of_mem hp htarget,
        Option.some.injEq]
      exact resolveType_model_eq_iff hp

/-- Definitions that a type table knows and does not know, referred to by a model and a response. -/
def fileNotes : Document where
  definitions :=
    [("file", {}), ("place", {}),
     ("Note",
      { properties :=
          [("scans",
            { kind := some "array", items := some { reference := some "#/definitions/file" } }),
           ("where", { reference := some "#/definitions/place" })] })]
  paths :=
    [("/scans",
      { get := some
          { id := some "scan"
            responses := [("200", { schema := some { reference := some "#/definitions/file" } })] } })]

theorem references_of_run_fileNotes :
    generate Plain.profile fileNotes {} = .ok (finishedRun Plain.profile fileNotes {}) ∧
      Shadowed Plain.profile (Plain.profile.configure {}) "file" ∧
      ¬Shadowed Plain.profile (Plain.profile.configure {}) "place" ∧
      ∃ api, (finishedRun Plain.profile fileNotes {}).api = some api ∧
        (api.models.map fun m => (m.className, m.imports, m.properties.map (·.baseType))) =
          [("File", [], []), ("Place", [], []), ("Note", ["File", "Place"], ["URL", "Place"])] ∧
        (api.operations.flatMap fun o => o.responses.map (·.baseType)) = [some "URL"] ∧
        ∀ (i : Nat) (e : String × Schema) (m : Model), fileNotes.definitions[i]? = some e →
          api.models[i]? = some m →
            Linked Plain.profile (Plain.profile.configure {}) api.models e.2 m := by
  have hrun : generate Plain.profile fileNotes {} =
      .ok (finishedRun Plain.profile fileNotes {}) := generate_of_accepted (by decide +kernel)
  have hnames : Shadowed Plain.profile (Plain.profile.configure {}) "file" ∧
      ¬Shadowed Plain.profile (Plain.profile.configure {}) "place" := by decide +kernel
  obtain ⟨api, hapi, -, hlinked, -⟩ := references_of_run (mem_builtin_iff.2 (by simp)) hrun
  refine ⟨hrun, hnames.1, hnames.2, api, hapi, ?_, ?_, hlinked⟩
  all_goals obtain rfl := Option.some.inj hapi
  all_goals decide +kernel

end ClientGen.Proofs
