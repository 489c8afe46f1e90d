import ClientGen.Proofs.Emissions
import ClientGen.Proofs.Grouping
import ClientGen.Proofs.Identity
import ClientGen.Proofs.Settings

/-!
# Contexts of templates

A template sees the settings of a run under the keys that the engine does not use for emissions of
its kind. The keys of the engine hold what the engine has written last, whatever the config says
about them.
-/

namespace ClientGen.Proofs

variable {p : Profile} {d : Document} {c : Config}

/-! ### Layers of a context -/

/-- What a template sees: `own` entries of the engine, below them the settings that an option
declares, and below these the settings that the config alone knows. -/
structure Layered (options : List ConfigOption) (c : Config) (own context : Entries Json) : Prop where
  distinct : context.keys.Nodup
  written : ∀ e ∈ own, context.get? e.1 = some e.2
  settings : ∀ key, key ∉ own.keys → context.get? key = (Settings.resolve options c).get? key
  declared : ∀ o ∈ options, o.name ∉ own.keys →
    context.get? o.name = some (o.default.resolve (c.get? o.name))
  passed : ∀ key, key ∉ own.keys → key ∉ options.map (·.name) → context.get? key = c.get? key
  keys : ∀ key, key ∈ context.keys ↔
    key ∈ own.keys ∨ key ∈ options.map (·.name) ∨ key ∈ c.values.keys

lemma layered_putAll {options : List ConfigOption} (hnames : (options.map (·.name)).Nodup)
    {own : Entries Json} (hown : own.keys.Nodup) :
    Layered options c own ((Settings.resolve options c).values.putAll own) := by
  have hsettings : ∀ key, key ∉ own.keys →
      ((Settings.resolve options c).values.putAll own).get? key =
        (Settings.resolve options c).get? key := by
    intro key hkey
    rw [get?_putAll hown, get?_eq_none_iff.2 hkey, Option.none_or]
    rfl
  constructor
  case distinct => exact Entries.nodup_keys_putAll (Settings.resolve options c).distinct own
  case written =>
    intro e he
    rw [get?_putAll hown, get?_of_mem hown he, Option.some_or]
  case settings => exact hsettings
  case declared =>
    intro o ho hkey
    rw [hsettings _ hkey, get?_resolve hnames ho]
  case passed =>
    intro key hkey hnot
    rw [hsettings _ hkey, get?_resolve_of_notMem hnot]
  case keys =>
    intro key
    rw [← mem_keys_resolve (c := c), ← not_iff_not, not_or, ← get?_eq_none_iff, ← get?_eq_none_iff,
      ← get?_eq_none_iff, get?_putAll hown, Option.or_eq_none_iff]

/-! ### Contexts of a run -/

/-- What the engine writes into every context. -/
def engineEntries (p : Profile) (t : Target) (api : Api) : Entries Json :=
  [("meta", api.header.toJson), ("sourceFolder", .str t.spec.layout.source),
   ("profile", .str p.name)]

/-- The context of an emission holds what the engine writes for all emissions and for its kind, over
the settings. -/
def contextRules (p : Profile) (c : Config) (api : Api) : EmissionRules where
  model m _ e := e.kind = .model ∧ Layered p.spec.options c
    (engineEntries p (p.configure c) api ++
      [("model", m.toJson),
       ("rawProperties", .arr ((m.properties.filter (·.isRaw)).map Property.toJson))]) e.context
  group g _ e := e.kind = .api ∧ Layered p.spec.options c
    (engineEntries p (p.configure c) api ++
      [("api", g.toJson), ("operations", .arr (g.operations.map Operation.toJson))]) e.context
  topLevel _ e := e.kind = .topLevel ∧ Layered p.spec.options c
    (engineEntries p (p.configure c) api ++
      [("models", .arr (api.models.map Model.toJson)),
       ("apis", .arr (api.groups.map OperationGroup.toJson))]) e.context
  supporting _ e := e.kind = .supporting ∧ Layered p.spec.options c
    (engineEntries p (p.configure c) api) e.context

lemma layered_baseContext (hp : p ∈ Registry.builtin.profiles) (api : Api) {own : Entries Json}
    (hkeys : (["meta", "sourceFolder", "profile"] ++ own.keys).Nodup) :
    Layered p.spec.options c (engineEntries p (p.configure c) api ++ own)
      (((finishedRun p d c).baseContext api).putAll own) := by
  have hbase : (finishedRun p d c).baseContext api =
      (Settings.resolve p.spec.options c).values.putAll (engineEntries p (p.configure c) api) := by
    rw [← settings_configure hp]
    rfl
  have hown : (engineEntries p (p.configure c) api ++ own).keys =
      ["meta", "sourceFolder", "profile"] ++ own.keys := List.map_append
  rw [hbase, putAll_append]
  exact layered_putAll (nodup_optionNames hp) (hown ▸ hkeys)

lemma contextRules_model (hp : p ∈ Registry.builtin.profiles) {m : Model}
    (hm : m ∈ (finishedApi p (p.configure c) d).models) (b : TemplateBinding) :
    (contextRules p c (finishedApi p (p.configure c) d)).model m b
      (modelFile (finishedRun p d c) (finishedApi p (p.configure c) d) m b) := by
  refine ⟨rfl, ?_⟩
  rw [← rawProperties_of_mem hp hm]
  exact layered_baseContext hp _
    (by decide : (["meta", "sourceFolder", "profile"] ++ ["model", "rawProperties"]).Nodup)

lemma contextRules_group (hp : p ∈ Registry.builtin.profiles) (api : Api) (g : OperationGroup)
    (b : TemplateBinding) :
    (contextRules p c api).group g b (groupFile (finishedRun p d c) api g b) :=
  ⟨rfl, layered_baseContext hp api
    (by decide : (["meta", "sourceFolder", "profile"] ++ ["api", "operations"]).Nodup)⟩

lemma contextRules_topLevel (hp : p ∈ Registry.builtin.profiles) (api : Api) (x : ManifestEntry) :
    (contextRules p c api).topLevel x (topLevelFile (finishedRun p d c) api x) :=
  ⟨rfl, layered_baseContext hp api
    (by decide : (["meta", "sourceFolder", "profile"] ++ ["models", "apis"]).Nodup)⟩

lemma contextRules_supporting (hp : p ∈ Registry.builtin.profiles) (api : Api)
    (x : ManifestEntry) :
    (contextRules p c api).supporting x (supportingFile (finishedRun p d c) api x) := by
  have hlayered := layered_baseContext (d := d) (c := c) hp api
    (by decide : (["meta", "sourceFolder", "profile"] ++ Entries.keys []).Nodup)
  rw [List.append_nil] at hlayered
  exact ⟨rfl, hlayered⟩

/-- In every emission of a finished run the keys of the engine have its values, all other settings
have theirs, and there is no other key. -/
theorem contexts_of_run (hp : p ∈ Registry.builtin.profiles) {run : Run}
    (h : generate p d c = .ok run) :
    ∃ api es, run.api = some api ∧ run.emissions = .ok es ∧
      Planned (contextRules p c api) (p.configure c).spec api es := by
  obtain ⟨-, rfl⟩ := generate_eq_ok_iff.1 h
  exact ⟨finishedApi p (p.configure c) d, _, rfl, rfl, planned_emissionsOf
    (fun _ => contextRules_model hp) (contextRules_group hp _) (contextRules_topLevel hp _)
    (contextRules_supporting hp _)⟩

/-- A config that sets all keys of the engine, and one of its own. -/
def contested : Config := .ofEntries <|
  ["meta", "sourceFolder", "profile", "model", "rawProperties", "api", "operations", "models",
    "apis", "author"].map fun key => (key, .str "mine")

def ownedPets : Document where
  info := { title := "Pets" }
  definitions := [("pet", { properties :=
    [("name", { kind := some "string" }),
     ("photo", { kind := some "string", format := some "binary" })] })]
  paths := [("/pets", { get := some { id := some "find" } })]

/-- In each emission the keys of its kind show the model, the group or the API, and the texts of the
config stand under all others. -/
theorem contexts_of_run_contested :
    generate Plain.profile ownedPets contested = .ok (finishedRun Plain.profile ownedPets contested) ∧
      ∃ api es, (finishedRun Plain.profile ownedPets contested).api = some api ∧
        (finishedRun Plain.profile ownedPets contested).emissions = .ok es ∧
        Planned (contextRules Plain.profile contested api) Plain.spec api es ∧
        (es.map fun e => (e.kind, e.context.keys.length)) =
          [(.model, 12), (.api, 12), (.topLevel, 12), (.supporting, 12), (.supporting, 12)] ∧
        (∀ e ∈ es, textsUnder "meta" "title" e = ["Pets"] ∧
          textsUnder "sourceFolder" "" e = ["Sources"] ∧ textsUnder "profile" "" e = ["plain"] ∧
          textsUnder "author" "" e = ["mine"]) ∧
        es.map shownNames =
          [[["Pet"], ["photo"], ["mine"], ["mine"], ["mine"], ["mine"]],
           [["mine"], ["mine"], ["PetsAPI"], ["find"], ["mine"], ["mine"]],
           [["mine"], ["mine"], ["mine"], ["mine"], ["Pet"], ["PetsAPI"]],
           [["mine"], ["mine"], ["mine"], ["mine"], ["mine"], ["mine"]],
           [["mine"], ["mine"], ["mine"], ["mine"], ["mine"], ["mine"]]] := by
  have hrun : generate Plain.profile ownedPets contested =
      .ok (finishedRun Plain.profile ownedPets contested) :=
    generate_of_accepted (by decide +kernel)
  obtain ⟨api, es, hapi, hes, hplanned⟩ := contexts_of_run (mem_builtin_iff.2 (by simp)) hrun
  refine ⟨hrun, api, es, hapi, hes, hplanned, ?_, ?_, ?_⟩
  all_goals obtain rfl := Except.ok.inj hes
  all_goals decide +kernel

end ClientGen.Proofs
