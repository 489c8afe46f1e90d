import ClientGen.Proofs.Contexts

/-!
# Emissions in their order

A finished run has one emission for each model or group and each of their bindings and one for each
entry of the top level and the manifest. Each is rendered by the template it is listed with, goes to
the folder of its layout or entry and shows the template the model, the group or the API that it is
made for.
-/

namespace ClientGen.Proofs

variable {p : Profile} {t : Target} {d : Document} {c : Config}

/-! ### What an emission is made for -/

/-- An emission `e` of a kind for a template, with its folder and file. -/
structure Renders (kind : EmissionKind) (template folder fileName : String) (e : Emission) : Prop where
  ofKind : e.kind = kind
  byTemplate : e.template = template
  inFolder : e.folder = folder
  named : e.fileName = fileName

/-- The template sees the entries under their keys. -/
def Shows (entries : Entries Json) (e : Emission) : Prop :=
  ∀ x ∈ entries, e.context.get? x.1 = some x.2

def fileRules (layout : Layout) (api : Api) : EmissionRules where
  model m b e :=
    Renders .model b.template layout.modelFolder (m.className ++ b.extension) e ∧
      Shows [("model", m.toJson),
        ("rawProperties", .arr ((m.properties.filter (·.isRaw)).map Property.toJson))] e
  group g b e :=
    Renders .api b.template layout.apiFolder (g.className ++ b.extension) e ∧
      Shows [("api", g.toJson), ("operations", .arr (g.operations.map Operation.toJson))] e
  topLevel x e :=
    Renders .topLevel x.template x.folder x.fileName e ∧
      Shows [("models", .arr (api.models.map Model.toJson)),
        ("apis", .arr (api.groups.map OperationGroup.toJson))] e
  supporting x e := Renders .supporting x.template x.folder x.fileName e

lemma Layered.shows {options : List ConfigOption} {engine own : Entries Json} {e : Emission}
    (h : Layered options c (engine ++ own) e.context) : Shows own e :=
  fun x hx => h.written x (List.mem_append_right _ hx)

/-- The emissions of a finished run, one after the other: a file for each model and binding, then for
each group and binding, for each entry of the top level and for each entry of the manifest. -/
theorem emissions_of_run (hp : p ∈ Registry.builtin.profiles) {run : Run}
    (h : generate p d c = .ok run) :
    ∃ api es, run.api = some api ∧ run.emissions = .ok es ∧
      Planned (fileRules (p.configure c).spec.layout api) (p.configure c).spec api es ∧
      es.length = api.models.length * (p.configure c).spec.modelTemplates.length +
        api.groups.length * (p.configure c).spec.apiTemplates.length +
        (p.configure c).spec.topLevel.length + (p.configure c).spec.manifest.entries.length := by
  obtain ⟨-, rfl⟩ := generate_eq_ok_iff.1 h
  have hplanned : Planned (fileRules (p.configure c).spec.layout (finishedApi p (p.configure c) d))
      (p.configure c).spec (finishedApi p (p.configure c) d)
      ((finishedRun p d c).emissionsOf (finishedApi p (p.configure c) d)) := by
    refine planned_emissionsOf ?_ ?_ ?_ ?_
    · intro m hm b
      exact ⟨⟨rfl, rfl, rfl, rfl⟩, (contextRules_model hp hm b).2.shows⟩
    · intro g b
      exact ⟨⟨rfl, rfl, rfl, rfl⟩, (contextRules_group hp _ g b).2.shows⟩
    · intro x
      exact ⟨⟨rfl, rfl, rfl, rfl⟩, (contextRules_topLevel hp _ x).2.shows⟩
    · intro x
      exact ⟨rfl, rfl, rfl, rfl⟩
  exact ⟨_, _, rfl, rfl, hplanned, hplanned.length_eq⟩

/-- Two models, one with raw properties around another one, and two groups. -/
def photoAlbum : Document where
  definitions :=
    [("photo",
      { properties :=
          [("data", { kind := some "string", format := some "binary" }),
           ("title", { kind := some "string" }),
           ("thumb", { kind := some "string", format := some "binary" })] }),
     ("owner", {})]
  paths :=
    [("/photos", { get := some { id := some "find" } }),
     ("/owners", { get := some { id := some "list" } })]

theorem emissions_of_run_photoAlbum :
    generate Plain.profile photoAlbum {} = .ok (finishedRun Plain.profile photoAlbum {}) ∧
      ∃ api es, (finishedRun Plain.profile photoAlbum {}).api = some api ∧
        (finishedRun Plain.profile photoAlbum {}).emissions = .ok es ∧
        Planned (fileRules Plain.spec.layout api) Plain.spec api es ∧ es.length = 7 ∧
        (es.map fun e => (e.kind, e.template, e.folder, e.fileName)) =
          [(.model, "model.swift", "Sources/Models", "Photo.swift"),
           (.model, "model.swift", "Sources/Models", "Owner.swift"),
           (.api, "api.swift", "Sources/APIs", "PhotosAPI.swift"),
           (.api, "api.swift", "Sources/APIs", "OwnersAPI.swift"),
           (.topLevel, "index.swift", "Sources", "Index.swift"),
           (.supporting, "Helper.swift", "Sources", "Helper.swift"),
           (.supporting, "README.md", "", "README.md")] ∧
        es.map shownNames =
          [[["Photo"], ["data", "thumb"], [], [], [], []],
           [["Owner"], [], [], [], [], []],
           [[], [], ["PhotosAPI"], ["find"], [], []],
           [[], [], ["OwnersAPI"], ["list"], [], []],
           [[], [], [], [], ["Photo", "Owner"], ["PhotosAPI", "OwnersAPI"]],
           [[], [], [], [], [], []], [[], [], [], [], [], []]] := by
  have hrun : generate Plain.profile photoAlbum {} =
      .ok (finishedRun Plain.profile photoAlbum {}) := generate_of_accepted (by decide +kernel)
  obtain ⟨api, es, hapi, hes, hplanned, hlength⟩ := emissions_of_run (mem_builtin_iff.2 (by simp)) hrun
  obtain rfl := Option.some.inj hapi
  refine ⟨hrun, _, es, rfl, hes, hplanned, ?_, ?_, ?_⟩
  · rw [hlength]
    decide +kernel
  all_goals obtain rfl := Except.ok.inj hes
  all_goals decide +kernel

end ClientGen.Proofs
