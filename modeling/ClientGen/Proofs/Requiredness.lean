import ClientGen.Proofs.Coherence
import ClientGen.Proofs.References

/-!
# Required properties

The build phase notes twice which properties are required: each property knows it, and the model
lists their names. Later only the first of the two can change: with Realm, the LoopBack profile
requires the id of every model. The list is not told, so the two agree except for such an id.
-/

namespace ClientGen.Proofs

variable {p : Profile} {t : Target} {d : Document} {c : Config}

/-- The profile requires ids, whether the document does or not. -/
def RequiresIds (p : Profile) (t : Target) : Prop :=
  IsLoopBack p ∧ t.settings.flag LoopBack.realmOption = true

instance (p : Profile) (t : Target) : Decidable (RequiresIds p t) :=
  inferInstanceAs (Decidable (_ ∧ _))

lemma required_finishedModel (hp : p ∈ Registry.builtin.profiles) (name : String) (s : Schema) :
    (finishedModel p t name s).required = Model.nameSet s.required := by
  rw [finishedModel_eq hp]
  simp only [Model.finish, Model.refreshFlags, Model.partitionRaw, identified, Model.mapId]
  split <;> rfl

/-- The list of a model holds the names that its schema requires. -/
lemma mem_required_iff (hp : p ∈ Registry.builtin.profiles) {name declared : String} {s : Schema} :
    declared ∈ (finishedModel p t name s).required ↔ s.isRequired declared = true := by
  rw [required_finishedModel hp, mem_nameSet_iff, Schema.isRequired, List.contains_iff_mem]

lemma Settled.required_iff {mandatory : Bool} {declared : String} {s : Schema} {q : Property}
    (h : Settled p t mandatory declared s q) :
    q.required = true ↔ mandatory = true ∨ (RequiresIds p t ∧ q.isId = true) := by
  rw [h.required, RequiresIds]
  simp only [Bool.or_eq_true, Bool.and_eq_true, decide_eq_true_eq]
  tauto

/-- In a finished run the required properties of a model are those that it lists, and its id if the
profile requires ids. So the two agree on every property but an id that only the profile requires. -/
theorem required_of_run (hp : p ∈ Registry.builtin.profiles) {run : Run}
    (h : generate p d c = .ok run) :
    ∃ api, run.api = some api ∧ ∀ m ∈ api.models,
      (∃ s, (m.name, s) ∈ d.definitions ∧ ∀ declared, declared ∈ m.required ↔ declared ∈ s.required) ∧
      ∀ q ∈ m.properties,
        (q.required = true ↔
          q.baseName ∈ m.required ∨ (RequiresIds p (p.configure c) ∧ q.isId = true)) ∧
        ((q.required = true ↔ q.baseName ∈ m.required) ↔
          ¬(RequiresIds p (p.configure c) ∧ q.isId = true ∧ q.baseName ∉ m.required)) := by
  obtain ⟨-, rfl⟩ := generate_eq_ok_iff.1 h
  refine ⟨finishedApi p (p.configure c) d, rfl, fun m hm => ?_⟩
  rw [finishedApi_models] at hm
  obtain ⟨⟨name, s⟩, he, rfl⟩ := List.mem_map.1 hm
  refine ⟨⟨s, ?_, fun declared => ?_⟩, fun q hq => ?_⟩
  · rw [(finishedModel_fields hp name s).1]
    exact he
  · rw [required_finishedModel hp, mem_nameSet_iff]
  · obtain ⟨f, -, hq⟩ := settled_of_mem hp hq
    have hlisted : q.baseName ∈ (finishedModel p (p.configure c) name s).required ↔
        s.isRequired f.1 = true := by
      rw [mem_required_iff hp, hq.baseName]
    have hrequired := hq.required_iff
    rw [← hlisted] at hrequired
    refine ⟨hrequired, ?_⟩
    rw [hrequired]
    tauto

/-- Two models that list the same names; the id of the second is one of them. -/
def optionalIds : Document where
  definitions :=
    [("Draft", { properties := [("id", text), ("title", text)], required := ["title"] }),
     ("Note", { properties := [("id", text)], required := ["title", "id"] })]
where
  text : Schema := { kind := some "string" }

theorem required_of_run_optionalIds :
    generate LoopBack.profile optionalIds realm =
        .ok (finishedRun LoopBack.profile optionalIds realm) ∧
      RequiresIds LoopBack.profile (LoopBack.profile.configure realm) ∧
      ∃ api, (finishedRun LoopBack.profile optionalIds realm).api = some api ∧
        (api.models.map fun m => (m.required, m.properties.map fun q => (q.baseName, q.required))) =
          [(["title"], [("id", true), ("title", true)]), (["id", "title"], [("id", true)])] ∧
        ∀ m ∈ api.models, ∀ q ∈ m.properties,
          q.required = true ↔ q.baseName ∈ m.required ∨ q.isId = true := by
  have hrun : generate LoopBack.profile optionalIds realm =
      .ok (finishedRun LoopBack.profile optionalIds realm) := generate_of_accepted (by decide +kernel)
  have hrealm : RequiresIds LoopBack.profile (LoopBack.profile.configure realm) := by decide +kernel
  obtain ⟨api, hapi, hmodels⟩ := required_of_run (mem_builtin_iff.2 (by simp)) hrun
  refine ⟨hrun, hrealm, api, hapi, ?_, fun m hm q hq => ?_⟩
  · obtain rfl := Option.some.inj hapi
    decide +kernel
  · rw [((hmodels m hm).2 q hq).1]
    simp only [hrealm, true_and]

end ClientGen.Proofs
