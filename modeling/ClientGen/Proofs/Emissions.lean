import Mathlib.Data.List.Forall2
import Mathlib.Data.List.ProdSigma
import Mathlib.Tactic.Common
import ClientGen.Emission

/-!
# Emissions one by one

An emission belongs to a model and a binding, to a group and a binding, or to an entry of the top
level or the manifest, and its kind tells which.
-/

namespace ClientGen.Proofs

section

variable (r : Run) (api : Api)

def modelFile (m : Model) (b : TemplateBinding) : Emission :=
  Run.classEmission r.target.spec.layout.modelFolder m.className .model
    ((r.baseContext api).putAll (Run.modelContext m)) b

def groupFile (g : OperationGroup) (b : TemplateBinding) : Emission :=
  Run.classEmission r.target.spec.layout.apiFolder g.className .api
    ((r.baseContext api).putAll (Run.groupContext g)) b

def topLevelFile (x : ManifestEntry) : Emission :=
  Run.entryEmission .topLevel ((r.baseContext api).putAll (Run.apiContext api)) x

def supportingFile (x : ManifestEntry) : Emission :=
  Run.entryEmission .supporting (r.baseContext api) x

end

variable {r : Run} {api : Api} {e : Emission}

lemma mem_emissionsOf_iff :
    e ∈ r.emissionsOf api ↔
      (∃ m ∈ api.models, ∃ b ∈ r.target.spec.modelTemplates, modelFile r api m b = e) ∨
      (∃ g ∈ api.groups, ∃ b ∈ r.target.spec.apiTemplates, groupFile r api g b = e) ∨
      (∃ x ∈ r.target.spec.topLevel, topLevelFile r api x = e) ∨
      ∃ x ∈ r.target.spec.manifest.entries, supportingFile r api x = e := by
  simp only [Run.emissionsOf, List.mem_append, List.mem_flatMap, List.mem_map, or_assoc]
  rfl

lemma model_of_mem (he : e ∈ r.emissionsOf api) (hkind : e.kind = .model) :
    ∃ m ∈ api.models, ∃ b ∈ r.target.spec.modelTemplates, modelFile r api m b = e := by
  rcases mem_emissionsOf_iff.1 he with h | ⟨_, -, _, -, rfl⟩ | ⟨_, -, rfl⟩ | ⟨_, -, rfl⟩
  · exact h
  all_goals cases hkind

lemma group_of_mem (he : e ∈ r.emissionsOf api) (hkind : e.kind = .api) :
    ∃ g ∈ api.groups, ∃ b ∈ r.target.spec.apiTemplates, groupFile r api g b = e := by
  rcases mem_emissionsOf_iff.1 he with ⟨_, -, _, -, rfl⟩ | h | ⟨_, -, rfl⟩ | ⟨_, -, rfl⟩
  · cases hkind
  · exact h
  all_goals cases hkind

/-! ### What a template sees -/

/-- A text, or the text that an object holds under a name. -/
def textUnder (name : String) : Json → Option String
  | .obj fields => (Entries.get? fields name).bind Json.string?
  | value => value.string?

/-- The texts of what stands under a key, one by one if that is a list. -/
def textsUnder (key name : String) (e : Emission) : List String :=
  match e.context.get? key with
  | some (.arr items) => items.filterMap (textUnder name)
  | value => (value.bind (textUnder name)).toList

/-- By what names a template knows the model, the group or the API that it is for. -/
def shownNames (e : Emission) : List (List String) :=
  [textsUnder "model" "className" e, textsUnder "rawProperties" "name" e,
   textsUnder "api" "className" e, textsUnder "operations" "nickname" e,
   textsUnder "models" "className" e, textsUnder "apis" "className" e]

/-! ### The order of emissions -/

/-- The relations that an emission must stand in to what it is made for, by its kind. -/
structure EmissionRules where
  model : Model → TemplateBinding → Emission → Prop
  group : OperationGroup → TemplateBinding → Emission → Prop
  topLevel : ManifestEntry → Emission → Prop
  supporting : ManifestEntry → Emission → Prop

/-- The list `es` has one emission for each pair of a model and a binding, then for each pair of a
group and a binding, both with the bindings running faster, then for each entry of the top level and
each of the manifest; and nothing else. -/
def Planned (rules : EmissionRules) (spec : ProfileSpec) (api : Api) (es : List Emission) : Prop :=
  ∃ models groups tops files,
    es = models ++ (groups ++ (tops ++ files)) ∧
    List.Forall₂ (fun x e => rules.model x.1 x.2 e) (api.models ×ˢ spec.modelTemplates) models ∧
    List.Forall₂ (fun x e => rules.group x.1 x.2 e) (api.groups ×ˢ spec.apiTemplates) groups ∧
    List.Forall₂ rules.topLevel spec.topLevel tops ∧
    List.Forall₂ rules.supporting spec.manifest.entries files

lemma Planned.length_eq {rules : EmissionRules} {spec : ProfileSpec} {es : List Emission}
    (h : Planned rules spec api es) :
    es.length = api.models.length * spec.modelTemplates.length +
      api.groups.length * spec.apiTemplates.length + spec.topLevel.length +
      spec.manifest.entries.length := by
  obtain ⟨models, groups, tops, files, rfl, hmodels, hgroups, htops, hfiles⟩ := h
  have hmodel := hmodels.length_eq
  have hgroup := hgroups.length_eq
  rw [List.length_product] at hmodel hgroup
  simp only [List.length_append, ← hmodel, ← hgroup, ← htops.length_eq, ← hfiles.length_eq,
    Nat.add_assoc]

lemma flatMap_map_eq {α β γ : Type} (f : α → β → γ) (xs : List α) (ys : List β) :
    (xs.flatMap fun x => ys.map (f x)) = (xs ×ˢ ys).map fun x => f x.1 x.2 := by
  change _ = (xs.flatMap fun x => ys.map (Prod.mk x)).map _
  rw [List.map_flatMap]
  simp only [List.map_map]
  rfl

/-- Rules that each emission of a run follows are followed by all of them in their order. -/
theorem planned_emissionsOf {rules : EmissionRules}
    (hmodel : ∀ m ∈ api.models, ∀ b, rules.model m b (modelFile r api m b))
    (hgroup : ∀ g b, rules.group g b (groupFile r api g b))
    (htop : ∀ x, rules.topLevel x (topLevelFile r api x))
    (hfile : ∀ x, rules.supporting x (supportingFile r api x)) :
    Planned rules r.target.spec api (r.emissionsOf api) := by
  refine ⟨(api.models ×ˢ r.target.spec.modelTemplates).map fun x => modelFile r api x.1 x.2,
    (api.groups ×ˢ r.target.spec.apiTemplates).map fun x => groupFile r api x.1 x.2,
    r.target.spec.topLevel.map (topLevelFile r api),
    r.target.spec.manifest.entries.map (supportingFile r api), ?_, ?_, ?_, ?_, ?_⟩
  · rw [← flatMap_map_eq, ← flatMap_map_eq, ← List.append_assoc, ← List.append_assoc]
    rfl
  · refine List.forall₂_map_right_iff.2 (List.forall₂_same.2 fun x hx => ?_)
    exact hmodel x.1 (List.mem_product.1 hx).1 x.2
  · exact List.forall₂_map_right_iff.2 (List.forall₂_same.2 fun x _ => hgroup x.1 x.2)
  · exact List.forall₂_map_right_iff.2 (List.forall₂_same.2 fun x _ => htop x)
  · exact List.forall₂_map_right_iff.2 (List.forall₂_same.2 fun x _ => hfile x)

end ClientGen.Proofs
