import ClientGen.Proofs.FinishedModels

/-!
# The three types of a finished property

A property has its resolved type, the type inside all containers and the type to declare. The build
phase sets them together; later the profile may give an id another resolved type, and the other two
are not set again. So they agree except for an id that LoopBack turns from a `Double` into an `Int`.
-/

namespace ClientGen.Proofs

variable {p : Profile} {t : Target} {d : Document} {c : Config}

/-! ### Containers in the target -/

lemma listOf_swift (element : String) :
    Swift.containers.listOf element = "[" ++ element ++ "]" := by
  have hpattern : Swift.containers.list.toList = ['[', '\x7b', '\x7d', ']'] := rfl
  apply String.toList_injective
  simp [ContainerSyntax.listOf, ContainerSyntax.fill, hpattern, ContainerSyntax.hole,
    Text.replaceFirst, List.isPrefixOf?]

lemma mapOf_swift (value : String) :
    Swift.containers.mapOf value = "[String:" ++ value ++ "]" := by
  have hpattern : Swift.containers.map.toList =
      "[String:".toList ++ ['\x7b', '\x7d', ']'] := rfl
  apply String.toList_injective
  simp [ContainerSyntax.mapOf, ContainerSyntax.fill, hpattern, ContainerSyntax.hole,
    Text.replaceFirst, List.isPrefixOf?]

/-- A list or a map is written in brackets, whatever it holds. -/
lemma head?_resolveType (hp : p ∈ Registry.builtin.profiles) (c : Config) {type : SchemaType}
    (h : type.container ≠ .scalar) :
    (p.resolveType (p.configure c) type).toList.head? = some '[' := by
  rw [resolveType_builtin hp]
  cases type with
  | primitive | model => exact absurd rfl h
  | list element =>
    rw [TypeTable.resolve, containers_configure hp, listOf_swift, String.toList_append,
      String.toList_append]
    rfl
  | map value =>
    rw [TypeTable.resolve, containers_configure hp, mapOf_swift, String.toList_append,
      String.toList_append]
    rfl

lemma innermost_of_scalar {type : SchemaType} (h : type.container = .scalar) :
    type.innermost = type := by
  cases type with
  | primitive | model => rfl
  | list | map => cases h

/-! ### Ids of another type -/

/-- An id whose type the profile has replaced after the build phase. -/
def Retyped (p : Profile) (q : Property) : Prop :=
  IsLoopBack p ∧ q.isId = true ∧ q.container = .scalar ∧ q.baseType = "Double"

section

variable {mandatory : Bool} {declared : String} {s : Schema} {q : Property}

lemma Settled.baseType_of_scalar (h : Settled p t mandatory declared s q)
    (hscalar : q.container = .scalar) : q.baseType = p.resolveType t s.type := by
  rw [h.baseType, innermost_of_scalar (h.container ▸ hscalar)]

lemma Settled.dataType_of_retyped (hp : p ∈ Registry.builtin.profiles)
    (h : Settled p t mandatory declared s q) (hr : Retyped p q) : q.dataType = "Int" := by
  obtain ⟨hn, hid, hscalar, hbase⟩ := hr
  have hdouble : p.resolveType t s.type = "Double" := by
    rw [← h.baseType_of_scalar hscalar, hbase]
  rw [h.dataType, if_pos hid, idType_builtin hp, if_pos ⟨hn, hdouble⟩]

/-- A container is no `Double`, so only a scalar id gets another type. -/
lemma Settled.dataType_of_not_retyped (hp : p ∈ Registry.builtin.profiles)
    (h : Settled p (p.configure c) mandatory declared s q) (hr : ¬Retyped p q) :
    q.dataType = p.resolveType (p.configure c) s.type := by
  rw [h.dataType]
  split_ifs with hid
  · rw [idType_builtin hp, if_neg]
    rintro ⟨hn, hdouble⟩
    by_cases hscalar : q.container = .scalar
    · exact hr ⟨hn, hid, hscalar, (h.baseType_of_scalar hscalar).trans hdouble⟩
    · have hhead := head?_resolveType hp c (h.container ▸ hscalar)
      rw [hdouble] at hhead
      exact absurd hhead (by decide)
  · rfl

lemma Settled.dataTypeWithEnum_of_not_isEnum (h : Settled p t mandatory declared s q)
    (he : q.isEnum = false) : q.dataTypeWithEnum = p.resolveType t s.type := by
  have hs : ¬s.isEnum = true := by
    rw [← h.isEnum, he]
    exact Bool.false_ne_true
  rw [h.dataTypeWithEnum, if_neg hs]

end

/-- In a finished run the type to declare and the innermost type are the resolved type, where no
enumeration and no container stands between them, except for the ids that are given another type:
these are resolved to an `Int` and stay a `Double` in the other two. -/
theorem types_of_run (hp : p ∈ Registry.builtin.profiles) {run : Run}
    (h : generate p d c = .ok run) :
    ∃ api, run.api = some api ∧ ∀ m ∈ api.models, ∀ q ∈ m.properties,
      (q.isEnum = false → (q.dataTypeWithEnum = q.dataType ↔ ¬Retyped p q)) ∧
      (q.container = .scalar → (q.baseType = q.dataType ↔ ¬Retyped p q)) ∧
      (Retyped p q → q.dataType = "Int" ∧
        (q.isEnum = false → q.dataTypeWithEnum = "Double")) := by
  obtain ⟨-, rfl⟩ := generate_eq_ok_iff.1 h
  refine ⟨finishedApi p (p.configure c) d, rfl, fun m hm q hq => ?_⟩
  rw [finishedApi_models] at hm
  obtain ⟨e, -, rfl⟩ := List.mem_map.1 hm
  obtain ⟨f, -, hq⟩ := settled_of_mem hp hq
  by_cases hr : Retyped p q
  · have hint : q.dataType = "Int" := hq.dataType_of_retyped hp hr
    have hbase : q.baseType = "Double" := hr.2.2.2
    have hdeclared : q.isEnum = false → q.dataTypeWithEnum = "Double" := by
      intro he
      rw [hq.dataTypeWithEnum_of_not_isEnum he, ← hq.baseType_of_scalar hr.2.2.1, hbase]
    refine ⟨fun he => ?_, fun _ => ?_, fun _ => ⟨hint, hdeclared⟩⟩
    · rw [hdeclared he, hint]
      exact iff_of_false (by decide) (not_not_intro hr)
    · rw [hbase, hint]
      exact iff_of_false (by decide) (not_not_intro hr)
  · have hres := hq.dataType_of_not_retyped hp hr
    refine ⟨fun he => ?_, fun hscalar => ?_, fun h => absurd h hr⟩
    · rw [hq.dataTypeWithEnum_of_not_isEnum he, hres]
      exact iff_of_true rfl hr
    · rw [hq.baseType_of_scalar hscalar, hres]
      exact iff_of_true rfl hr

/-- An id that is declared as a wide fraction. -/
def fractionalId : Document where
  definitions :=
    [("Item", { properties := [("id", { kind := some "number", format := some "double" })] })]

theorem types_of_run_fractionalId :
    generate LoopBack.profile fractionalId {} =
        .ok (finishedRun LoopBack.profile fractionalId {}) ∧
      ∃ api, (finishedRun LoopBack.profile fractionalId {}).api = some api ∧
        (api.models.flatMap fun m => m.properties.map fun q =>
          (q.dataType, q.baseType, q.dataTypeWithEnum)) = [("Int", "Double", "Double")] ∧
        ∀ m ∈ api.models, ∀ q ∈ m.properties, Retyped LoopBack.profile q →
          q.dataType = "Int" ∧ (q.isEnum = false → q.dataTypeWithEnum = "Double") := by
  have hrun : generate LoopBack.profile fractionalId {} =
      .ok (finishedRun LoopBack.profile fractionalId {}) :=
    generate_of_accepted (by decide +kernel)
  obtain ⟨api, hapi, hmodels⟩ := types_of_run (mem_builtin_iff.2 (by simp)) hrun
  refine ⟨hrun, api, hapi, ?_, fun m hm q hq => (hmodels m hm q hq).2.2⟩
  obtain rfl := Option.some.inj hapi
  decide +kernel

end ClientGen.Proofs
