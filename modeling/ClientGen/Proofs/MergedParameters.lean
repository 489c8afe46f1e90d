import ClientGen.Proofs.Grouping

/-!
# Merged parameters

An operation is called with the parameters that its path shares and with its own. Its own
declaration of a parameter hides the shared ones of the same key, that is, of the same name at the
same place; either alone hides nothing. What was merged is what the operation of a finished run is
called with.
-/

namespace ClientGen.Proofs

variable {o : OperationDecl} {item : PathItem} {key : String × String}

/-- What tells the parameters of an operation apart: name and place. -/
def parameterKey (q : ParameterDecl) : String × String := (q.name, q.place)

/-- The keys of a list of declarations, each as often as it is declared. -/
def parameterKeys (declared : List ParameterDecl) : List (String × String) :=
  declared.map parameterKey

/-! ### Lists of declarations -/

lemma sameKey_iff (q r : ParameterDecl) :
    q.sameKey r = true ↔ parameterKey q = parameterKey r := by
  rw [ParameterDecl.sameKey, Bool.and_eq_true, beq_iff_eq, beq_iff_eq, parameterKey, parameterKey,
    Prod.mk.injEq]

lemma mergedParameters_eq (o : OperationDecl) (item : PathItem) :
    o.mergedParameters item =
      (item.parameters.filter (parameterKey · ∉ parameterKeys o.parameters)) ++ o.parameters := by
  refine congrArg (· ++ o.parameters) (List.filter_congr fun q _ => ?_)
  have hany : o.parameters.any (·.sameKey q) = true ↔
      parameterKey q ∈ parameterKeys o.parameters := by
    rw [List.any_eq_true, parameterKeys, List.mem_map]
    simp only [sameKey_iff]
  rw [Bool.eq_iff_iff, Bool.not_eq_true', ← Bool.not_eq_true, hany, decide_eq_true_eq]

lemma filter_key_eq_nil {declared : List ParameterDecl} (h : key ∉ parameterKeys declared) :
    declared.filter (parameterKey · = key) = [] := by
  rw [List.filter_eq_nil_iff]
  rintro q hq hkey
  exact h (of_decide_eq_true hkey ▸ List.mem_map_of_mem hq)

/-- Under one key there are the declarations of one of the two lists, all of them. -/
lemma filter_key_merged (o : OperationDecl) (item : PathItem) (key : String × String) :
    (o.mergedParameters item).filter (parameterKey · = key) =
      if key ∈ parameterKeys o.parameters then o.parameters.filter (parameterKey · = key)
      else item.parameters.filter (parameterKey · = key) := by
  rw [mergedParameters_eq, List.filter_append, List.filter_filter]
  split_ifs with hown
  · have hhidden : item.parameters.filter (fun q => decide (parameterKey q = key) &&
        decide (parameterKey q ∉ parameterKeys o.parameters)) = [] := by
      rw [List.filter_eq_nil_iff]
      intro q _ hq
      rw [Bool.and_eq_true, decide_eq_true_eq, decide_eq_true_eq] at hq
      exact hq.2 (hq.1 ▸ hown)
    rw [hhidden, List.nil_append]
  · rw [filter_key_eq_nil hown, List.append_nil]
    refine List.filter_congr fun q _ => ?_
    rw [Bool.eq_iff_iff, Bool.and_eq_true, decide_eq_true_eq, decide_eq_true_eq,
      and_iff_left_iff_imp]
    rintro rfl
    exact hown

lemma parameterKeys_merged (o : OperationDecl) (item : PathItem) :
    parameterKeys (o.mergedParameters item) =
      (parameterKeys item.parameters).filter (· ∉ parameterKeys o.parameters) ++
        parameterKeys o.parameters := by
  rw [mergedParameters_eq, parameterKeys, List.map_append, parameterKeys, parameterKeys,
    List.filter_map]
  rfl

lemma mem_parameterKeys_merged :
    key ∈ parameterKeys (o.mergedParameters item) ↔
      key ∈ parameterKeys o.parameters ∨ key ∈ parameterKeys item.parameters := by
  rw [parameterKeys_merged, List.mem_append, List.mem_filter, decide_eq_true_eq, or_comm]
  by_cases hown : key ∈ parameterKeys o.parameters
  · exact iff_of_true (.inl hown) (.inl hown)
  · rw [and_iff_left hown]

lemma nodup_parameterKeys_merged (hown : (parameterKeys o.parameters).Nodup)
    (hshared : (parameterKeys item.parameters).Nodup) :
    (parameterKeys (o.mergedParameters item)).Nodup := by
  rw [parameterKeys_merged]
  refine List.nodup_append.2 ⟨hshared.filter _, hown, ?_⟩
  rintro key hkey _ hdeclared rfl
  exact of_decide_eq_true (List.mem_filter.1 hkey).2 hdeclared

/-! ### Operations of a finished run -/

/-- What an operation is called by, and with. -/
def calledWith (o : Operation) : String × HttpMethod × List Parameter :=
  (o.rawPath, o.method, o.parameters)

/-- Finishing a group leaves its operations in order, each with its parameters. -/
def KeepsParameters (p : Profile) : Prop :=
  ∀ t g, (p.finishGroup t g).operations.map calledWith = g.operations.map calledWith

lemma keepsParameters_builtin {p : Profile} (hp : p ∈ Registry.builtin.profiles) :
    KeepsParameters p := fun t g => by rw [finishGroup_builtin hp]

lemma calledWith_perm {p : Profile} (hp : KeepsParameters p) (t : Target) (d : Document) :
    ((finishedApi p t d).operations.map calledWith).Perm
      (d.sites.map fun site => (site.path, site.method,
        (site.decl.mergedParameters site.item).map (Parameter.build p t))) :=
  operations_perm calledWith (hp t) fun _ _ => rfl

/-- The shared parameters whose key the operation does not declare come first, then its own, both
in order. So under each key there are all declarations of the operation, or all shared ones if it
has none; no key is repeated that neither list repeats, and none is lost or added. In a finished run
of a profile that keeps parameters, as all built-in ones do, each operation is called with what the
merged declarations of its site become, in their order. -/
theorem merged_by_key :
    (∀ (o : OperationDecl) (item : PathItem),
      o.mergedParameters item =
        (item.parameters.filter (parameterKey · ∉ parameterKeys o.parameters)) ++ o.parameters ∧
      (∀ key, (o.mergedParameters item).filter (parameterKey · = key) =
        if key ∈ parameterKeys o.parameters then o.parameters.filter (parameterKey · = key)
        else item.parameters.filter (parameterKey · = key)) ∧
      ((parameterKeys o.parameters).Nodup → (parameterKeys item.parameters).Nodup →
        (parameterKeys (o.mergedParameters item)).Nodup) ∧
      ∀ key, key ∈ parameterKeys (o.mergedParameters item) ↔
        key ∈ parameterKeys o.parameters ∨ key ∈ parameterKeys item.parameters) ∧
    (∀ p ∈ Registry.builtin.profiles, KeepsParameters p) ∧
    ∀ p d c run, KeepsParameters p → generate p d c = .ok run →
      ∃ api, run.api = some api ∧
        (api.operations.map fun o => (o.rawPath, o.method, o.parameters)).Perm
          (d.sites.map fun site => (site.path, site.method,
            (site.decl.mergedParameters site.item).map (Parameter.build p (p.configure c)))) := by
  refine ⟨fun o item => ⟨mergedParameters_eq o item, filter_key_merged o item,
    nodup_parameterKeys_merged, fun _ => mem_parameterKeys_merged⟩,
    fun _ => keepsParameters_builtin, fun p d c run hp h => ?_⟩
  obtain ⟨-, rfl⟩ := generate_eq_ok_iff.1 h
  exact ⟨finishedApi p (p.configure c) d, rfl, calledWith_perm hp (p.configure c) d⟩

/-- Of the shared parameters one is declared again, one only under its name, one only at its
place. -/
def tracedPets : Document where
  paths :=
    [("/pets/{id}",
      { parameters :=
          [{ name := "id", place := "path", kind := some "string" },
           { name := "trace", place := "header", kind := some "string" },
           { name := "page", place := "query", kind := some "string" }]
        get := some
          { id := some "pet"
            parameters :=
              [{ name := "trace", place := "query", kind := some "boolean" },
               { name := "id", place := "path", kind := some "integer" }] }
        delete := some { id := some "drop" } })]

theorem merged_by_key_tracedPets :
    generate Plain.profile tracedPets {} = .ok (finishedRun Plain.profile tracedPets {}) ∧
      KeepsParameters Plain.profile ∧
      ∃ api, (finishedRun Plain.profile tracedPets {}).api = some api ∧
        (api.operations.map fun o => (o.rawPath, o.method, o.parameters.map fun q =>
          (q.baseName, q.location, q.dataType))).Perm
          [("/pets/{id}", .get,
              [("trace", .header, "String"), ("page", .query, "String"), ("trace", .query, "Bool"),
                ("id", .path, "Int")]),
            ("/pets/{id}", .delete,
              [("id", .path, "String"), ("trace", .header, "String"),
                ("page", .query, "String")])] := by
  have hrun : generate Plain.profile tracedPets {} =
      .ok (finishedRun Plain.profile tracedPets {}) := generate_of_accepted (by decide +kernel)
  obtain ⟨-, hbuiltin, hfinished⟩ := merged_by_key
  have hkeeps : KeepsParameters Plain.profile := hbuiltin _ (mem_builtin_iff.2 (by simp))
  obtain ⟨api, hapi, hperm⟩ := hfinished _ _ _ _ hkeeps hrun
  refine ⟨hrun, hkeeps, api, hapi, ?_⟩
  have hshown := hperm.map fun e : String × HttpMethod × List Parameter =>
    (e.1, e.2.1, e.2.2.map fun q => (q.baseName, q.location, q.dataType))
  rw [List.map_map, List.map_map] at hshown
  exact hshown.trans (.of_eq (by decide +kernel))

end ClientGen.Proofs
