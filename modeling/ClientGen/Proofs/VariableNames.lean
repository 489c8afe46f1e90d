import ClientGen.Proofs.FinishedModels
import ClientGen.Proofs.Grouping
import ClientGen.Proofs.ReservedNames

/-!
# Variables of one scope

Properties of a model and parameters of an operation are named one by one, from nothing but the name
in the document. The words of that name are joined to a stem, and an underscore stands in front of
the stem if one stands in front of the declared name or if the stem is reserved. A stem never begins
with an underscore, so two variables of a scope have one name only if they agree in both.
-/

namespace ClientGen.Proofs

open Unicode Identifier

variable {p : Profile} {t : Target} {d : Document} {c : Config}

/-! ### Stems -/

/-- The words of a declared name, joined. -/
def variableStem (name : String) : String := camelCase (legalize name)

/-- A variable begins with an underscore if its declared name does or its stem is reserved. -/
def IsUnderscored (names : ReservedWords) (name : String) : Prop :=
  name.toList.head? = some '_' ∨ names.isReserved (variableStem name) = true

instance (names : ReservedWords) (name : String) : Decidable (IsUnderscored names name) :=
  inferInstanceAs (Decidable (_ ∨ _))

/-- Two declared names that give one variable. -/
def Clash (names : ReservedWords) (a b : String) : Prop :=
  variableStem a = variableStem b ∧ (IsUnderscored names a ↔ IsUnderscored names b)

instance (names : ReservedWords) (a b : String) : Decidable (Clash names a b) :=
  inferInstanceAs (Decidable (_ ∧ _))

lemma toList_variableStem (name : String) :
    (variableStem name).toList = camel (legal name.toList) := by
  rw [variableStem, camelCase, legalize, String.toList_ofList, String.toList_ofList]

/-- A stem begins with a digit just when the letters and digits of the declared name do, and it begins
with no other character of ASCII that is no letter. -/
lemma head?_variableStem (name : String) {ch : Char} (hch : IsCaseless ch) :
    (variableStem name).toList.head? = some ch ↔
      (name.toList.filter isAlphanumeric).head? = some ch := by
  rw [toList_variableStem]
  exact ((recased_uncapitalize _).head?_iff hch).trans ((recased_pascal_legal _).head?_iff hch)

lemma head?_variableStem_ne (name : String) : (variableStem name).toList.head? ≠ some '_' := by
  rw [ne_eq, head?_variableStem name (by decide)]
  intro hhead
  exact absurd (List.mem_filter.1 (List.mem_of_mem_head? hhead)).2 (by decide)

lemma variableStem_underscored (rest : String) : variableStem ("_" ++ rest) = variableStem rest := by
  have hlegal : legal ('_' :: rest.toList) = '_' :: legal rest.toList := rfl
  have hsplit : ('_' :: legal rest.toList).splitOnP isWordSeparator =
      [] :: (legal rest.toList).splitOnP isWordSeparator := by
    rw [List.splitOnP_cons_eq_if_modifyHead, if_pos (by decide)]
  rw [← String.toList_inj, toList_variableStem, toList_variableStem, toList_underscored, hlegal,
    camel, camel, pascal, hsplit]
  rfl

lemma varName_eq (h : Marks t.spec.names) (name : String) :
    t.varName name =
      if IsUnderscored t.spec.names name then "_" ++ variableStem name else variableStem name := by
  rcases underscored_cases name with ⟨rest, rfl⟩ | hhead
  · have hmarked : IsUnderscored t.spec.names ("_" ++ rest) := .inl (by rw [toList_underscored]; rfl)
    rw [if_pos hmarked, variableStem_underscored, varName_marked h, variableStem]
  · have hiff : IsUnderscored t.spec.names name ↔
        t.spec.names.isReserved (variableStem name) = true := or_iff_right hhead
    rw [varName_unmarked hhead, ReservedWords.sanitize, h.escape, underscored, ← variableStem]
    simp only [hiff]

lemma append_underscore_ne {name : String} (h : name.toList.head? ≠ some '_') (stem : String) :
    name ≠ "_" ++ stem := by
  rintro rfl
  exact h (by rw [toList_underscored]; rfl)

/-- Two declared names give one variable only by a common stem that both or neither mark. -/
theorem varName_eq_iff (h : Marks t.spec.names) (a b : String) :
    t.varName a = t.varName b ↔ Clash t.spec.names a b := by
  rw [varName_eq h, varName_eq h, Clash]
  have ha := append_underscore_ne (head?_variableStem_ne a) (variableStem b)
  have hb := append_underscore_ne (head?_variableStem_ne b) (variableStem a)
  -- no stem begins with an underscore, so a marked variable is no unmarked one
  by_cases hma : IsUnderscored t.spec.names a
  · by_cases hmb : IsUnderscored t.spec.names b
    · rw [if_pos hma, if_pos hmb, iff_true_intro hma, iff_true_intro hmb, iff_self, and_true,
        ← String.toList_inj, toList_underscored, toList_underscored, List.cons_inj_right,
        String.toList_inj]
    · rw [if_pos hma, if_neg hmb]
      exact iff_of_false hb.symm fun hclash => hmb (hclash.2.1 hma)
  · by_cases hmb : IsUnderscored t.spec.names b
    · rw [if_neg hma, if_pos hmb]
      exact iff_of_false ha fun hclash => hma (hclash.2.2 hmb)
    · rw [if_neg hma, if_neg hmb]
      exact (and_iff_left (iff_of_false hma hmb)).symm

/-- The variables of a scope differ just when no two of its declared names clash. -/
lemma nodup_varName_iff (h : Marks t.spec.names) (declared : List String) :
    (declared.map t.varName).Nodup ↔ declared.Pairwise fun a b => ¬Clash t.spec.names a b := by
  rw [List.Nodup, List.pairwise_map]
  simp only [ne_eq, varName_eq_iff h]

/-! ### Names that stay as they are -/

/-- A small letter of ASCII, then letters and digits of ASCII. -/
def isCamelName (name : String) : Bool :=
  name.toList.head?.any Char.isLower && name.toList.all Char.isAlphanum

lemma variableStem_of_isCamelName {name : String} (h : isCamelName name = true) :
    variableStem name = name := by
  rw [isCamelName, Bool.and_eq_true, List.all_eq_true] at h
  obtain ⟨hfirst, hletters⟩ := h
  have hlegal : legal name.toList = name.toList :=
    legal_eq_self fun ch hch => .inl (hletters ch hch)
  have hsplit : name.toList.splitOnP isWordSeparator = [name.toList] :=
    List.splitOnP_eq_singleton fun ch hch => (separators_of_isAlphanum (hletters ch hch)).2
  rw [← String.toList_inj, toList_variableStem, hlegal, camel, pascal, hsplit,
    List.flatMap_singleton]
  cases hcs : name.toList with
  | nil =>
    rw [hcs] at hfirst
    cases hfirst
  | cons ch rest =>
    rw [hcs] at hfirst hletters
    have hascii := toNat_lt_of_isAlphanum (hletters ch List.mem_cons_self)
    have hsmall := forall_ascii (P := fun ch => ch.isLower = true → ch.toUpper.toLower = ch)
      (by decide +kernel) hascii hfirst
    rw [capitalize, upper_of_ascii hascii, List.singleton_append, uncapitalize,
      lower_of_ascii (asciiCase hascii).upper_lt, hsmall, List.singleton_append]

lemma Clash.eq_of_isCamelName {names : ReservedWords} {a b : String} (h : Clash names a b)
    (ha : isCamelName a = true) (hb : isCamelName b = true) : a = b := by
  rw [← variableStem_of_isCamelName ha, ← variableStem_of_isCamelName hb, h.1]

/-! ### Scopes of a finished run -/

lemma names_finishedModel (hp : p ∈ Registry.builtin.profiles) (name : String) (s : Schema) :
    (finishedModel p t name s).properties.map (·.name) =
      ((finishedModel p t name s).properties.map (·.baseName)).map t.varName := by
  rw [List.map_map]
  refine List.map_congr_left fun q hq => ?_
  obtain ⟨e, -, hsettled⟩ := settled_of_mem hp hq
  rw [Function.comp_apply, hsettled.name, hsettled.baseName, varName_builtin hp]

lemma paramNames_build (hp : p ∈ Registry.builtin.profiles) (site : OperationSite) :
    (Operation.build p t site).parameters.map (·.paramName) =
      ((Operation.build p t site).parameters.map (·.baseName)).map t.varName := by
  simp only [Operation.build, List.map_map]
  refine List.map_congr_left fun q _ => ?_
  simp only [Function.comp_apply, Parameter.build, paramName_builtin hp]

/-- In a finished run the properties of a model have different names just when no two names in its
definition clash, and the parameters of an operation just when no two of its own and the shared
ones do. Names clash if they have one stem and both or neither get an underscore. Among names that
are in camel case already, only equal ones clash. -/
theorem variables_of_run (hp : p ∈ Registry.builtin.profiles) {run : Run}
    (h : generate p d c = .ok run) :
    ∃ api, run.api = some api ∧
      (∀ m ∈ api.models, ∃ e ∈ d.definitions, m.name = e.1 ∧
        m.properties.map (·.baseName) = e.2.properties.map (·.1) ∧
        ((m.properties.map (·.name)).Nodup ↔ (e.2.properties.map (·.1)).Pairwise fun a b =>
          ¬Clash (p.configure c).spec.names a b)) ∧
      (∀ g ∈ api.groups, ∀ o ∈ g.operations, ∃ site ∈ d.sites,
        o.rawPath = site.path ∧ o.method = site.method ∧
        o.parameters.map (·.baseName) = (site.decl.mergedParameters site.item).map (·.name) ∧
        ((o.parameters.map (·.paramName)).Nodup ↔
          ((site.decl.mergedParameters site.item).map (·.name)).Pairwise fun a b =>
            ¬Clash (p.configure c).spec.names a b)) ∧
      ∀ a b, isCamelName a = true → isCamelName b = true →
        (Clash (p.configure c).spec.names a b ↔ a = b) := by
  obtain ⟨-, rfl⟩ := generate_eq_ok_iff.1 h
  have hmarks := marks_builtin hp c
  refine ⟨finishedApi p (p.configure c) d, rfl, ?_, ?_, ?_⟩
  · intro m hm
    rw [finishedApi_models] at hm
    obtain ⟨e, he, rfl⟩ := List.mem_map.1 hm
    refine ⟨e, he, (finishedModel_fields hp e.1 e.2).1, baseNames_finishedModel hp e.1 e.2, ?_⟩
    rw [names_finishedModel hp, baseNames_finishedModel hp, nodup_varName_iff hmarks]
  · intro g hg o ho
    obtain ⟨site, hsite, resource, rfl⟩ :=
      exists_site_of_mem_operations hp (List.mem_flatMap.2 ⟨g, hg, ho⟩)
    have hdeclared : (Operation.build p (p.configure c) site).parameters.map (·.baseName) =
        (site.decl.mergedParameters site.item).map (·.name) := by
      simp only [Operation.build, List.map_map]
      rfl
    refine ⟨site, hsite, rfl, rfl, hdeclared, ?_⟩
    rw [← nodup_varName_iff hmarks, ← hdeclared, ← paramNames_build hp]
    rfl
  · intro a b ha hb
    refine ⟨fun hclash => hclash.eq_of_isCamelName ha hb, ?_⟩
    rintro rfl
    exact ⟨rfl, Iff.rfl⟩

/-- Properties that meet in a reserved word, and parameters that only look alike. -/
def courses : Document where
  definitions :=
    [("Course", { properties := [("class", { kind := some "string" }),
      ("_class", { kind := some "string" }), ("level", { kind := some "integer" })] })]
  paths :=
    [("/courses",
      { get := some
          { id := some "courses"
            parameters := [{ name := "_level", place := "query" }, { name := "level", place := "query" }] }
        parameters := [{ name := "page-size", place := "query" }] })]

theorem variables_of_run_courses :
    generate Plain.profile courses {} = .ok (finishedRun Plain.profile courses {}) ∧
      ∃ api, (finishedRun Plain.profile courses {}).api = some api ∧
        (api.models.flatMap fun m => m.properties.map (·.name)) = ["_class", "_class", "level"] ∧
        (∀ m ∈ api.models, ¬(m.properties.map (·.name)).Nodup) ∧
        (∀ g ∈ api.groups, ∀ o ∈ g.operations, (o.parameters.map (·.paramName)).Nodup) ∧
        ¬Clash (Plain.profile.configure {}).spec.names "level" "pageSize" := by
  have hrun : generate Plain.profile courses {} =
      .ok (finishedRun Plain.profile courses {}) := generate_of_accepted (by decide +kernel)
  obtain ⟨api, hapi, hmodels, hoperations, hcamel⟩ :=
    variables_of_run (mem_builtin_iff.2 (by simp)) hrun
  refine ⟨hrun, api, hapi, ?_, fun m hm => ?_, fun g hg o ho => ?_, ?_⟩
  · obtain rfl := Option.some.inj hapi
    decide +kernel
  · obtain ⟨e, he, -, -, hiff⟩ := hmodels m hm
    obtain rfl := List.mem_singleton.1 he
    rw [hiff]
    decide +kernel
  · obtain ⟨site, hsite, -, -, -, hiff⟩ := hoperations g hg o ho
    obtain rfl := List.mem_singleton.1 hsite
    rw [hiff]
    decide +kernel
  · rw [hcamel _ _ (by decide) (by decide)]
    decide

/-- One name in two spellings, for a property and for a parameter. -/
def twoSpellings : Document where
  definitions :=
    [("Pet", { properties := [("pet_id", { kind := some "string" }),
      ("petId", { kind := some "string" })] })]
  paths :=
    [("/pets",
      { get := some
          { id := some "find"
            parameters := [{ name := "pet_id", place := "query" }, { name := "petId", place := "query" }] } })]

/-- Different names in the document may become one name of a scope. -/
theorem names_clash_twoSpellings :
    generate Plain.profile twoSpellings {} = .ok (finishedRun Plain.profile twoSpellings {}) ∧
      ∃ api, (finishedRun Plain.profile twoSpellings {}).api = some api ∧
        (∃ m ∈ api.models, (m.properties.map (·.baseName)).Nodup ∧
          ¬(m.properties.map (·.name)).Nodup) ∧
        ∃ g ∈ api.groups, ∃ o ∈ g.operations, (o.parameters.map (·.baseName)).Nodup ∧
          ¬(o.parameters.map (·.paramName)).Nodup := by
  refine ⟨generate_of_accepted (by decide +kernel), _, rfl, ?_, ?_⟩
  · decide +kernel
  · decide +kernel

end ClientGen.Proofs
