import ClientGen.Proofs.FinishedModels
import ClientGen.Proofs.Responses

/-!
# Reports of unknown types

A primitive token that no type table knows stands for itself in the target. The build phase reports
it where a property or a parameter is declared with it, in whatever containers, once for each of
them. It does not look at responses: a token that only a response mentions is not reported.
-/

namespace ClientGen.Proofs

variable {p : Profile} {t : Target} {d : Document} {c : Config}

/-- A place of a document where a type is declared. -/
structure TypedPlace where
  location : String
  type : SchemaType

def propertyPlaces (d : Document) : List TypedPlace :=
  d.definitions.flatMap fun e => e.2.properties.map fun f =>
    ⟨"definitions." ++ e.1 ++ "." ++ f.1, f.2.type⟩

def parameterPlaces (d : Document) : List TypedPlace :=
  d.sites.flatMap fun site => (site.decl.mergedParameters site.item).map fun q =>
    ⟨"paths." ++ site.path ++ "." ++ q.name, q.type⟩

def responsePlaces (d : Document) : List TypedPlace :=
  d.sites.flatMap fun site => site.decl.responses.filterMap fun e =>
    (bodyType? e).map fun type => ⟨"paths." ++ site.path ++ "." ++ e.1, type⟩

def unknownTypeStart : String := "unknown type '"

def unknownTypeMessage (token : String) : String := unknownTypeStart ++ token ++ "' passed through"

/-- The diagnostic speaks of an unknown type. -/
def reportsUnknownType (x : Diagnostic) : Bool :=
  unknownTypeStart.toList.isPrefixOf x.message.toList

section

variable (t)

/-- The primitive token inside all containers that neither the profile nor the engine knows. -/
def unknownToken? (type : SchemaType) : Option String :=
  match type.innermost with
  | .primitive token => if t.spec.types.lookup token = none then some token else none
  | _ => none

/-- The report that a place deserves. -/
def report? (place : TypedPlace) : Option Diagnostic :=
  (unknownToken? t place.type).map fun token =>
    ⟨.warning, buildPhase, unknownTypeMessage token, some place.location⟩

/-- The unknown tokens of places, in their order. -/
def unknownTokens (places : List TypedPlace) : List String :=
  places.filterMap fun place => unknownToken? t place.type

end

lemma unknownToken?_eq_some_iff {type : SchemaType} {token : String} :
    unknownToken? t type = some token ↔
      type.innermost = .primitive token ∧ t.spec.types.lookup token = none := by
  unfold unknownToken?
  split
  · rename_i other h
    rw [h, SchemaType.primitive.injEq]
    constructor
    · intro hsome
      split_ifs at hsome with hnone
      obtain rfl := Option.some.inj hsome
      exact ⟨rfl, hnone⟩
    · rintro ⟨rfl, hnone⟩
      exact if_pos hnone
  · rename_i h
    constructor
    · intro hnone
      cases hnone
    · rintro ⟨hprimitive, -⟩
      exact absurd hprimitive (h token)

/-! ### Reports of the build phase -/

lemma unknownType_eq (type : SchemaType) (location : String) :
    unknownType t type location = (report? t ⟨location, type⟩).toList := by
  unfold unknownType report? unknownToken? TypeTable.isKnown
  cases type.innermost with
  | primitive token =>
    by_cases h : t.spec.types.lookup token = none
    · simp [h, unknownTypeMessage, unknownTypeStart]
    · simp [h, Option.isSome_iff_ne_none]
  | model | list | map => rfl

lemma reportsUnknownType_of_report? {place : TypedPlace} {x : Diagnostic}
    (h : report? t place = some x) : reportsUnknownType x = true := by
  obtain ⟨token, -, rfl⟩ := Option.map_eq_some_iff.1 h
  rw [reportsUnknownType, List.isPrefixOf_iff_prefix, unknownTypeMessage, String.toList_append,
    String.toList_append, List.append_assoc]
  exact List.prefix_append ..

/-- What else the phases report begins in other words. -/
lemma otherMessages_check :
    ∀ message ∈ ["malformed path parameter left as literal text", "model has no id property",
      "operation group has no operations"],
      ¬unknownTypeStart.toList.isPrefixOf message.toList = true := by
  decide +kernel

lemma filter_reports (places : List TypedPlace) :
    (places.filterMap (report? t)).filter reportsUnknownType = places.filterMap (report? t) := by
  refine List.filter_eq_self.2 fun x hx => ?_
  obtain ⟨place, -, hplace⟩ := List.mem_filterMap.1 hx
  exact reportsUnknownType_of_report? hplace

lemma flatMap_unknownType {α : Type} (xs : List α) (type : α → SchemaType) (location : α → String) :
    xs.flatMap (fun x => unknownType t (type x) (location x)) =
      (xs.map fun x => (⟨location x, type x⟩ : TypedPlace)).filterMap (report? t) := by
  rw [List.filterMap_eq_flatMap_toList, List.flatMap_map]
  exact List.flatMap_congr fun x _ => unknownType_eq ..

lemma modelDiagnostics_eq :
    d.definitions.flatMap (fun (n, s) => Model.diagnostics t n s) =
      (propertyPlaces d).filterMap (report? t) := by
  rw [propertyPlaces, List.filterMap_flatMap]
  exact List.flatMap_congr fun e _ => flatMap_unknownType e.2.properties ..

/-- A stray brace in a path is reported in other words. -/
lemma filter_operationDiagnostics (site : OperationSite) :
    (Operation.diagnostics t site).filter reportsUnknownType =
      ((site.decl.mergedParameters site.item).map fun q =>
        (⟨"paths." ++ site.path ++ "." ++ q.name, q.type⟩ : TypedPlace)).filterMap (report? t) := by
  rw [Operation.diagnostics, List.filter_append, flatMap_unknownType, filter_reports,
    List.append_left_eq_self, List.filter_eq_nil_iff]
  intro x hx
  split_ifs at hx
  · obtain rfl := List.mem_singleton.1 hx
    exact otherMessages_check _ (by simp)
  · cases hx

lemma filter_operationsDiagnostics :
    (d.sites.flatMap (Operation.diagnostics t)).filter reportsUnknownType =
      (parameterPlaces d).filterMap (report? t) := by
  rw [parameterPlaces, List.filterMap_flatMap, List.filter_flatMap]
  exact List.flatMap_congr fun site _ => filter_operationDiagnostics site

theorem filter_unknownTypes :
    (finishedDiagnostics p t d).filter reportsUnknownType =
      (propertyPlaces d ++ parameterPlaces d).filterMap (report? t) := by
  have hids : ((builtApi p t d).identifyDiagnostics t).filter reportsUnknownType = [] := by
    refine List.filter_eq_nil_iff.2 fun x hx => ?_
    obtain ⟨m, -, rfl⟩ := List.mem_map.1 hx
    exact otherMessages_check _ (by simp)
  have hgroups : ((((builtApi p t d).identify p t).finishModels p t).groupDiagnostics).filter
      reportsUnknownType = [] := by
    refine List.filter_eq_nil_iff.2 fun x hx => ?_
    obtain ⟨g, -, rfl⟩ := List.mem_map.1 hx
    exact otherMessages_check _ (by simp)
  rw [finishedDiagnostics, List.filter_append, List.filter_append, List.filter_append, hids,
    hgroups, modelDiagnostics_eq, filter_reports, filter_operationsDiagnostics,
    List.filterMap_append, List.append_nil, List.append_nil]

lemma messages_reports (places : List TypedPlace) :
    (places.filterMap (report? t)).map (·.message) =
      (unknownTokens t places).map unknownTypeMessage := by
  rw [unknownTokens, List.map_filterMap, List.map_filterMap]
  simp only [report?, Option.map_map, Function.comp_def]

/-- Reports of some places are reports of all if the other places have nothing to report. -/
lemma perm_reports_iff {places others : List TypedPlace} :
    ((places.filterMap (report? t)).map (·.message)).Perm
        ((unknownTokens t (places ++ others)).map unknownTypeMessage) ↔
      ∀ place ∈ others, unknownToken? t place.type = none := by
  have hsplit : unknownTokens t (places ++ others) =
      unknownTokens t places ++ unknownTokens t others := List.filterMap_append
  rw [messages_reports, hsplit, ← List.filterMap_eq_nil_iff]
  constructor
  · intro hperm
    have hlength := hperm.length_eq
    rw [List.length_map, List.length_map, List.length_append] at hlength
    exact List.length_eq_zero_iff.1 (show (unknownTokens t others).length = 0 by omega)
  · intro hnone
    rw [show unknownTokens t others = [] from hnone, List.append_nil]

/-! ### Responses -/

lemma resolveType_unknown (hp : p ∈ Registry.builtin.profiles) {type : SchemaType} {token : String}
    (h : unknownToken? t type = some token) : p.resolveType t type.innermost = token := by
  obtain ⟨hprimitive, hnone⟩ := unknownToken?_eq_some_iff.1 h
  rw [resolveType_builtin hp, hprimitive, TypeTable.resolve, TypeTable.resolveToken, hnone,
    Option.getD_none]

lemma mem_responses_finishedOperation (resource : Option String) {site : OperationSite}
    {e : String × ResponseDecl} {type : SchemaType} (he : e ∈ site.decl.responses)
    (htype : bodyType? e = some type) :
    ∃ r ∈ (finishedOperation p t resource (.build p t site)).responses,
      r.code = e.1 ∧ r.baseType = some (p.resolveType t type.innermost) := by
  have hall := map_responses_finishedOperation (p := p) (t := t) (f := fun r => (r.code, r.baseType))
    (fun _ => rfl) (fun _ _ => rfl) resource site
  have hmem : ((Response.build p t e.1 e.2).code, (Response.build p t e.1 e.2).baseType) ∈
      (finishedOperation p t resource (.build p t site)).responses.map
        fun r => (r.code, r.baseType) := by
    rw [hall]
    exact List.mem_map_of_mem he
  obtain ⟨r, hr, heq⟩ := List.mem_map.1 hmem
  obtain ⟨hcode, hbase⟩ := Prod.mk.inj heq
  refine ⟨r, hr, ?_, ?_⟩
  · rw [hcode, build_response]
  · rw [hbase, build_response, htype]
    rfl

/-- The reports of unknown types in a finished run are those that the properties and parameters
deserve, each once. An unknown token of a response is in the API as it stands, so the reports name
the tokens of all places just when no response has one. -/
theorem unknownTypes_of_run (hp : p ∈ Registry.builtin.profiles) {run : Run}
    (h : generate p d c = .ok run) :
    ∃ api, run.api = some api ∧
      run.diagnostics.filter reportsUnknownType =
        (propertyPlaces d ++ parameterPlaces d).filterMap (report? (p.configure c)) ∧
      (∀ site ∈ d.sites, ∀ e ∈ site.decl.responses, ∀ type token, bodyType? e = some type →
        unknownToken? (p.configure c) type = some token →
        ∃ o ∈ api.operations, o.rawPath = site.path ∧ o.method = site.method ∧
          ∃ r ∈ o.responses, r.code = e.1 ∧ r.baseType = some token) ∧
      (((run.diagnostics.filter reportsUnknownType).map (·.message)).Perm
          ((unknownTokens (p.configure c)
            (propertyPlaces d ++ parameterPlaces d ++ responsePlaces d)).map unknownTypeMessage) ↔
        ∀ place ∈ responsePlaces d, unknownToken? (p.configure c) place.type = none) := by
  obtain ⟨-, rfl⟩ := generate_eq_ok_iff.1 h
  have hreports : (finishedRun p d c).diagnostics.filter reportsUnknownType =
      (propertyPlaces d ++ parameterPlaces d).filterMap (report? (p.configure c)) :=
    filter_unknownTypes
  refine ⟨finishedApi p (p.configure c) d, rfl, hreports, ?_, ?_⟩
  · intro site hsite e he type token htype htoken
    obtain ⟨resource, ho⟩ := exists_operation_of_mem_sites (t := p.configure c) hp hsite
    obtain ⟨r, hr, hcode, hbase⟩ := mem_responses_finishedOperation (p := p) (t := p.configure c)
      resource he htype
    refine ⟨_, ho, rfl, rfl, r, hr, hcode, ?_⟩
    rw [hbase, resolveType_unknown hp htoken]
  · rw [hreports]
    exact perm_reports_iff

/-- Unknown tokens in a property, inside containers, in a parameter and in a response. -/
def ledger : Document where
  definitions :=
    [("Entry",
      { properties :=
          [("amounts", { kind := some "array", items := some { kind := some "money" } }),
           ("note", { kind := some "string" })] })]
  paths :=
    [("/entries",
      { get := some
          { id := some "entries"
            parameters := [{ name := "since", place := "query", kind := some "instant" }]
            responses := [("200", { schema := some { kind := some "cursor" } })] } })]

theorem unknownTypes_of_run_ledger :
    generate Plain.profile ledger {} = .ok (finishedRun Plain.profile ledger {}) ∧
      ((finishedRun Plain.profile ledger {}).diagnostics.filter reportsUnknownType).map
          Diagnostic.text =
        ["warning: unknown type 'money' passed through (at definitions.Entry.amounts)",
         "warning: unknown type 'instant' passed through (at paths./entries.since)"] ∧
      ∃ api, (finishedRun Plain.profile ledger {}).api = some api ∧
        ∃ o ∈ api.operations, o.rawPath = "/entries" ∧
          ∃ r ∈ o.responses, r.code = "200" ∧ r.baseType = some "cursor" := by
  have hrun : generate Plain.profile ledger {} =
      .ok (finishedRun Plain.profile ledger {}) := generate_of_accepted (by decide +kernel)
  obtain ⟨api, hapi, hreports, hresponses, -⟩ :=
    unknownTypes_of_run (mem_builtin_iff.2 (by simp)) hrun
  refine ⟨hrun, ?_, api, hapi, ?_⟩
  · rw [hreports]
    decide +kernel
  · obtain ⟨o, ho, hpath, -, hr⟩ := hresponses _ (List.mem_singleton_self _) _
      (List.mem_singleton_self _) (.primitive "cursor") "cursor" rfl (by decide +kernel)
    exact ⟨o, ho, hpath, hr⟩

end ClientGen.Proofs
