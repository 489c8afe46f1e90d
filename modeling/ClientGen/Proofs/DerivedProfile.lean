import Mathlib.Data.List.Forall2
import ClientGen.Proofs.Grouping
import ClientGen.Proofs.Identity
import ClientGen.Proofs.Letters

/-!
# A profile and its base

Moya clients are derived from Swift clients: methods get a capital in front, paths are written in
another syntax and every example is kept, and all else is as in the base. So a run of the derived
profile goes the way of the run of its base, to the same failure or to an API that differs in
nothing else.
-/

namespace ClientGen.Proofs

open Identifier

variable {p : Profile} {t : Target} {d : Document}

/-- An operation of the derived profile beside that of its base. Nothing is said of their paths. -/
structure DerivedOperation (base derived : Operation) : Prop where
  method : derived.method = base.method
  rawPath : derived.rawPath = base.rawPath
  operationId : derived.operationId = initialCaps base.operationId
  nickname : derived.nickname = base.nickname
  summary : derived.summary = base.summary
  notes : derived.notes = base.notes
  parameters : derived.parameters = base.parameters
  responses : derived.responses = base.responses
  successfulResponse : derived.successfulResponse = base.successfulResponse
  examples : base.examples = derived.examples.filter (·.contentType == "application/json")

structure DerivedGroup (base derived : OperationGroup) : Prop where
  baseName : derived.baseName = base.baseName
  className : derived.className = base.className
  operations : List.Forall₂ DerivedOperation base.operations derived.operations

structure DerivedApi (base derived : Api) : Prop where
  header : derived.header = base.header
  models : derived.models = base.models
  groups : List.Forall₂ DerivedGroup base.groups derived.groups

structure DerivedRun (base derived : Run) : Prop where
  api : ∃ b d, base.api = some b ∧ derived.api = some d ∧ DerivedApi b d
  diagnostics : derived.diagnostics = base.diagnostics
  anonymous : derived.anonymous = base.anonymous

/-- The outcome of the derived profile beside that of its base. -/
inductive Follows : Except Failure Run → Except Failure Run → Prop
  | failed (failure : Failure) : Follows (.error failure) (.error failure)
  | finished {base derived : Run} (h : DerivedRun base derived) : Follows (.ok base) (.ok derived)

/-! ### Operations changed before they are grouped -/

section Tables

variable {α : Type}

lemma get?_map_values (f : α → α) (entries : Entries α) (key : String) :
    Entries.get? (entries.map (Prod.map id f)) key = (entries.get? key).map f := by
  simp only [Entries.get?, List.find?_map, Option.map_map]
  rfl

lemma put_map_values (f : α → α) (entries : Entries α) (key : String) (value : α) :
    Entries.put (entries.map (Prod.map id f)) key (f value) =
      (entries.put key value).map (Prod.map id f) := by
  induction entries with
  | nil => rfl
  | cons e rest ih =>
    obtain ⟨k, v⟩ := e
    rw [List.map_cons, Prod.map_apply, id_eq, Entries.put, Entries.put]
    split
    · rfl
    · rw [List.map_cons, ih, Prod.map_apply, id_eq]

/-- A group with every operation changed. -/
def mapOperations (f : Operation → Operation) (g : OperationGroup) : OperationGroup :=
  { g with operations := g.operations.map f }

def mapTable (f : Operation → Operation) (table : GroupTable) : GroupTable :=
  { table with groups := table.groups.map (Prod.map id (mapOperations f)) }

variable {f : Operation → Operation}

/-- A change that keeps segments may be made before or after an operation is put into its group. -/
lemma add_mapTable (hf : ∀ o, (f o).segment = o.segment) (table : GroupTable) (o : Operation) :
    (mapTable f table).add p t (f o) = mapTable f (table.add p t o) := by
  have hgroup : (mapTable f table).group p t o.segment =
      Prod.map (mapOperations f) id (table.group p t o.segment) := by
    unfold GroupTable.group
    simp only [mapTable, get?_map_values]
    cases Entries.get? table.groups o.segment <;> rfl
  have hadd : ∀ g : OperationGroup,
      ({ mapOperations f g with operations := (mapOperations f g).operations ++ [f o] } :
        OperationGroup) = mapOperations f { g with operations := g.operations ++ [o] } := by
    intro g
    simp [mapOperations]
  simp only [GroupTable.add, hf, hgroup, Prod.map_fst, Prod.map_snd, id_eq, hadd]
  simp only [mapTable, put_map_values]

lemma groupOperations_map (hf : ∀ o, (f o).segment = o.segment) (operations : List Operation)
    (anonymous : AnonymousNames) :
    groupOperations p t (operations.map f) anonymous =
      mapTable f (groupOperations p t operations anonymous) := by
  unfold groupOperations
  rw [List.foldl_map]
  have hempty : ({ anonymous } : GroupTable) = mapTable f { anonymous } := rfl
  rw [hempty]
  exact List.foldl_hom (mapTable f) (add_mapTable hf)

end Tables

/-! ### Tables that the two profiles share -/

lemma swift_mem : Swift.profile ∈ Registry.builtin.profiles := mem_builtin_iff.2 (.inl rfl)

lemma moya_mem : Moya.profile ∈ Registry.builtin.profiles := mem_builtin_iff.2 (.inr (.inl rfl))

/-- A target with the syntax of paths, the folders and the supporting files of other tables. -/
def rebased (t : Target) (s : ProfileSpec) : Target :=
  { t with spec := { t.spec with path := s.path, layout := s.layout, manifest := s.manifest } }

lemma configure_moya (c : Config) :
    Moya.profile.configure c = rebased (Swift.profile.configure c) (Moya.profile.configure c).spec := by
  simp only [Moya.profile, Swift.profile, Moya.configure, Swift.configure, Moya.spec, rebased]

/-- A built operation of the base as the derived profile builds it. -/
def deriveOperation (path : PathSyntax) (o : Operation) : Operation :=
  { o with path := some (path.normalize id o.rawPath), operationId := initialCaps o.operationId }

lemma initialCaps_eq_empty_iff (name : String) : initialCaps name = "" ↔ name = "" := by
  rw [initialCaps, String.ofList_eq_empty_iff, ← String.toList_eq_nil_iff]
  cases name.toList with
  | nil => simp [capitalize]
  | cons ch rest => simp [capitalize, upper_ne_nil]

section

variable {s : ProfileSpec}

lemma refusal?_derived (site : OperationSite) :
    site.refusal? Moya.profile (rebased t s) = site.refusal? Swift.profile t := by
  have hname : (Moya.profile.operationName (rebased t s) (declaredId site)).isEmpty =
      (Swift.profile.operationName t (declaredId site)).isEmpty := by
    rw [Bool.eq_iff_iff, String.isEmpty_iff, String.isEmpty_iff]
    exact initialCaps_eq_empty_iff _
  rw [refusal?_eq, refusal?_eq, hname]
  rfl

lemma accepted_derived_iff {site : OperationSite} :
    Accepted Moya.profile (rebased t s) site ↔ Accepted Swift.profile t site := by
  rw [← refusal?_eq_none_iff, refusal?_derived, refusal?_eq_none_iff]

lemma refused_derived_iff {site : OperationSite} {failure : Failure} :
    Refused Moya.profile (rebased t s) site failure ↔ Refused Swift.profile t site failure := by
  rw [← refusal?_eq_some_iff, refusal?_derived, refusal?_eq_some_iff]

/-- The derived profile puts the operations of its base, changed one by one, into the same groups. -/
lemma groupOperations_derived :
    groupOperations Moya.profile (rebased t s) (d.sites.map (.build Moya.profile (rebased t s))) {} =
      mapTable (deriveOperation s.path)
        (groupOperations Swift.profile t (d.sites.map (.build Swift.profile t)) {}) := by
  have hbuild : d.sites.map (Operation.build Moya.profile (rebased t s)) =
      (d.sites.map (Operation.build Swift.profile t)).map (deriveOperation s.path) := by
    rw [List.map_map]
    rfl
  -- groups are opened under the same names
  have hnames : ∀ operations anonymous,
      groupOperations Moya.profile (rebased t s) operations anonymous =
        groupOperations Swift.profile t operations anonymous := fun _ _ => rfl
  have hsegment : ∀ o, (deriveOperation s.path o).segment = o.segment := fun _ => rfl
  rw [hbuild, hnames, groupOperations_map hsegment]

/-! ### The two finished runs -/

lemma header_finishedApi (p : Profile) (t : Target) (d : Document) :
    (finishedApi p t d).header = d.header := rfl

lemma finishedModel_derived (name : String) (schema : Schema) :
    finishedModel Moya.profile (rebased t s) name schema =
      finishedModel Swift.profile t name schema := rfl

lemma derivedOperation_finished (resource resource' : Option String) (o : Operation) :
    DerivedOperation (finishedOperation Swift.profile t resource o)
      (finishedOperation Moya.profile (rebased t s) resource' (deriveOperation s.path o)) := by
  constructor
  case examples =>
    have hjson : (finishedOperation Swift.profile t resource o).examples =
        (o.examples.filter (·.contentType == "application/json")).map
          fun e => { e with text := oneLine e.text } := rfl
    have hall : (finishedOperation Moya.profile (rebased t s) resource'
        (deriveOperation s.path o)).examples =
        (o.examples.filter fun _ => true).map fun e => { e with text := oneLine e.text } := rfl
    rw [hjson, hall, List.filter_true, List.filter_map]
    rfl
  all_goals rfl

lemma derivedGroup_finished (g : OperationGroup) :
    DerivedGroup (finishedGroup Swift.profile t g)
      (finishedGroup Moya.profile (rebased t s) (mapOperations (deriveOperation s.path) g)) := by
  refine ⟨rfl, rfl, ?_⟩
  simp only [finishedGroup, mapOperations, List.map_map, List.forall₂_map_left_iff,
    List.forall₂_map_right_iff]
  exact List.forall₂_same.2 fun o _ => derivedOperation_finished _ _ o

lemma derivedApi_finished :
    DerivedApi (finishedApi Swift.profile t d) (finishedApi Moya.profile (rebased t s) d) := by
  refine ⟨(header_finishedApi ..).trans (header_finishedApi ..).symm, ?_, ?_⟩
  · rw [finishedApi_models, finishedApi_models]
    exact List.map_congr_left fun e _ => finishedModel_derived e.1 e.2
  · have hgroups : builtGroups Moya.profile (rebased t s) d =
        (builtGroups Swift.profile t d).map (Prod.map id (mapOperations (deriveOperation s.path))) :=
      congrArg GroupTable.groups groupOperations_derived
    rw [finishedApi_groups swift_mem, finishedApi_groups moya_mem, hgroups]
    simp only [List.map_map, List.forall₂_map_left_iff, List.forall₂_map_right_iff]
    exact List.forall₂_same.2 fun e _ => derivedGroup_finished e.2

lemma finishedDiagnostics_derived :
    finishedDiagnostics Moya.profile (rebased t s) d = finishedDiagnostics Swift.profile t d := by
  unfold finishedDiagnostics
  rw [groupDiagnostics_built, groupDiagnostics_built, identifyDiagnostics_builtApi moya_mem,
    identifyDiagnostics_builtApi swift_mem, derivedApi_finished.models]
  rfl

end

/-- Deriving a client from another gives it other method names, paths and examples, and nothing else:
its runs fail where the runs of the base fail, and in the same way, and when they succeed each
operation, group and model stands where it stands in the base. -/
theorem moya_follows_swift (d : Document) (c : Config) :
    Follows (generate Swift.profile d c) (generate Moya.profile d c) := by
  cases hbase : generate Swift.profile d c with
  | error failure =>
    obtain ⟨before, site, after, hd, hbefore, hrefused⟩ := generate_eq_error_iff.1 hbase
    have hsame : generate Moya.profile d c = .error failure := by
      refine generate_of_refused hd ?_ ?_
      · intro b hb
        rw [configure_moya]
        exact accepted_derived_iff.2 (hbefore b hb)
      · rw [configure_moya]
        exact refused_derived_iff.2 hrefused
    rw [hsame]
    exact .failed failure
  | ok run =>
    obtain ⟨haccepted, rfl⟩ := generate_eq_ok_iff.1 hbase
    have hsame : generate Moya.profile d c = .ok (finishedRun Moya.profile d c) := by
      refine generate_of_accepted fun site hsite => ?_
      rw [configure_moya]
      exact accepted_derived_iff.2 (haccepted site hsite)
    rw [hsame]
    refine .finished ⟨⟨_, _, rfl, rfl, ?_⟩, ?_, ?_⟩
    · rw [configure_moya]
      exact derivedApi_finished
    · simp only [finishedRun]
      rw [configure_moya]
      exact finishedDiagnostics_derived
    · simp only [finishedRun]
      rw [configure_moya, groupOperations_derived]
      rfl

end ClientGen.Proofs
