import ClientGen.Proofs.MethodNames
import ClientGen.Proofs.VariableNames

/-!
# Summaries of groups

A group tells which of the usual methods of a data model it has. The summary is read off the method
names of its operations, not off the ids in the document. Most profiles give an operation with a
usual id the method of that name, so its flag is set; Moya gives every method a capital in front, so
no group of it has a flag at all.
-/

namespace ClientGen.Proofs

open Unicode Identifier

variable {p : Profile} {t : Target} {d : Document} {c : Config}

/-- The methods that a summary knows. -/
inductive UsualMethod
  | create
  | upsert
  | find
  | findOne
  | findById
  | count
  | deleteById
deriving DecidableEq

namespace UsualMethod

def name : UsualMethod → String
  | create => "create"
  | upsert => "upsert"
  | find => "find"
  | findOne => "findOne"
  | findById => "findById"
  | count => "count"
  | deleteById => "deleteById"

/-- The flag of the method in a summary. -/
def noted : UsualMethod → GroupSummary → Bool
  | create => (·.hasCreate)
  | upsert => (·.hasUpsert)
  | find => (·.hasFind)
  | findOne => (·.hasFindOne)
  | findById => (·.hasFindById)
  | count => (·.hasCount)
  | deleteById => (·.hasDeleteById)

lemma isCamelName_name (u : UsualMethod) : isCamelName u.name = true := by
  cases u <;> decide

/-! ### Flags and method names -/

/-- An operation sets the flag of its own method and leaves the others alone. -/
lemma noted_note (u : UsualMethod) (s : GroupSummary) (o : Operation) :
    u.noted (s.note o) = (u.noted s || o.operationId == u.name) := by
  unfold GroupSummary.note
  split <;> cases u <;> simp_all [noted, name]

lemma noted_foldl (u : UsualMethod) (operations : List Operation) (s : GroupSummary) :
    u.noted (operations.foldl .note s) =
      (u.noted s || operations.any (·.operationId == u.name)) := by
  induction operations generalizing s with
  | nil => simp
  | cons o rest ih => rw [List.foldl_cons, ih, noted_note, List.any_cons, Bool.or_assoc]

lemma noted_summarize (u : UsualMethod) (operations : List Operation) :
    u.noted (summarize t operations) = operations.any (·.operationId == u.name) := by
  rw [summarize, noted_foldl]
  cases u <;> rfl

/-- A finished group has the flag of a method just when one of its operations is that method. -/
lemma noted_finishedGroup_iff (u : UsualMethod) (g : OperationGroup) :
    u.noted (finishedGroup p t g).summary = true ↔
      ∃ o ∈ (finishedGroup p t g).operations, o.operationId = u.name := by
  have hsummary : (finishedGroup p t g).summary =
      summarize t (g.operations.map (.settle t (groupResource g))) := rfl
  have hoperations : (finishedGroup p t g).operations =
      g.operations.map (finishedOperation p t (groupResource g)) := rfl
  rw [hsummary, hoperations, noted_summarize, List.any_map, List.any_eq_true]
  simp only [Function.comp_apply, beq_iff_eq, List.mem_map, exists_exists_and_eq_and]
  rfl

end UsualMethod

/-! ### Methods named by the profile -/

/-- The profile that gives methods a capital in front. -/
def IsMoya (p : Profile) : Prop := p.name = Moya.profile.name

instance (p : Profile) : Decidable (IsMoya p) := inferInstanceAs (Decidable (_ = _))

/-- An id in camel case names its method, unless the profile gives methods a capital. -/
lemma operationName_of_isCamelName (hp : p ∈ Registry.builtin.profiles) (hn : ¬IsMoya p)
    {id : String} (h : isCamelName id = true) : p.operationName t id = id := by
  have hstem : operationName id = id := variableStem_of_isCamelName h
  rcases mem_builtin_iff.1 hp with rfl | rfl | rfl | rfl
  · exact hstem
  · exact absurd rfl hn
  · have hletters : ∀ ch ∈ id.toList, ch.isAlphanum = true :=
      List.all_eq_true.1 (Bool.and_eq_true_iff.1 h).2
    have hpart : LoopBack.profile.operationName t id =
        operationName (.ofList (LoopBack.lastSegment id.toList)) := rfl
    rw [hpart, lastSegment_of_isAlphanum hletters, String.ofList_toList, hstem]
  · exact hstem

/-- A name with a capital in front is not in camel case. -/
lemma isCamelName_initialCaps (name : String) : isCamelName (initialCaps name) = false := by
  rw [isCamelName, initialCaps, String.toList_ofList]
  cases name.toList with
  | nil => rfl
  | cons ch rest =>
    obtain ⟨first, tail, hupper⟩ := List.exists_cons_of_ne_nil (upper_ne_nil ch)
    have hfirst : first ∈ upper ch := hupper ▸ List.mem_cons_self
    rw [capitalize, hupper, List.cons_append, List.head?_cons, Option.any_some,
      isLower_of_mem_upper hfirst, Bool.false_and]

lemma operationId_ne_of_isMoya (hp : p ∈ Registry.builtin.profiles) (hn : IsMoya p) {o : Operation}
    (ho : o ∈ (finishedApi p t d).operations) (u : UsualMethod) : o.operationId ≠ u.name := by
  obtain ⟨site, -, -, hid⟩ := exists_site_of_mem hp ho
  have hcaps : p.operationName t (declaredId site) =
      initialCaps (operationName (declaredId site)) := by
    rcases mem_builtin_iff.1 hp with rfl | rfl | rfl | rfl
    · exact absurd hn (by decide)
    · rfl
    · exact absurd hn (by decide)
    · exact absurd hn (by decide)
  intro hname
  have hcamel := u.isCamelName_name
  rw [← hname, hid, hcaps, isCamelName_initialCaps] at hcamel
  cases hcamel

/-- In a finished run a group has the flag of a usual method just when one of its operations is named
so. Where the document gives an operation of the group such an id, the flag is set, unless the
profile gives methods a capital in front: then no flag is ever set. -/
theorem summaries_of_run (hp : p ∈ Registry.builtin.profiles) {run : Run}
    (h : generate p d c = .ok run) :
    ∃ api, run.api = some api ∧ ∀ g ∈ api.groups,
      (∀ o ∈ g.operations, ∃ site ∈ d.sites,
        o.rawPath = site.path ∧ o.method = site.method ∧ o.nickname = declaredId site) ∧
      ∀ u : UsualMethod,
        (u.noted g.summary = true ↔ ∃ o ∈ g.operations, o.operationId = u.name) ∧
        ((∃ o ∈ g.operations, o.nickname = u.name) → (u.noted g.summary = true ↔ ¬IsMoya p)) ∧
        (IsMoya p → u.noted g.summary = false) := by
  obtain ⟨-, rfl⟩ := generate_eq_ok_iff.1 h
  refine ⟨finishedApi p (p.configure c) d, rfl, fun g hg => ?_⟩
  have hmem : ∀ o ∈ g.operations, o ∈ (finishedApi p (p.configure c) d).operations :=
    fun o ho => List.mem_flatMap.2 ⟨g, hg, ho⟩
  refine ⟨fun o ho => ?_, fun u => ?_⟩
  · obtain ⟨site, hsite, resource, rfl⟩ := exists_site_of_mem_operations hp (hmem o ho)
    exact ⟨site, hsite, rfl, rfl, rfl⟩
  have hiff : u.noted g.summary = true ↔ ∃ o ∈ g.operations, o.operationId = u.name := by
    rw [finishedApi_groups hp] at hg
    obtain ⟨e, -, rfl⟩ := List.mem_map.1 hg
    exact u.noted_finishedGroup_iff e.2
  have hmoya : IsMoya p → u.noted g.summary = false := by
    intro hn
    rw [← Bool.not_eq_true, hiff]
    rintro ⟨o, ho, hname⟩
    exact operationId_ne_of_isMoya hp hn (hmem o ho) u hname
  refine ⟨hiff, ?_, hmoya⟩
  rintro ⟨o, ho, hnickname⟩
  constructor
  · intro hnoted hn
    rw [hmoya hn] at hnoted
    cases hnoted
  · intro hn
    obtain ⟨site, -, hdeclared, hid⟩ := exists_site_of_mem hp (hmem o ho)
    refine hiff.2 ⟨o, ho, ?_⟩
    rw [hid, ← hdeclared, hnickname, operationName_of_isCamelName hp hn u.isCamelName_name]

/-- Two operations with usual ids. -/
def usualIds : Document where
  paths :=
    [("/pets", { get := some { id := some "find" } }),
     ("/pets/count", { get := some { id := some "count" } })]

theorem summaries_of_run_usualIds :
    generate Moya.profile usualIds {} = .ok (finishedRun Moya.profile usualIds {}) ∧
      ∃ api, (finishedRun Moya.profile usualIds {}).api = some api ∧
        (api.operations.map fun o => (o.nickname, o.operationId)) =
          [("find", "Find"), ("count", "Count")] ∧
        ∀ g ∈ api.groups, ∀ u : UsualMethod, u.noted g.summary = false := by
  have hrun : generate Moya.profile usualIds {} = .ok (finishedRun Moya.profile usualIds {}) :=
    generate_of_accepted (by decide +kernel)
  obtain ⟨api, hapi, hgroups⟩ := summaries_of_run (mem_builtin_iff.2 (by simp)) hrun
  refine ⟨hrun, api, hapi, ?_, fun g hg u => ((hgroups g hg).2 u).2.2 rfl⟩
  obtain rfl := Option.some.inj hapi
  decide +kernel

end ClientGen.Proofs
