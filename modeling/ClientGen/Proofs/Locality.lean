import ClientGen.Proofs.FinishedModels
import ClientGen.Proofs.ResourcePaths

/-!
# Locality

A run shares state between its entities: groups are opened as operations come, groups without a name
are numbered, and a group takes its resource path from whichever of its operations is first. None of
this reaches a model or an operation. Each is a function of its own declaration, so two documents that
agree on one declaration agree on what becomes of it.
-/

namespace ClientGen.Proofs

variable {p : Profile} {d d' : Document} {c : Config}

/-! ### Looking something up -/

section Lists

variable {α κ : Type} [BEq κ] [LawfulBEq κ]

lemma findSome?_key {k₀ : κ} {r : Option α} {keys : List κ} (h : r ≠ none → k₀ ∈ keys) :
    (keys.findSome? fun k => if k == k₀ then r else none) = r := by
  cases r with
  | none => simp
  | some a =>
    have hmem : k₀ ∈ keys := h (Option.some_ne_none a)
    induction keys with
    | nil => cases hmem
    | cons k rest ih =>
      by_cases hk : k = k₀
      · simp [hk]
      · have hrest : k₀ ∈ rest := (List.mem_cons.1 hmem).resolve_left (Ne.symm hk)
        simpa [hk] using ih (fun _ => hrest) hrest

/-- Sorting a list by its keys keeps the first of the elements that a test admits, if the test admits
elements of one key only. -/
lemma find?_sorted_by_key {f : α → κ} {k₀ : κ} {q : α → Bool} (hq : ∀ x, q x = true → f x = k₀)
    (xs : List α) :
    ((xs.map f).eraseDups.flatMap fun k => xs.filter (f · == k)).find? q = xs.find? q := by
  have hkey : ∀ k, (xs.filter (f · == k)).find? q = if k == k₀ then xs.find? q else none := by
    intro k
    rw [List.find?_filter]
    by_cases hk : k = k₀
    · subst hk
      rw [if_pos (beq_self_eq_true k)]
      congr 1
      funext x
      cases hx : q x
      · simp
      · simp [hq x hx]
    · rw [if_neg (by simpa using hk), List.find?_eq_none]
      simp only [decide_eq_true_eq, not_and, beq_iff_eq]
      rintro x - rfl hx
      exact hk (hq x hx)
  rw [List.find?_flatMap]
  simp only [hkey]
  apply findSome?_key
  intro hsome
  obtain ⟨x, hx⟩ := Option.ne_none_iff_exists'.1 hsome
  rw [List.mem_eraseDups, ← hq x (List.find?_some hx)]
  exact List.mem_map_of_mem (List.mem_of_find?_eq_some hx)

end Lists

/-! ### Models -/

lemma model?_finishedApi (hp : p ∈ Registry.builtin.profiles) {t : Target} (name : String) :
    (finishedApi p t d).model? name = (d.definitions.get? name).map (finishedModel p t name) := by
  have hname : ((·.name == name) ∘ fun e : String × Schema => finishedModel p t e.1 e.2) =
      fun e => e.1 == name := by
    funext e
    rw [Function.comp_apply, (finishedModel_fields hp e.1 e.2).1]
  rw [Api.model?, finishedApi_models, List.find?_map, hname, Entries.get?, Option.map_map]
  cases he : d.definitions.find? (·.1 == name) with
  | none => rfl
  | some e =>
    have hkey : e.1 = name := by simpa using List.find?_some he
    rw [Option.map_some, Option.map_some, Function.comp_apply, hkey]

/-! ### Operations -/

/-- What a document declares under a method of a path, with the parameters that the path shares. -/
def Declares (d : Document) (path : String) (shared : List ParameterDecl) (method : HttpMethod)
    (decl : OperationDecl) : Prop :=
  ∃ item, d.paths.get? path = some item ∧ item.parameters = shared ∧
    item.operation? method = some decl

def operation? (api : Api) (path : String) (method : HttpMethod) : Option Operation :=
  api.operations.find? fun o => o.rawPath == path && o.method == method

/-- An operation after all phases, from what its path declares. The resource path of its group is
that of its own path. -/
def localOperation (p : Profile) (t : Target) (path : String) (shared : List ParameterDecl)
    (method : HttpMethod) (decl : OperationDecl) : Operation :=
  finishedOperation p t (some ("/" ++ p.normalizePath t (resourceSegment path)))
    (.build p t { path, item := { parameters := shared }, method, decl })

abbrev siteOperation (p : Profile) (t : Target) (site : OperationSite) : Operation :=
  localOperation p t site.path site.item.parameters site.method site.decl

/-- The operations of a finished run group by group, each made from its own site. -/
lemma finishedApi_operations (hp : p ∈ Registry.builtin.profiles) :
    (finishedApi p (p.configure c) d).operations =
      ((d.sites.map fun site => resourceSegment site.path).eraseDups.flatMap fun segment =>
        d.sites.filter fun site => resourceSegment site.path == segment).map
          (siteOperation p (p.configure c)) := by
  obtain ⟨rename, hnormalize, hfree⟩ := slashFree_builtin hp c
  have hsites : ∀ segment, (d.sites.map (Operation.build p (p.configure c))).filter
      (·.segment == segment) =
        (d.sites.filter fun site => resourceSegment site.path == segment).map
          (.build p (p.configure c)) := fun segment => List.filter_map
  -- the first operation of a group gives the resource path, but all of them share its segment
  have hgroup : ∀ e ∈ builtGroups p (p.configure c) d,
      (finishedGroup p (p.configure c) e.2).operations =
        (d.sites.filter fun site => resourceSegment site.path == e.1).map
          (siteOperation p (p.configure c)) := by
    rintro ⟨segment, g⟩ hg
    rw [finishedGroup, groupResource_built hnormalize hfree hg, ← hnormalize,
      grouped_built.members segment g hg, hsites, List.map_map]
    apply List.map_congr_left
    intro site hsite
    rw [← beq_iff_eq.1 (List.mem_filter.1 hsite).2]
    rfl
  have hkeys : (builtGroups p (p.configure c) d).map (·.1) =
      (d.sites.map fun site => resourceSegment site.path).eraseDups := by
    have hbuilt := (grouped_built (p := p) (t := p.configure c) (d := d)).keys
    rw [List.map_map] at hbuilt
    exact hbuilt
  rw [Api.operations, finishedApi_groups hp, List.flatMap_map, List.flatMap_congr hgroup,
    List.map_flatMap, ← hkeys, List.flatMap_map]

lemma find?_operations (item : PathItem) (method : HttpMethod) :
    item.operations.find? (·.1 == method) = (item.operation? method).map (method, ·) := by
  have htest : (fun m => ((item.operation? m).map (m, ·)).any (·.1 == method)) =
      fun m => m == method && (item.operation? method).isSome := by
    funext m
    by_cases hm : m = method
    · subst hm
      cases item.operation? m <;> simp
    · have hne : (m == method) = false := by simpa using hm
      cases item.operation? m <;> simp [hne]
  -- a path item is visited once with each method
  have hvisit : ∀ declared : Bool, HttpMethod.all.find? (fun m => m == method && declared) =
      if declared then some method else none := by
    cases method <;> decide
  rw [PathItem.operations, List.find?_filterMap, htest, hvisit]
  cases hdecl : item.operation? method with
  | none => rfl
  | some decl => simp [hdecl]

/-- The first site of a path and a method is the declared one. -/
lemma Declares.find?_sites {path : String} {shared : List ParameterDecl} {method : HttpMethod}
    {decl : OperationDecl} (h : Declares d path shared method decl) :
    ∃ item, item.parameters = shared ∧
      d.sites.find? (fun site => site.path == path && site.method == method) =
        some { path, item, method, decl } := by
  obtain ⟨item, hitem, hshared, hdecl⟩ := h
  refine ⟨item, hshared, ?_⟩
  rw [Document.sites]
  generalize d.paths = paths at hitem
  induction paths with
  | nil => cases hitem
  | cons e rest ih =>
    obtain ⟨key, value⟩ := e
    rw [List.flatMap_cons, List.find?_append, List.find?_map]
    by_cases hkey : key = path
    · obtain rfl : value = item := by simpa [Entries.get?, hkey] using hitem
      have htest : ((fun site : OperationSite => site.path == path && site.method == method) ∘
          fun e : HttpMethod × OperationDecl => ⟨key, value, e.1, e.2⟩) = (·.1 == method) := by
        funext e
        simp [hkey]
      rw [htest, find?_operations, hdecl, hkey]
      rfl
    · have hrest : Entries.get? rest path = some item := by simpa [Entries.get?, hkey] using hitem
      have htest : ((fun site : OperationSite => site.path == path && site.method == method) ∘
          fun e : HttpMethod × OperationDecl => ⟨key, value, e.1, e.2⟩) = fun _ => false := by
        funext e
        simp [hkey]
      have hnone : value.operations.find? (fun _ => false) = none := by simp
      rw [htest, hnone, Option.map_none, Option.none_or, ih hrest]

/-- What becomes of a declared operation is a function of its declaration. -/
lemma Declares.operation?_eq (hp : p ∈ Registry.builtin.profiles) {path : String}
    {shared : List ParameterDecl} {method : HttpMethod} {decl : OperationDecl}
    (h : Declares d path shared method decl) :
    operation? (finishedApi p (p.configure c) d) path method =
      some (localOperation p (p.configure c) path shared method decl) := by
  obtain ⟨item, rfl, hsite⟩ := h.find?_sites
  have hsegment : ∀ site : OperationSite, (site.path == path && site.method == method) = true →
      resourceSegment site.path = resourceSegment path := by
    intro site hsite
    rw [beq_iff_eq.1 (Bool.and_eq_true_iff.1 hsite).1]
  have htest : (fun o : Operation => o.rawPath == path && o.method == method) ∘
      siteOperation p (p.configure c) =
        fun site => site.path == path && site.method == method := rfl
  rw [operation?, finishedApi_operations hp, List.find?_map, htest,
    find?_sorted_by_key hsegment, hsite]
  rfl

/-- Two runs with one profile and one configuration give the same model to a definition that both
documents hold, and the same operation to a declaration that stands at one path and method of both,
whatever else there is in the two documents. -/
theorem local_of_runs (hp : p ∈ Registry.builtin.profiles) {run run' : Run}
    (h : generate p d c = .ok run) (h' : generate p d' c = .ok run') :
    ∃ api api', run.api = some api ∧ run'.api = some api' ∧
      (∀ name s, d.definitions.get? name = some s → d'.definitions.get? name = some s →
        ∃ m, api.model? name = some m ∧ api'.model? name = some m) ∧
      ∀ path shared method decl, Declares d path shared method decl →
        Declares d' path shared method decl →
        ∃ o, operation? api path method = some o ∧ operation? api' path method = some o := by
  obtain ⟨-, rfl⟩ := generate_eq_ok_iff.1 h
  obtain ⟨-, rfl⟩ := generate_eq_ok_iff.1 h'
  refine ⟨finishedApi p (p.configure c) d, finishedApi p (p.configure c) d', rfl, rfl,
    fun name s hs hs' => ?_, fun path shared method decl ho ho' => ?_⟩
  · refine ⟨finishedModel p (p.configure c) name s, ?_, ?_⟩
    · rw [model?_finishedApi hp, hs, Option.map_some]
    · rw [model?_finishedApi hp, hs', Option.map_some]
  · exact ⟨_, ho.operation?_eq hp, ho'.operation?_eq hp⟩

def pet : Schema where
  properties := [("id", { kind := some "integer" }), ("name", { kind := some "string" })]
  required := ["name"]

def petId : ParameterDecl := { name := "pet_id", place := "path", kind := some "string" }

/-- The group of the pets is opened by one pet. -/
def petsById : Document where
  definitions := [("Pet", pet)]
  paths := [("/pets/{pet_id}", { parameters := [petId], get := some { id := some "find" } })]

/-- The group of the pets is opened by all of them, after a group without a name. -/
def petsByOwner : Document where
  definitions := [("Owner", { properties := [("pet", { reference := some "Pet" })] }), ("Pet", pet)]
  paths :=
    [("/{owner}", { get := some { id := some "owner" } }),
     ("/pets", { post := some { id := some "create" } }),
     ("/pets/{pet_id}",
      { parameters := [petId], get := some { id := some "find" }, put := some { id := some "upsert" } })]

theorem local_of_runs_pets :
    generate LoopBack.profile petsById dataApi =
        .ok (finishedRun LoopBack.profile petsById dataApi) ∧
      generate LoopBack.profile petsByOwner dataApi =
        .ok (finishedRun LoopBack.profile petsByOwner dataApi) ∧
      ∃ api api', (finishedRun LoopBack.profile petsById dataApi).api = some api ∧
        (finishedRun LoopBack.profile petsByOwner dataApi).api = some api' ∧
        (∃ m, api.model? "Pet" = some m ∧ api'.model? "Pet" = some m) ∧
        ∃ o, operation? api "/pets/{pet_id}" .get = some o ∧
          operation? api' "/pets/{pet_id}" .get = some o ∧ o.path = some "\\(petId)" := by
  -- both documents at once: the reserved words are the costly part of the check
  have haccepted : ∀ site ∈ petsById.sites ++ petsByOwner.sites,
      Accepted LoopBack.profile (LoopBack.profile.configure dataApi) site := by decide +kernel
  have hrun : generate LoopBack.profile petsById dataApi =
      .ok (finishedRun LoopBack.profile petsById dataApi) :=
    generate_of_accepted fun site hsite => haccepted site (List.mem_append_left _ hsite)
  have hrun' : generate LoopBack.profile petsByOwner dataApi =
      .ok (finishedRun LoopBack.profile petsByOwner dataApi) :=
    generate_of_accepted fun site hsite => haccepted site (List.mem_append_right _ hsite)
  obtain ⟨api, api', hapi, hapi', hmodels, hops⟩ :=
    local_of_runs (mem_builtin_iff.2 (by simp)) hrun hrun'
  obtain ⟨o, ho, ho'⟩ := hops "/pets/{pet_id}" [petId] .get { id := some "find" }
    ⟨_, rfl, rfl, rfl⟩ ⟨_, rfl, rfl, rfl⟩
  refine ⟨hrun, hrun', api, api', hapi, hapi', hmodels "Pet" pet rfl rfl, o, ho, ho', ?_⟩
  have hpath : (operation? api "/pets/{pet_id}" .get).map (·.path) = some (some "\\(petId)") := by
    obtain rfl := Option.some.inj hapi
    decide +kernel
  rw [ho, Option.map_some] at hpath
  exact Option.some.inj hpath

end ClientGen.Proofs
