import Mathlib.Data.List.Basic
import ClientGen.Proofs.Grouping
import ClientGen.Proofs.PathTemplates
import ClientGen.Proofs.PlaceholderNames

/-!
# Paths below a resource

Operations are grouped by a segment of the path in the document, the resource path of a group is
taken from a normalized path, and it is removed from the other normalized paths. These three agree:
the name of a placeholder stays without slashes, whatever the profile makes of it.
-/

namespace ClientGen.Proofs

/-! ### Built-in syntax -/

/-- Every built-in profile normalizes with slash-free syntax and names. -/
theorem slashFree_builtin {p : Profile} (hp : p ∈ Registry.builtin.profiles) (c : Config) :
    ∃ rename, p.normalizePath (p.configure c) = (p.configure c).spec.path.normalize rename ∧
      SlashFree (p.configure c).spec.path rename := by
  obtain ⟨hne, hbefore, hafter⟩ := path_builtin hp
  have hfree : ∀ rename : String → String,
      (∀ name : String, (∀ x ∈ name.toList, isPlaceholderChar x = true) →
        ∀ x ∈ (rename name).toList, isPlaceholderChar x = true) →
      SlashFree (p.configure c).spec.path rename := by
    intro rename hrename
    rw [path_configure hp]
    refine ⟨hne, hbefore, hafter, fun name h hslash => ?_⟩
    exact absurd (hrename name h _ hslash) (by decide)
  have hvar := hfree (p.configure c).varName fun _ hname =>
    (variableName_varName (marks_builtin hp c) hname).chars
  rcases mem_builtin_iff.1 hp with rfl | rfl | rfl | rfl
  · exact ⟨_, rfl, hvar⟩
  · exact ⟨id, rfl, hfree id fun _ h => h⟩
  · exact ⟨_, rfl, hvar⟩
  · exact ⟨_, rfl, hvar⟩

/-! ### Removing the resource -/

lemma resourcePathOf_eq {path : String} {cs : List Char} (hpath : path.toList = '/' :: cs)
    (hcs : cs.head? ≠ some '/') :
    resourcePathOf path = "/" ++ .ofList (cs.takeWhile (· != '/')) := by
  rw [resourcePathOf, hpath, List.dropWhile_cons_of_pos rfl, dropWhile_slash hcs]

/-- A path with one leading slash is its resource or lies below it. -/
lemma below_resource {path : String} {cs : List Char} (hpath : path.toList = '/' :: cs)
    (hcs : cs.head? ≠ some '/') :
    path = resourcePathOf path ∨ ∃ rest, path = resourcePathOf path ++ "/" ++ rest := by
  rw [resourcePathOf_eq hpath hcs]
  rcases slash_cases cs with hfree | ⟨before, after, hfree, rfl⟩
  · left
    rw [takeWhile_of_slash_notMem hfree, ← String.toList_inj, hpath]
    simp
  · right
    refine ⟨.ofList after, ?_⟩
    rw [takeWhile_append_slash hfree, ← String.toList_inj, hpath]
    simp

lemma stripResourcePath_self (resource : String) : stripResourcePath resource resource = none := by
  have hself : resource.toList.isPrefixOf? resource.toList = some [] := by
    rw [List.isPrefixOf?_eq_some_iff_append_eq, List.append_nil]
  rw [stripResourcePath, hself]

lemma stripResourcePath_below (resource rest : String) :
    stripResourcePath resource (resource ++ "/" ++ rest) =
      if rest = "" then none else some rest := by
  have hbelow : resource.toList.isPrefixOf? (resource ++ "/" ++ rest).toList =
      some ('/' :: rest.toList) := by
    rw [List.isPrefixOf?_eq_some_iff_append_eq]
    simp
  rw [stripResourcePath, hbelow]
  by_cases hrest : rest = ""
  · subst hrest
    rfl
  · have hne : rest.toList ≠ [] := by simpa using hrest
    rw [if_neg hrest]
    cases hcs : rest.toList with
    | nil => exact absurd hcs hne
    | cons c cs => simp [← hcs]

/-- What remains of a path that is its resource or lies below it: nothing is lost but one slash at
the end. -/
lemma stripResourcePath_spec {resource path : String}
    (h : path = resource ∨ ∃ rest, path = resource ++ "/" ++ rest) :
    (stripResourcePath resource path = none ↔ path = resource ∨ path = resource ++ "/") ∧
      ∀ rest, stripResourcePath resource path = some rest →
        rest ≠ "" ∧ path = resource ++ "/" ++ rest := by
  rcases h with rfl | ⟨rest, rfl⟩
  · rw [stripResourcePath_self]
    simp
  · rw [stripResourcePath_below]
    by_cases hrest : rest = ""
    · simp [hrest]
    · have hself : resource ++ "/" ++ rest ≠ resource := by
        intro heq
        have hlength := congrArg String.length heq
        have hslash : "/".length = 1 := by decide
        rw [String.length_append, String.length_append] at hlength
        omega
      simp [hrest, hself]

/-! ### Groups of a finished run -/

section

variable {p : Profile} {t : Target} {d : Document} {c : Config}

/-- The resource path of a group, whichever of its operations comes first. -/
lemma groupResource_built {s : PathSyntax} {rename : String → String}
    (hnormalize : p.normalizePath t = s.normalize rename) (hfree : SlashFree s rename)
    {segment : String} {g : OperationGroup} (hg : (segment, g) ∈ builtGroups p t d) :
    groupResource g = some ("/" ++ s.normalize rename segment) := by
  obtain ⟨o, rest, hops⟩ := List.exists_cons_of_ne_nil (grouped_built.operations_ne_nil hg)
  have ho : o ∈ g.operations := by
    rw [hops]
    exact List.mem_cons_self
  obtain ⟨site, -, hsegment, rfl⟩ := exists_site_of_mem_built hg ho
  rw [groupResource, hops, List.head?_cons, Option.bind_some, Operation.build, Option.map_some,
    hnormalize, hfree.resourcePathOf_normalize, hsegment]

lemma finishedOperation_path {resource path : String} {o : Operation} (ho : o.path = some path)
    (hs : t.spec.stripResourcePath = true) :
    (finishedOperation p t (some resource) o).path = stripResourcePath resource path := by
  simp only [finishedOperation, Operation.embedExamples, Operation.settle, ho, hs, if_true]

/-- With paths relative to their resource, the resource path of a group is that of each of its
operations, and every path with one leading slash is the resource path and what remains of it: it
loses nothing but a slash at its end. -/
theorem stripped_paths (hp : p ∈ Registry.builtin.profiles) {run : Run}
    (h : generate p d c = .ok run) (hs : (p.configure c).spec.stripResourcePath = true) :
    ∃ api, run.api = some api ∧ ∀ g ∈ api.groups, ∃ resource, g.resourcePath = some resource ∧
      ∀ o ∈ g.operations,
        resourcePathOf (p.normalizePath (p.configure c) o.rawPath) = resource ∧
        ∀ cs, o.rawPath.toList = '/' :: cs → cs.head? ≠ some '/' →
          ∃ ns, (p.normalizePath (p.configure c) o.rawPath).toList = '/' :: ns ∧
            resource = "/" ++ .ofList (ns.takeWhile (· != '/')) ∧
            (o.path = none ↔
              p.normalizePath (p.configure c) o.rawPath = resource ∨
              p.normalizePath (p.configure c) o.rawPath = resource ++ "/") ∧
            ∀ rest, o.path = some rest →
              rest ≠ "" ∧
              p.normalizePath (p.configure c) o.rawPath = resource ++ "/" ++ rest := by
  obtain ⟨-, rfl⟩ := generate_eq_ok_iff.1 h
  obtain ⟨rename, hnormalize, hfree⟩ := slashFree_builtin hp c
  refine ⟨finishedApi p (p.configure c) d, rfl, fun g hg => ?_⟩
  rw [finishedApi_groups hp] at hg
  obtain ⟨⟨segment, g⟩, hmem, rfl⟩ := List.mem_map.1 hg
  have hresource := groupResource_built hnormalize hfree hmem
  refine ⟨_, hresource, fun o ho => ?_⟩
  obtain ⟨built, hbuilt, rfl⟩ := List.mem_map.1 ho
  obtain ⟨site, -, hsegment, rfl⟩ := exists_site_of_mem_built hmem hbuilt
  have hown : resourcePathOf (p.normalizePath (p.configure c) site.path) =
      "/" ++ (p.configure c).spec.path.normalize rename segment := by
    rw [hnormalize, hfree.resourcePathOf_normalize, hsegment]
  refine ⟨hown, fun cs hcs hhead => ?_⟩
  have hpath : (p.normalizePath (p.configure c) site.path).toList =
      '/' :: normalized (p.configure c).spec.path rename cs := by
    rw [hnormalize, normalize_eq, String.toList_ofList, ← normalized_slash, ← hcs]
    rfl
  have hone := hfree.head_normalized_ne hhead
  have hbelow := below_resource hpath hone
  rw [hown] at hbelow
  refine ⟨_, hpath, hown.symm.trans (resourcePathOf_eq hpath hone), ?_⟩
  rw [hresource, finishedOperation_path rfl hs]
  exact stripResourcePath_spec hbelow

/-- Operations on a resource, on parts of it and on the resource with a slash at the end. -/
def petPaths : Document where
  paths :=
    [("/pets/{pet_id}", { get := some { id := some "find" } }),
     ("/pets", { post := some { id := some "create" } }),
     ("/pets/", { put := some { id := some "upsert" } })]

def dataApi : Config := .ofEntries [(LoopBack.dataOption, .bool true)]

theorem stripped_paths_pets :
    generate LoopBack.profile petPaths dataApi =
        .ok (finishedRun LoopBack.profile petPaths dataApi) ∧
      (LoopBack.profile.configure dataApi).spec.stripResourcePath = true ∧
      ∃ api, (finishedRun LoopBack.profile petPaths dataApi).api = some api ∧
        (api.operations.map (·.path)) = [some "\\(petId)", none, none] ∧
        ∀ g ∈ api.groups, ∃ resource, g.resourcePath = some resource ∧
          ∀ o ∈ g.operations,
            resourcePathOf (LoopBack.profile.normalizePath (LoopBack.profile.configure dataApi)
              o.rawPath) = resource := by
  have hrun : generate LoopBack.profile petPaths dataApi =
      .ok (finishedRun LoopBack.profile petPaths dataApi) := generate_of_accepted (by decide +kernel)
  have hp : LoopBack.profile ∈ Registry.builtin.profiles := mem_builtin_iff.2 (by simp)
  have hs : (LoopBack.profile.configure dataApi).spec.stripResourcePath = true :=
    (stripResourcePath_builtin_iff hp dataApi).2 (by decide +kernel)
  obtain ⟨api, hapi, hgroups⟩ := stripped_paths hp hrun hs
  refine ⟨hrun, hs, api, hapi, ?_, fun g hg => ?_⟩
  · obtain rfl := Option.some.inj hapi
    decide +kernel
  · obtain ⟨resource, hresource, hops⟩ := hgroups g hg
    exact ⟨resource, hresource, fun o ho => (hops o ho).1⟩

end

end ClientGen.Proofs
