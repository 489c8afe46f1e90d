import Mathlib.Data.List.Basic
import Mathlib.Data.List.Induction
import ClientGen.Proofs.Entries
import ClientGen.Proofs.Profiles
import ClientGen.Proofs.Runs

/-!
# Groups of operations

Operations are put one after the other into the group of the first segment of their path. The table
that this builds is described by the operations alone: the segments in the order of their first
appearance, and under each of them its operations in order. Later phases change the groups and
their operations in place, so the description holds of a finished run too.
-/

namespace ClientGen.Proofs

variable {p : Profile} {t : Target} {d : Document} {c : Config}

section Lists

variable {α κ : Type} [BEq κ] [LawfulBEq κ]

/-- Sorting a list by its keys, in the order of their first appearance, loses and repeats nothing. -/
lemma flatMap_filter_eraseDups_perm (f : α → κ) (xs : List α) :
    ((xs.map f).eraseDups.flatMap fun k => xs.filter (f · == k)).Perm xs := by
  match xs with
  | [] => simp
  | x :: rest =>
    have ih := flatMap_filter_eraseDups_perm f (rest.filter fun y => !f y == f x)
    have hother : ∀ k ∈ ((rest.map f).filter fun k => !k == f x).eraseDups,
        (x :: rest).filter (f · == k) =
          (rest.filter fun y => !f y == f x).filter (f · == k) := by
      intro k hk
      obtain ⟨-, hne⟩ := List.mem_filter.1 (List.mem_eraseDups.1 hk)
      have hx : (f x == k) = false := by grind
      rw [List.filter_cons, hx, List.filter_filter]
      apply List.filter_congr
      intro y _
      by_cases hy : f y = k <;> grind
    have hmap : (rest.map f).filter (fun k => !k == f x) =
        (rest.filter fun y => !f y == f x).map f := by
      rw [List.filter_map]
      rfl
    rw [List.map_cons, List.eraseDups_cons, List.flatMap_cons, List.flatMap_congr hother, hmap]
    refine (List.Perm.append_left _ ih).trans ?_
    have hrest : (rest.filter fun y => !f y == f x) = (x :: rest).filter fun y => !f y == f x := by
      simp
    rw [hrest]
    exact List.filter_append_perm (f · == f x) (x :: rest)
termination_by xs.length
decreasing_by exact Nat.lt_succ_of_le (List.length_filter_le _ _)

end Lists

/-! ### The table of groups -/

/-- A table that has taken in these operations. -/
structure Grouped (table : GroupTable) (operations : List Operation) : Prop where
  keys : table.groups.keys = (operations.map (·.segment)).eraseDups
  distinct : table.groups.keys.Nodup
  members : ∀ segment group, (segment, group) ∈ table.groups →
    group.operations = operations.filter (·.segment == segment)

lemma Grouped.mem_keys_iff {table : GroupTable} {operations : List Operation}
    (h : Grouped table operations) {segment : String} :
    segment ∈ table.groups.keys ↔ ∃ o ∈ operations, o.segment = segment := by
  rw [h.keys, List.mem_eraseDups, List.mem_map]

/-- The group of a segment holds the operations of that segment, also when it is still to open. -/
lemma Grouped.operations_group {table : GroupTable} {operations : List Operation}
    (h : Grouped table operations) (segment : String) :
    (table.group p t segment).1.operations = operations.filter (·.segment == segment) := by
  unfold GroupTable.group
  split
  · rename_i group hg
    exact h.members segment group (mem_of_get?_eq_some hg)
  · rename_i hg
    have hnone : ∀ o ∈ operations, o.segment ≠ segment := by
      intro o ho hs
      exact get?_eq_none_iff.1 hg (h.mem_keys_iff.2 ⟨o, ho, hs⟩)
    rw [List.filter_eq_nil_iff.2 fun o ho => by simpa using hnone o ho]
    rfl

lemma groups_add (table : GroupTable) (o : Operation) :
    (table.add p t o).groups = table.groups.put o.segment
      { (table.group p t o.segment).1 with
        operations := (table.group p t o.segment).1.operations ++ [o] } := rfl

lemma Grouped.add {table : GroupTable} {operations : List Operation}
    (h : Grouped table operations) (o : Operation) :
    Grouped (table.add p t o) (operations ++ [o]) := by
  refine ⟨?_, Entries.nodup_keys_put h.distinct _ _, ?_⟩
  · rw [List.map_append, List.eraseDups_append, ← h.keys]
    simp only [groups_add, Entries.keys_put, List.map_cons, List.map_nil]
    by_cases hk : o.segment ∈ table.groups.keys
    · have hr : [o.segment].removeAll (operations.map (·.segment)) = [] :=
        List.filter_eq_nil_iff.2 (by simpa using h.mem_keys_iff.1 hk)
      rw [if_pos hk, hr, List.eraseDups_nil, List.append_nil]
    · have hr : [o.segment].removeAll (operations.map (·.segment)) = [o.segment] :=
        List.filter_eq_self.2 (by simpa using mt h.mem_keys_iff.2 hk)
      rw [if_neg hk, hr]
      rfl
  · intro segment group hg
    rw [groups_add, mem_put_iff h.distinct] at hg
    rcases hg with ⟨rfl, rfl⟩ | ⟨hne, hg⟩
    · have ho : [o].filter (·.segment == o.segment) = [o] := by simp
      rw [List.filter_append, ho, h.operations_group]
    · have ho : [o].filter (·.segment == segment) = [] := by simpa using Ne.symm hne
      rw [List.filter_append, ho, List.append_nil, h.members segment group hg]

theorem grouped_groupOperations (operations : List Operation) (anonymous : AnonymousNames) :
    Grouped (groupOperations p t operations anonymous) operations := by
  unfold groupOperations
  induction operations using List.reverseRec with
  | nil => exact ⟨rfl, List.nodup_nil, by simp⟩
  | append_singleton rest o ih =>
    rw [List.foldl_append]
    exact ih.add o

lemma Grouped.operations_ne_nil {table : GroupTable} {operations : List Operation}
    (h : Grouped table operations) {segment : String} {group : OperationGroup}
    (hg : (segment, group) ∈ table.groups) : group.operations ≠ [] := by
  obtain ⟨o, ho, hs⟩ := h.mem_keys_iff.1 (List.mem_map.2 ⟨_, hg, rfl⟩)
  rw [h.members segment group hg]
  exact List.ne_nil_of_mem (List.mem_filter.2 ⟨ho, by simpa using hs⟩)

lemma Grouped.map_operations {table : GroupTable} {operations : List Operation}
    (h : Grouped table operations) :
    table.groups.map (·.2.operations) =
      (operations.map (·.segment)).eraseDups.map fun k => operations.filter (·.segment == k) := by
  rw [← h.keys, Entries.keys, List.map_map]
  apply List.map_congr_left
  rintro ⟨segment, group⟩ hg
  exact h.members segment group hg

/-! ### Groups of a finished run -/

section

variable (p t)

/-- The resource path of a group comes from its first operation. -/
def groupResource (g : OperationGroup) : Option String :=
  (g.operations.head?.bind (·.path)).map resourcePathOf

/-- An operation after all phases, in a group with the given resource path. -/
def finishedOperation (resource : Option String) (o : Operation) : Operation :=
  (o.settle t resource).embedExamples p t

def finishedGroup (g : OperationGroup) : OperationGroup :=
  { g.settle t with operations := g.operations.map (finishedOperation p t (groupResource g)) }

end

/-- Groups under their segments, as the build phase leaves them. -/
abbrev builtGroups (p : Profile) (t : Target) (d : Document) : Entries OperationGroup :=
  (groupOperations p t (d.sites.map (.build p t)) {}).groups

lemma grouped_built :
    Grouped (groupOperations p t (d.sites.map (.build p t)) {}) (d.sites.map (.build p t)) :=
  grouped_groupOperations _ _

lemma finishedApi_groups (hp : p ∈ Registry.builtin.profiles) :
    (finishedApi p t d).groups = (builtGroups p t d).map fun e => finishedGroup p t e.2 := by
  simp only [finishedApi, Api.embedExamples, Api.settleGroups, Api.finishModels, Api.identify,
    builtApi, List.map_map]
  apply List.map_congr_left
  rintro ⟨segment, g⟩ hg
  have hne : g.operations.isEmpty = false := by
    simpa using grouped_built.operations_ne_nil hg
  simp only [Function.comp_apply, hne, Bool.false_eq_true, if_false, finishGroup_builtin hp,
    OperationGroup.settle, List.map_map, finishedGroup, groupResource]
  rfl

/-- A group is opened for an operation, so none is reported for having no operations. -/
lemma groupDiagnostics_built :
    (((builtApi p t d).identify p t).finishModels p t).groupDiagnostics = [] := by
  rw [Api.groupDiagnostics, List.map_eq_nil_iff, List.filter_eq_nil_iff]
  intro g hg
  obtain ⟨⟨segment, g⟩, hmem, rfl⟩ := List.mem_map.1 hg
  simpa using grouped_built.operations_ne_nil hmem

lemma exists_site_of_mem_built {segment : String} {g : OperationGroup}
    (hg : (segment, g) ∈ builtGroups p t d) {o : Operation} (ho : o ∈ g.operations) :
    ∃ site ∈ d.sites, resourceSegment site.path = segment ∧ o = .build p t site := by
  rw [grouped_built.members segment g hg] at ho
  obtain ⟨hmem, hsegment⟩ := List.mem_filter.1 ho
  obtain ⟨site, hsite, rfl⟩ := List.mem_map.1 hmem
  exact ⟨site, hsite, beq_iff_eq.1 hsegment, rfl⟩

lemma mem_operations_iff (hp : p ∈ Registry.builtin.profiles) {o : Operation} :
    o ∈ (finishedApi p t d).operations ↔
      ∃ segment g, (segment, g) ∈ builtGroups p t d ∧
        ∃ built ∈ g.operations, o = finishedOperation p t (groupResource g) built := by
  rw [Api.operations, finishedApi_groups hp, List.mem_flatMap]
  constructor
  · rintro ⟨g, hg, ho⟩
    obtain ⟨⟨segment, g⟩, hmem, rfl⟩ := List.mem_map.1 hg
    obtain ⟨built, hbuilt, rfl⟩ := List.mem_map.1 ho
    exact ⟨segment, g, hmem, built, hbuilt, rfl⟩
  · rintro ⟨segment, g, hg, built, hbuilt, rfl⟩
    exact ⟨_, List.mem_map_of_mem hg, List.mem_map_of_mem hbuilt⟩

/-- Every finished operation comes from a site, -/
lemma exists_site_of_mem_operations (hp : p ∈ Registry.builtin.profiles) {o : Operation}
    (ho : o ∈ (finishedApi p t d).operations) :
    ∃ site ∈ d.sites, ∃ resource, o = finishedOperation p t resource (.build p t site) := by
  obtain ⟨segment, g, hg, built, hbuilt, rfl⟩ := (mem_operations_iff hp).1 ho
  obtain ⟨site, hsite, -, rfl⟩ := exists_site_of_mem_built hg hbuilt
  exact ⟨site, hsite, _, rfl⟩

/-- and every site gives one. -/
lemma exists_operation_of_mem_sites (hp : p ∈ Registry.builtin.profiles) {site : OperationSite}
    (hsite : site ∈ d.sites) :
    ∃ resource, finishedOperation p t resource (.build p t site) ∈
      (finishedApi p t d).operations := by
  have hbuilt : Operation.build p t site ∈ d.sites.map (Operation.build p t) :=
    List.mem_map_of_mem hsite
  have hkey := (grouped_built (p := p) (t := t) (d := d)).mem_keys_iff.2 ⟨_, hbuilt, rfl⟩
  obtain ⟨⟨segment, g⟩, hg, hsegment⟩ := List.mem_map.1 hkey
  refine ⟨groupResource g, (mem_operations_iff hp).2 ⟨segment, g, hg, _, ?_, rfl⟩⟩
  rw [grouped_built.members segment g hg]
  exact List.mem_filter.2 ⟨hbuilt, beq_iff_eq.2 hsegment.symm⟩

/-- What later phases keep of every operation is, over all groups, what the sites give. The profile
may do to a group what does not show in it. -/
theorem operations_perm {γ : Type} (f : Operation → γ)
    (hgroup : ∀ g, (p.finishGroup t g).operations.map (fun o => f (o.embedExamples p t)) =
      g.operations.map fun o => f (o.embedExamples p t))
    (hf : ∀ resource o, f (finishedOperation p t resource o) = f o) :
    ((finishedApi p t d).operations.map f).Perm (d.sites.map fun site => f (.build p t site)) := by
  have hfinished : (finishedApi p t d).groups.map (·.operations.map f) =
      (builtGroups p t d).map (·.2.operations.map f) := by
    simp only [finishedApi, Api.embedExamples, Api.settleGroups, Api.finishModels, Api.identify,
      builtApi, List.map_map]
    apply List.map_congr_left
    rintro ⟨segment, g⟩ hg
    have hne : g.operations.isEmpty = false := by
      simpa using grouped_built.operations_ne_nil hg
    have hsettled : (g.settle t).operations.map (fun o => f (o.embedExamples p t)) =
        g.operations.map f := by
      simp only [OperationGroup.settle, List.map_map]
      exact List.map_congr_left fun o _ => hf _ o
    simp only [Function.comp_apply, hne, Bool.false_eq_true, if_false, List.map_map]
    exact (hgroup _).trans hsettled
  have hbuilt : (builtGroups p t d).map (·.2.operations.map f) =
      ((d.sites.map (Operation.build p t)).map (·.segment)).eraseDups.map fun k =>
        ((d.sites.map (Operation.build p t)).filter (·.segment == k)).map f := by
    have hgrouped := grouped_built (p := p) (t := t) (d := d)
    have hmembers := congrArg (List.map (List.map f)) hgrouped.map_operations
    rwa [List.map_map, List.map_map] at hmembers
  have hops : (finishedApi p t d).operations.map f =
      (((d.sites.map (Operation.build p t)).map (·.segment)).eraseDups.flatMap fun k =>
        (d.sites.map (Operation.build p t)).filter (·.segment == k)).map f := by
    rw [Api.operations, List.map_flatMap, List.map_flatMap, List.flatMap_def, List.flatMap_def,
      hfinished, hbuilt]
  have hperm := (flatMap_filter_eraseDups_perm (·.segment)
    (d.sites.map (Operation.build p t))).map f
  rw [hops]
  exact hperm.trans (.of_eq List.map_map)

theorem finished_operations_perm (hp : p ∈ Registry.builtin.profiles) {γ : Type}
    (f : Operation → γ) (hf : ∀ resource o, f (finishedOperation p t resource o) = f o) :
    ((finishedApi p t d).operations.map f).Perm (d.sites.map fun site => f (.build p t site)) :=
  operations_perm f (fun g => by rw [finishGroup_builtin hp]) hf

/-- The groups of a finished run partition the operations of the document by the segment of their
path: one group for each segment, in the order of first appearance, and in it the operations of
that segment in order. Nothing is lost, repeated or moved. -/
theorem groups_partition_sites (hp : p ∈ Registry.builtin.profiles) {run : Run}
    (h : generate p d c = .ok run) :
    ∃ api, run.api = some api ∧
      (api.groups.map fun g => g.operations.map fun o => (o.rawPath, o.method)) =
        ((d.sites.map fun site => resourceSegment site.path).eraseDups.map fun segment =>
          (d.sites.filter fun site => resourceSegment site.path == segment).map fun site =>
            (site.path, site.method)) ∧
      (api.operations.map fun o => (o.rawPath, o.method)).Perm
        (d.sites.map fun site => (site.path, site.method)) ∧
      api.operationCount = d.operationCount ∧ ∀ g ∈ api.groups, g.operations ≠ [] := by
  obtain ⟨-, rfl⟩ := generate_eq_ok_iff.1 h
  have hgroups := finishedApi_groups (t := p.configure c) (d := d) hp
  have hperm : ((finishedApi p (p.configure c) d).operations.map fun o =>
      (o.rawPath, o.method)).Perm (d.sites.map fun site => (site.path, site.method)) :=
    finished_operations_perm hp (fun o => (o.rawPath, o.method)) fun _ _ => rfl
  refine ⟨finishedApi p (p.configure c) d, rfl, ?_, hperm, ?_, ?_⟩
  · have hsegments : (d.sites.map (Operation.build p (p.configure c))).map (·.segment) =
        d.sites.map fun site => resourceSegment site.path := by
      rw [List.map_map]
      rfl
    have hmembers := grouped_built (p := p) (t := p.configure c) (d := d) |>.map_operations
    rw [hsegments] at hmembers
    calc (finishedApi p (p.configure c) d).groups.map
          (fun g => g.operations.map fun o => (o.rawPath, o.method))
        = ((builtGroups p (p.configure c) d).map (·.2.operations)).map
            (·.map fun o => (o.rawPath, o.method)) := by
          rw [hgroups, List.map_map, List.map_map]
          apply List.map_congr_left
          intro e _
          simp only [Function.comp_apply, finishedGroup, List.map_map]
          rfl
      _ = _ := by
          rw [hmembers, List.map_map]
          apply List.map_congr_left
          intro segment _
          rw [Function.comp_apply, List.filter_map, List.map_map]
          rfl
  · rw [← Api.length_operations, ← Document.length_sites]
    simpa using hperm.length_eq
  · intro g hg
    rw [hgroups] at hg
    obtain ⟨⟨segment, g⟩, hmem, rfl⟩ := List.mem_map.1 hg
    simpa [finishedGroup] using grouped_built.operations_ne_nil hmem

/-- Two resources whose paths take turns. -/
def interleaved : Document where
  paths :=
    [("/pets", { get := some { id := some "find" } }),
     ("/store", { post := some { id := some "order" } }),
     ("//pets/{id}", { delete := some { id := some "drop" }, get := some { id := some "pet" } })]

theorem groups_partition_interleaved :
    generate Plain.profile interleaved {} = .ok (finishedRun Plain.profile interleaved {}) ∧
      ∃ api, (finishedRun Plain.profile interleaved {}).api = some api ∧
        (api.groups.map fun g => g.operations.map fun o => (o.rawPath, o.method)) =
          [[("/pets", .get), ("//pets/{id}", .get), ("//pets/{id}", .delete)],
            [("/store", .post)]] ∧
        api.operationCount = 4 := by
  have hrun : generate Plain.profile interleaved {} =
      .ok (finishedRun Plain.profile interleaved {}) := generate_of_accepted (by decide +kernel)
  obtain ⟨api, hapi, hgroups, -, hcount, -⟩ :=
    groups_partition_sites (mem_builtin_iff.2 (by simp)) hrun
  exact ⟨hrun, api, hapi, hgroups.trans (by decide +kernel), hcount.trans (by decide +kernel)⟩

end ClientGen.Proofs
