import Mathlib.Data.List.Forall2
import ClientGen.Proofs.GroupNames

/-!
# Groups without a name

A group whose segment names nothing has no base name, and its class is numbered. The numbers follow
each other in the order in which such segments first appear, one for each segment however many
operations it has; no other group of the run has a class of that name.
-/

namespace ClientGen.Proofs

variable {p : Profile} {t : Target} {d : Document} {c : Config}

/-- What a segment calls its group in the document: nothing if it is empty or opens a placeholder. -/
def groupBase (segment : String) : String :=
  if segment = "" ∨ segment.toList.head? = some '\x7b' then "" else segment

lemma groupBase_eq (segment : String) :
    groupBase segment = if isNameable segment then segment else "" := by
  have hname : isNameable segment = true ↔
      ¬(segment = "" ∨ segment.toList.head? = some '\x7b') := by
    simp [isNameable]
  rw [groupBase]
  by_cases h : segment = "" ∨ segment.toList.head? = some '\x7b'
  · rw [if_pos h, if_neg fun hn => hname.1 hn h]
  · rw [if_neg h, if_pos (hname.2 h)]

lemma groupBase_eq_empty_iff {segment : String} :
    groupBase segment = "" ↔ isNameable segment = false := by
  rw [groupBase_eq]
  cases h : isNameable segment with
  | true => simpa using ne_empty_of_isNameable h
  | false => simp

/-! ### The table of groups -/

/-- One more operation leaves the base names as they were opened. -/
lemma baseName_add {table : GroupTable} (hdistinct : table.groups.keys.Nodup)
    (h : ∀ e ∈ table.groups, e.2.baseName = groupBase e.1) (o : Operation) :
    ∀ e ∈ (table.add p t o).groups, e.2.baseName = groupBase e.1 := by
  rintro ⟨segment, g⟩ he
  rw [groups_add, mem_put_iff hdistinct] at he
  rcases he with ⟨rfl, rfl⟩ | ⟨-, he⟩
  · dsimp only
    rw [GroupTable.group]
    split
    · rename_i known hknown
      exact h _ (mem_of_get?_eq_some hknown)
    · exact (groupBase_eq _).symm
  · exact h _ he

lemma baseName_groupOperations (operations : List Operation) :
    ∀ e ∈ (groupOperations p t operations {}).groups, e.2.baseName = groupBase e.1 := by
  induction operations using List.reverseRec with
  | nil => simp [groupOperations]
  | append_singleton rest o ih =>
    have hdistinct := (grouped_groupOperations (p := p) (t := t) rest {}).distinct
    rw [groupOperations, List.foldl_append]
    exact baseName_add hdistinct ih o

section

variable {names : Entries String} {issued : Nat}

/-- Each segment that names nothing has one of the numbers handed out. -/
lemma Named.exists_number (h : Named p t names issued) {e : String × String} (he : e ∈ names)
    (hname : isNameable e.1 = false) : ∃ number, e.2 = anonymousName number := by
  have hmem : e.2 ∈ (names.filter fun e => !isNameable e.1).map (·.2) :=
    List.mem_map_of_mem (List.mem_filter.2 ⟨he, by rw [hname]; rfl⟩)
  rw [h.numbered] at hmem
  obtain ⟨number, -, hnumber⟩ := List.mem_map.1 hmem
  exact ⟨number, hnumber.symm⟩

/-- A number belongs to one segment only. -/
lemma Named.pairwise_ne (hp : p ∈ Registry.builtin.profiles) (h : Named p t names issued) :
    names.Pairwise fun e e' =>
      isNameable e.1 = false ∨ isNameable e'.1 = false → e.2 ≠ e'.2 := by
  have hnumbers : ((names.filter fun e => !isNameable e.1).map (·.2)).Nodup := by
    rw [h.numbered]
    exact List.nodup_range.map anonymousName_injective
  rw [List.Nodup, List.pairwise_map, List.pairwise_filter] at hnumbers
  refine hnumbers.imp_of_mem fun {e e'} he he' hne hnone => ?_
  cases hname : isNameable e.1 with
  | false =>
    cases hname' : isNameable e'.1 with
    | false => exact hne (by rw [hname]; rfl) (by rw [hname']; rfl)
    | true =>
      obtain ⟨number, hnumber⟩ := h.exists_number he hname
      rw [hnumber, h.named e' he' hname']
      exact (anonymousName_ne hp hname' number).symm
  | true =>
    have hname' : isNameable e'.1 = false := by simpa [hname] using hnone
    obtain ⟨number, hnumber⟩ := h.exists_number he' hname'
    rw [hnumber, h.named e he hname]
    exact anonymousName_ne hp hname number

end

/-! ### Groups of a run -/

/-- The group that the operations of a segment are in. -/
structure GroupOf (p : Profile) (t : Target) (segment : String) (g : OperationGroup) : Prop where
  ne_nil : g.operations ≠ []
  operations : ∀ o ∈ g.operations, resourceSegment o.rawPath = segment
  baseName : g.baseName = groupBase segment
  className : g.baseName ≠ "" → g.className = (p.apiName t segment {}).1

lemma groupOf_finishedGroup (hp : p ∈ Registry.builtin.profiles) {e : String × OperationGroup}
    (he : e ∈ builtGroups p t d) : GroupOf p t e.1 (finishedGroup p t e.2) := by
  constructor
  case ne_nil => simpa [finishedGroup] using grouped_built.operations_ne_nil he
  case operations =>
    intro o ho
    obtain ⟨built, hbuilt, rfl⟩ := List.mem_map.1 ho
    obtain ⟨site, -, hsegment, rfl⟩ := exists_site_of_mem_built he hbuilt
    exact hsegment
  case baseName => exact baseName_groupOperations _ e he
  case className =>
    intro hne
    have hbase : e.2.baseName = groupBase e.1 := baseName_groupOperations _ e he
    have hname : isNameable e.1 = true := by
      rw [← Bool.not_eq_false, ← groupBase_eq_empty_iff, ← hbase]
      exact hne
    have hnamed := (named_groupOperations (t := t) hp (d.sites.map (.build p t))).named
    exact hnamed (e.1, e.2.className) (List.mem_map_of_mem he) hname

lemma forall₂_groupOf (hp : p ∈ Registry.builtin.profiles) :
    List.Forall₂ (GroupOf p t) (d.sites.map fun site => resourceSegment site.path).eraseDups
      (finishedApi p t d).groups := by
  have hkeys : (builtGroups p t d).map (·.1) =
      (d.sites.map fun site => resourceSegment site.path).eraseDups := by
    have hgrouped := (grouped_built (p := p) (t := t) (d := d)).keys
    rw [List.map_map] at hgrouped
    exact hgrouped
  rw [finishedApi_groups hp, ← hkeys, List.forall₂_map_left_iff, List.forall₂_map_right_iff,
    List.forall₂_same]
  exact fun e he => groupOf_finishedGroup hp he

/-- A run has one group for each segment, in the order of their first appearance. Those without a
base name are the groups of the segments that name nothing; their classes are numbered from one on in
this order, up to the count that the run has kept, and no other group has the same class name. -/
theorem anonymous_of_run (hp : p ∈ Registry.builtin.profiles) {run : Run}
    (h : generate p d c = .ok run) :
    ∃ api, run.api = some api ∧
      List.Forall₂ (GroupOf p (p.configure c))
        (d.sites.map fun site => resourceSegment site.path).eraseDups api.groups ∧
      (api.groups.filter fun g => g.baseName == "").map (·.className) =
        (List.range run.anonymous.issued).map (fun i => "AnonymousAPI" ++ toString (i + 1)) ∧
      run.anonymous.issued = api.groups.countP (·.baseName == "") ∧
      api.groups.Pairwise fun g g' =>
        g.baseName = "" ∨ g'.baseName = "" → g.className ≠ g'.className := by
  obtain ⟨-, rfl⟩ := generate_eq_ok_iff.1 h
  have hnamed := named_groupOperations (t := p.configure c) hp
    (d.sites.map (.build p (p.configure c)))
  have hgroups := finishedApi_groups (t := p.configure c) (d := d) hp
  have hbase : ∀ e ∈ builtGroups p (p.configure c) d,
      (finishedGroup p (p.configure c) e.2).baseName = "" ↔ isNameable e.1 = false := by
    intro e he
    rw [(groupOf_finishedGroup hp he).baseName, groupBase_eq_empty_iff]
  have hnumbered : ((finishedApi p (p.configure c) d).groups.filter fun g => g.baseName == "").map
      (·.className) = (List.range (finishedRun p d c).anonymous.issued).map anonymousName := by
    have hfilter : (builtGroups p (p.configure c) d).filter
        (fun e => (finishedGroup p (p.configure c) e.2).baseName == "") =
        (builtGroups p (p.configure c) d).filter fun e => !isNameable e.1 := by
      refine List.filter_congr fun e he => ?_
      rw [Bool.eq_iff_iff, beq_iff_eq, hbase e he, Bool.not_eq_true']
    have hnumbers := hnamed.numbered
    rw [classNames, List.filter_map, List.map_map] at hnumbers
    rw [hgroups, List.filter_map, List.map_map]
    exact (congrArg (List.map _) hfilter).trans hnumbers
  refine ⟨finishedApi p (p.configure c) d, rfl, forall₂_groupOf hp, hnumbered, ?_, ?_⟩
  · have hlength := congrArg List.length hnumbered
    rw [List.length_map, List.length_map, List.length_range] at hlength
    rw [List.countP_eq_length_filter, hlength]
  · have hpairs := hnamed.pairwise_ne hp
    rw [classNames, List.pairwise_map] at hpairs
    rw [hgroups, List.pairwise_map]
    refine hpairs.imp_of_mem fun {e e'} he he' hne hnone => ?_
    rw [hbase e he, hbase e' he'] at hnone
    exact hne hnone

/-- Segments that name nothing beside one that does, the first of them with two operations. -/
def unnamedPaths : Document where
  paths :=
    [("/{a}", { get := some { id := some "first" }, delete := some { id := some "drop" } }),
     ("/AnonymousAPI1", { get := some { id := some "find" } }),
     ("/{b}/x", { get := some { id := some "second" } }),
     ("//{a}/y", { get := some { id := some "third" } }),
     ("/", { get := some { id := some "root" } })]

theorem anonymous_of_run_unnamedPaths :
    generate Plain.profile unnamedPaths {} = .ok (finishedRun Plain.profile unnamedPaths {}) ∧
      (finishedRun Plain.profile unnamedPaths {}).anonymous.issued = 3 ∧
      ∃ api, (finishedRun Plain.profile unnamedPaths {}).api = some api ∧
        (api.groups.map fun g => (g.className, g.operations.length)) =
          [("AnonymousAPI1", 3), ("AnonymousAPI1API", 1), ("AnonymousAPI2", 1),
            ("AnonymousAPI3", 1)] ∧
        api.groups.Pairwise fun g g' =>
          g.baseName = "" ∨ g'.baseName = "" → g.className ≠ g'.className := by
  have hrun : generate Plain.profile unnamedPaths {} =
      .ok (finishedRun Plain.profile unnamedPaths {}) := generate_of_accepted (by decide +kernel)
  obtain ⟨api, hapi, -, -, hissued, hpairs⟩ :=
    anonymous_of_run (mem_builtin_iff.2 (by simp)) hrun
  have hcount : api.groups.countP (·.baseName == "") = 3 := by
    obtain rfl := Option.some.inj hapi
    decide +kernel
  refine ⟨hrun, hissued.trans hcount, api, hapi, ?_, hpairs⟩
  obtain rfl := Option.some.inj hapi
  decide +kernel

end ClientGen.Proofs
