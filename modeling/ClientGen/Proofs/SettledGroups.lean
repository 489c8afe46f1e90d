import Mathlib.Data.List.Forall2
import ClientGen.Proofs.GroupSummaries
import ClientGen.Proofs.ResponseChoice

/-!
# Settled groups

The group phase settles the groups that have operations and reports the others. In a settled group
every operation has a response with a type. The summary tells the methods of the group, in whatever
order they stand; for two of them it keeps what the last method of the name returns, so it depends
on the order of those alone.
-/

namespace ClientGen.Proofs

variable {p : Profile} {t : Target} {operations operations' : List Operation}

/-- The methods whose return type a summary keeps. -/
inductive TypedMethod
  | count
  | deleteById
deriving DecidableEq

namespace TypedMethod

def name : TypedMethod → String
  | count => "count"
  | deleteById => "deleteById"

def kept : TypedMethod → GroupSummary → String
  | count => (·.countReturnType)
  | deleteById => (·.deleteReturnType)

/-- What the target makes the method return if nothing else is known. -/
def hint (t : Target) : TypedMethod → String
  | count => t.spec.returnHints.count
  | deleteById => t.spec.returnHints.delete

end TypedMethod

/-- There is a response to return, and it has a type. -/
def Typed (o : Operation) : Prop :=
  ∃ r type, o.successfulResponse = some r ∧ r.dataType = some type

/-- What the last operation of a name returns; the hint if there is no such operation. -/
inductive LastReturns (name hint : String) (operations : List Operation) : String → Prop
  | last {before after : List Operation} {o : Operation} {r : Response} {type : String}
    (h : operations = before ++ o :: after) (hname : o.operationId = name)
    (hafter : ∀ x ∈ after, x.operationId ≠ name) (hr : o.successfulResponse = some r)
    (htype : r.dataType = some type) : LastReturns name hint operations type
  | hint (h : ∀ o ∈ operations, o.operationId ≠ name) : LastReturns name hint operations hint

/-- What becomes of a group. -/
inductive Outcome (t : Target) (g : OperationGroup) : OperationGroup → Prop
  | empty (h : g.operations = []) : Outcome t g g
  | settled {s : OperationGroup} (h : g.operations ≠ [])
    (others : s = { g with
      resourcePath := s.resourcePath
      operations := s.operations
      summary := s.summary })
    (names : s.operations.map (·.operationId) = g.operations.map (·.operationId))
    (typed : ∀ o ∈ s.operations, Typed o)
    (noted : ∀ u : UsualMethod, u.noted s.summary = true ↔
      ∃ o ∈ s.operations, o.operationId = u.name)
    (kept : ∀ m : TypedMethod,
      LastReturns m.name (m.hint t) s.operations (m.kept s.summary)) : Outcome t g s

/-- The group with its operations in another order. Those with a kept return type do not overtake
others of the same name. -/
structure Reordered (g g' : OperationGroup) : Prop where
  others : g' = { g with operations := g'.operations }
  perm : g.operations.Perm g'.operations
  order : ∀ m : TypedMethod, g.operations.filter (·.operationId == m.name) =
    g'.operations.filter (·.operationId == m.name)

def emptyWarning (g : OperationGroup) : Diagnostic :=
  ⟨.warning, groupPhase, "operation group has no operations", some g.className⟩

/-! ### Kept return types -/

/-- The kept return type after one more operation. -/
def keepReturn (name type : String) (o : Operation) : String :=
  if o.operationId == name then (o.successfulResponse.bind (·.dataType)).getD type else type

lemma kept_note (m : TypedMethod) (s : GroupSummary) (o : Operation) :
    m.kept (s.note o) = keepReturn m.name (m.kept s) o := by
  unfold GroupSummary.note keepReturn
  split <;> cases m <;> simp_all [TypedMethod.kept, TypedMethod.name]

lemma kept_summarize (m : TypedMethod) (operations : List Operation) :
    m.kept (summarize t operations) = operations.foldl (keepReturn m.name) (m.hint t) := by
  rw [summarize, ← List.foldl_hom m.kept fun s o => (kept_note m s o).symm]
  cases m <;> rfl

lemma foldl_keepReturn_filter (name type : String) (operations : List Operation) :
    (operations.filter (·.operationId == name)).foldl (keepReturn name) type =
      operations.foldl (keepReturn name) type := by
  induction operations generalizing type with
  | nil => rfl
  | cons o rest ih =>
    rw [List.filter_cons, List.foldl_cons, ← ih]
    split_ifs with hname
    · rfl
    · rw [keepReturn, if_neg hname]

lemma lastReturns_foldl (name hint : String) (h : ∀ o ∈ operations, Typed o) :
    LastReturns name hint operations (operations.foldl (keepReturn name) hint) := by
  -- the fold ends with the last operation, so the induction is from the end of the list
  induction operations using List.reverseRec with
  | nil => exact .hint (by simp)
  | append_singleton rest o ih =>
    have hrest := ih fun x hx => h x (List.mem_append_left _ hx)
    rw [List.foldl_append, List.foldl_cons, List.foldl_nil, keepReturn]
    by_cases hname : o.operationId = name
    · obtain ⟨r, type, hr, htype⟩ := h o (List.mem_append_right _ (List.mem_singleton_self o))
      rw [if_pos (beq_iff_eq.2 hname), hr, Option.bind_some, htype, Option.getD_some]
      exact .last rfl hname (by simp) hr htype
    · rw [if_neg (mt beq_iff_eq.1 hname)]
      generalize rest.foldl (keepReturn name) hint = type at hrest
      cases hrest with
      | @last before after last _ _ hsplit hlast hafter hr htype =>
        have hlonger : rest ++ [o] = before ++ last :: (after ++ [o]) := by
          rw [hsplit, List.append_assoc, List.cons_append]
        refine .last hlonger hlast (fun x hx => ?_) hr htype
        rcases List.mem_append.1 hx with hx | hx
        · exact hafter x hx
        · rwa [List.mem_singleton.1 hx]
      | hint hnone =>
        refine .hint fun x hx => ?_
        rcases List.mem_append.1 hx with hx | hx
        · exact hnone x hx
        · rwa [List.mem_singleton.1 hx]

/-! ### Summaries -/

/-- A summary is what it notes and the types that it keeps. -/
lemma summary_ext {s s' : GroupSummary} (hnoted : ∀ u : UsualMethod, u.noted s = u.noted s')
    (hkept : ∀ m : TypedMethod, m.kept s = m.kept s') : s = s' := by
  cases s
  cases s'
  rw [GroupSummary.mk.injEq]
  exact ⟨hnoted .create, hnoted .upsert, hnoted .find, hnoted .findOne, hnoted .findById,
    hnoted .count, hnoted .deleteById, hkept .count, hkept .deleteById⟩

lemma summarize_congr (hperm : operations.Perm operations')
    (horder : ∀ m : TypedMethod, operations.filter (·.operationId == m.name) =
      operations'.filter (·.operationId == m.name)) :
    summarize t operations = summarize t operations' := by
  refine summary_ext (fun u => ?_) fun m => ?_
  · rw [u.noted_summarize, u.noted_summarize, hperm.any_eq]
  · rw [kept_summarize, kept_summarize, ← foldl_keepReturn_filter, horder m,
      foldl_keepReturn_filter]

/-- The resource of a group decides paths only, which no summary reads. -/
lemma summarize_settle (resource : Option String) (operations : List Operation) :
    summarize t (operations.map (.settle t resource)) =
      summarize t (operations.map (.settle t none)) := by
  rw [summarize, summarize, List.foldl_map, List.foldl_map]
  rfl

lemma typed_settle (resource : Option String) (o : Operation) : Typed (o.settle t resource) := by
  obtain ⟨type, htype⟩ := (chosen_selectResponse t.spec.stringType o.responses).dataType_eq_some
  exact ⟨_, type, rfl, htype⟩

/-! ### Groups -/

def settledGroup (t : Target) (g : OperationGroup) : OperationGroup :=
  if g.operations.isEmpty then g else g.settle t

lemma settleGroups_eq (hp : p ∈ Registry.builtin.profiles) (api : Api) :
    api.settleGroups p t = { api with groups := api.groups.map (settledGroup t) } := by
  simp only [Api.settleGroups, finishGroup_builtin hp]
  rfl

lemma outcome_settledGroup (g : OperationGroup) : Outcome t g (settledGroup t g) := by
  unfold settledGroup
  split_ifs with hempty
  · exact .empty (List.isEmpty_iff.1 hempty)
  have hsettled : (g.settle t).operations = g.operations.map (.settle t (groupResource g)) := rfl
  have htyped : ∀ o ∈ (g.settle t).operations, Typed o := by
    intro o ho
    obtain ⟨built, -, rfl⟩ := List.mem_map.1 (hsettled ▸ ho)
    exact typed_settle _ built
  have hsummary : (g.settle t).summary = summarize t (g.settle t).operations := rfl
  refine .settled (mt List.isEmpty_iff.2 hempty) rfl ?_ htyped (fun u => ?_) fun m => ?_
  · rw [hsettled, List.map_map]
    rfl
  · rw [hsummary, u.noted_summarize, List.any_eq_true]
    simp only [beq_iff_eq]
  · rw [hsummary, kept_summarize]
    exact lastReturns_foldl m.name (m.hint t) htyped

lemma Reordered.summary_eq {g g' : OperationGroup} (h : Reordered g g') :
    (settledGroup t g').summary = (settledGroup t g).summary := by
  have hempty : g'.operations.isEmpty = g.operations.isEmpty := h.perm.symm.isEmpty_eq
  unfold settledGroup
  rw [hempty]
  split_ifs
  · rw [h.others]
  have hsummary : ∀ g : OperationGroup,
      (g.settle t).summary = summarize t (g.operations.map (.settle t none)) :=
    fun g => summarize_settle (groupResource g) g.operations
  rw [hsummary, hsummary]
  refine (summarize_congr (h.perm.map _) fun m => ?_).symm
  rw [List.filter_map, List.filter_map]
  exact congrArg _ (h.order m)

lemma summaries_eq {groups groups' : List OperationGroup} (h : List.Forall₂ Reordered groups groups') :
    groups'.map (fun g => (settledGroup t g).summary) =
      groups.map fun g => (settledGroup t g).summary := by
  induction h with
  | nil => rfl
  | cons hg _ ih => rw [List.map_cons, List.map_cons, hg.summary_eq, ih]

/-- The group phase leaves a group without operations as it is and warns of it, once for each and in
the order of the groups. Every operation of another group gets a response with a type; the summary
has the flag of a method just when an operation is named so, and keeps for two names what the last
such operation returns, or the hint of the target. An order of the operations that keeps those of
each of the two names in order gives the same summary. -/
theorem group_outcome {r : Run} (hp : r.profile ∈ Registry.builtin.profiles) {api : Api}
    (h : r.api = some api) :
    ∃ next finished, Phase.group.apply r = .ok next ∧ next.api = some finished ∧
      List.Forall₂ (Outcome r.target) api.groups finished.groups ∧
      next.diagnostics =
        r.diagnostics ++ (api.groups.filter (·.operations.isEmpty)).map emptyWarning ∧
      ∀ groups, List.Forall₂ Reordered api.groups groups →
        ∃ other finished', Phase.group.apply { r with api := some { api with groups } } = .ok other ∧
          other.api = some finished' ∧
          finished'.groups.map (·.summary) = finished.groups.map (·.summary) := by
  refine ⟨_, _, refine_apply h, rfl, ?_, rfl, fun groups hgroups => ⟨_, _, refine_apply rfl, rfl, ?_⟩⟩
  · rw [settleGroups_eq hp, List.forall₂_map_right_iff, List.forall₂_same]
    exact fun g _ => outcome_settledGroup g
  · simp only [settleGroups_eq hp, List.map_map]
    exact summaries_eq hgroups

/-- A group without operations, and one in which counts and a deletion take turns. -/
def repeatedCounts : Api where
  groups :=
    [{ baseName := "", className := "AnonymousAPI1" },
     { baseName := "pets", className := "PetsAPI"
       operations := [count "Total", find, delete, count "Page"] }]
where
  count (type : String) : Operation :=
    { method := .get, rawPath := "/pets", path := some "/pets", operationId := "count"
      nickname := "count", responses := [(Response.of "200").withBody type] }
  find : Operation :=
    { method := .get, rawPath := "/pets", path := none, operationId := "find", nickname := "find" }
  delete : Operation :=
    { method := .delete, rawPath := "/pets", path := none, operationId := "deleteById"
      nickname := "deleteById" }

/-- The same with the deletion in front. -/
def deletionFirst : List OperationGroup :=
  repeatedCounts.groups.map fun g =>
    { g with operations := g.operations.filter (·.operationId == "deleteById") ++
        g.operations.filter (·.operationId != "deleteById") }

theorem group_outcome_repeatedCounts :
    let r : Run :=
      { profile := LoopBack.profile, target := LoopBack.configure {}, document := {}
        api := some repeatedCounts }
    r.profile ∈ Registry.builtin.profiles ∧ r.api = some repeatedCounts ∧
      List.Forall₂ Reordered repeatedCounts.groups deletionFirst ∧
      ∃ next finished, Phase.group.apply r = .ok next ∧ next.api = some finished ∧
        (finished.groups.map fun g => (g.summary.countReturnType, g.summary.deleteReturnType)) =
          [("", ""), ("Page", "String")] ∧
        next.diagnostics.map (·.location) = [some "AnonymousAPI1"] ∧
        ∃ other finished',
          Phase.group.apply { r with api := some { repeatedCounts with groups := deletionFirst } } =
            .ok other ∧
          other.api = some finished' ∧
          finished'.groups.map (·.summary) = finished.groups.map (·.summary) := by
  intro r
  have hp : r.profile ∈ Registry.builtin.profiles := mem_builtin_iff.2 (by simp [r])
  have hreordered : List.Forall₂ Reordered repeatedCounts.groups deletionFirst := by
    refine .cons ⟨rfl, .refl _, fun _ => rfl⟩ (.cons ⟨rfl, ?_, ?_⟩ .nil)
    · decide +kernel
    · intro m
      cases m <;> rfl
  obtain ⟨next, finished, happly, hfinished, -, hwarned, horders⟩ := group_outcome hp rfl
  refine ⟨hp, rfl, hreordered, next, finished, happly, hfinished, ?_, ?_, horders _ hreordered⟩
  · obtain rfl := Except.ok.inj (happly.symm.trans (refine_apply rfl))
    obtain rfl := Option.some.inj hfinished
    decide +kernel
  · rw [hwarned]
    decide +kernel

end ClientGen.Proofs
