import ClientGen.Proofs.Grouping

/-!
# Orders of the phases

Once an API is built, two of the phases change its models and two its groups. Phases of different
kinds change nothing that the other one reads, and the two that change groups write different fields
of the operations; so they may be applied in any order, as long as the models are identified before
they are finished.
-/

namespace ClientGen.Proofs

variable {p : Profile} {t : Target} {d : Document} {c : Config}

/-! ### Phases that may change places -/

section

variable {inv : Run → Prop} {ordered : Phase → Bool} {phases order order' : List Phase} {r : Run}

lemma applyAll_cons {phase : Phase} {next : Run} (h : phase.apply r = .ok next) :
    Phase.applyAll (phase :: order) r = Phase.applyAll order next := by
  rw [Phase.applyAll, List.foldlM_cons, h]
  rfl

/-- Phases that succeed and keep an invariant, and change places where it holds unless the order of
both matters. -/
structure Commuting (inv : Run → Prop) (ordered : Phase → Bool) (phases : List Phase) : Prop where
  step : ∀ phase ∈ phases, ∀ r, inv r → ∃ next, phase.apply r = .ok next ∧ inv next
  swap : ∀ first ∈ phases, ∀ second ∈ phases, ¬(ordered first = true ∧ ordered second = true) →
    ∀ r, inv r → Phase.applyAll [first, second] r = Phase.applyAll [second, first] r

lemma Commuting.applyAll_append (h : Commuting inv ordered phases) (horder : ∀ q ∈ order, q ∈ phases)
    (hr : inv r) :
    ∃ next, Phase.applyAll order r = .ok next ∧ inv next ∧
      ∀ more, Phase.applyAll (order ++ more) r = Phase.applyAll more next := by
  induction order generalizing r with
  | nil => exact ⟨r, rfl, hr, fun _ => rfl⟩
  | cons phase rest ih =>
    obtain ⟨middle, hmiddle, hinv⟩ := h.step phase (horder phase List.mem_cons_self) r hr
    obtain ⟨next, hnext, hlast, hmore⟩ :=
      ih (fun q hq => horder q (List.mem_cons_of_mem _ hq)) hinv
    refine ⟨next, ?_, hlast, fun more => ?_⟩
    · rw [applyAll_cons hmiddle, hnext]
    · rw [List.cons_append, applyAll_cons hmiddle, hmore]

/-- A phase is applied first instead of after others that change places with it. -/
lemma Commuting.applyAll_front (h : Commuting inv ordered phases) {before after : List Phase}
    {phase : Phase} (hphase : phase ∈ phases) (hbefore : ∀ q ∈ before, q ∈ phases)
    (hswap : ∀ q ∈ before, ¬(ordered q = true ∧ ordered phase = true)) (hr : inv r) :
    Phase.applyAll (before ++ phase :: after) r = Phase.applyAll (phase :: (before ++ after)) r := by
  induction before generalizing r with
  | nil => rfl
  | cons q rest ih =>
    have hq := hbefore q List.mem_cons_self
    have hpair : ∀ q' ∈ [q, phase], q' ∈ phases := by simp [hq, hphase]
    have hpair' : ∀ q' ∈ [phase, q], q' ∈ phases := by simp [hq, hphase]
    obtain ⟨middle, hmiddle, hinv⟩ := h.step q hq r hr
    obtain ⟨next, hnext, -, hmore⟩ := h.applyAll_append hpair hr
    obtain ⟨next', hnext', -, hmore'⟩ := h.applyAll_append hpair' hr
    have hends : next = next' := by
      have heq := h.swap q hq phase hphase (hswap q List.mem_cons_self) r hr
      rw [hnext, hnext'] at heq
      exact Except.ok.inj heq
    calc Phase.applyAll (q :: rest ++ phase :: after) r
        = Phase.applyAll (phase :: (rest ++ after)) middle := by
          rw [List.cons_append, applyAll_cons hmiddle]
          exact ih (fun q' hq' => hbefore q' (List.mem_cons_of_mem _ hq'))
            (fun q' hq' => hswap q' (List.mem_cons_of_mem _ hq')) hinv
      _ = Phase.applyAll ([q, phase] ++ (rest ++ after)) r := (applyAll_cons hmiddle).symm
      _ = Phase.applyAll ([phase, q] ++ (rest ++ after)) r := by rw [hmore, hmore', hends]

/-- Two orders of the same phases give the same run if those whose order matters stand in the same
order in both. -/
theorem Commuting.applyAll_perm (h : Commuting inv ordered phases) (hperm : order.Perm order')
    (horder : ∀ q ∈ order, q ∈ phases) (hsame : order.filter ordered = order'.filter ordered)
    (hr : inv r) : Phase.applyAll order r = Phase.applyAll order' r := by
  induction order generalizing order' r with
  | nil => rw [hperm.nil_eq]
  | cons phase rest ih =>
    have hphase := horder phase List.mem_cons_self
    -- The phase stands in the other order too, and what stands before it there changes places.
    have hsplit : ∃ before after, order' = before ++ phase :: after ∧
        (∀ q ∈ before, ¬(ordered q = true ∧ ordered phase = true)) ∧
        rest.filter ordered = (before ++ after).filter ordered := by
      cases hordered : ordered phase with
      | true =>
        rw [List.filter_cons_of_pos hordered, eq_comm, List.filter_eq_cons_iff] at hsame
        obtain ⟨before, after, rfl, hnone, -, hafter⟩ := hsame
        refine ⟨before, after, rfl, fun q hq hboth => hnone q hq hboth.1, ?_⟩
        rw [List.filter_append, List.filter_eq_nil_iff.2 hnone, List.nil_append, hafter]
      | false =>
        obtain ⟨before, after, rfl⟩ := List.append_of_mem (hperm.subset List.mem_cons_self)
        have hnot : ¬ordered phase = true := by rw [hordered]; exact Bool.false_ne_true
        refine ⟨before, after, rfl, fun q _ hboth => Bool.false_ne_true hboth.2, ?_⟩
        rw [List.filter_cons_of_neg hnot, List.filter_append, List.filter_cons_of_neg hnot,
          ← List.filter_append] at hsame
        exact hsame
    obtain ⟨before, after, rfl, hswap, hfilter⟩ := hsplit
    have hbefore : ∀ q ∈ before, q ∈ phases := fun q hq =>
      horder q (hperm.symm.subset (List.mem_append_left _ hq))
    have hrest : rest.Perm (before ++ after) := (hperm.trans List.perm_middle).cons_inv
    obtain ⟨next, hnext, hinv⟩ := h.step phase hphase r hr
    rw [h.applyAll_front hphase hbefore hswap hr, applyAll_cons hnext, applyAll_cons hnext]
    exact ih hrest (fun q hq => horder q (List.mem_cons_of_mem _ hq)) hfilter hinv

end

/-! ### The phases after the build -/

/-- A phase that changes the API by the profile and its tables. -/
def refined (name : String) (change : Profile → Target → Api → Api)
    (report : Target → Api → List Diagnostic) : Phase :=
  .refine name (fun r => change r.profile r.target) fun r => report r.target

lemma model_eq : Phase.model = refined modelPhase .identify Api.identifyDiagnostics := rfl

lemma property_eq : Phase.property = refined propertyPhase .finishModels fun _ _ => [] := rfl

lemma group_eq : Phase.group = refined groupPhase .settleGroups fun _ => Api.groupDiagnostics := rfl

lemma examples_eq : Phase.examples = refined examplePhase .embedExamples fun _ _ => [] := rfl

section

variable {r : Run} {api : Api} {change change' : Profile → Target → Api → Api}
  {report report' : Target → Api → List Diagnostic}

lemma refined_apply (hr : r.api = some api) (name : String) :
    (refined name change report).apply r = .ok { r with
      api := some (change r.profile r.target api)
      diagnostics := r.diagnostics ++ report r.target api } :=
  refine_apply hr

/-- Changes that commute may be made in any order if one phase has nothing to report and hides
nothing from the report of the other. -/
lemma refined_swap (hr : r.api = some api) (name name' : String)
    (hchange : change' r.profile r.target (change r.profile r.target api) =
      change r.profile r.target (change' r.profile r.target api))
    (hquiet : report r.target api = [])
    (hquiet' : report r.target (change' r.profile r.target api) = [])
    (hreport : report' r.target (change r.profile r.target api) = report' r.target api) :
    Phase.applyAll [refined name change report, refined name' change' report'] r =
      Phase.applyAll [refined name' change' report', refined name change report] r := by
  rw [applyAll_cons (refined_apply hr name), applyAll_cons (refined_apply hr name'),
    applyAll_cons (refined_apply rfl name'), applyAll_cons (refined_apply rfl name),
    hchange, hquiet, hquiet', hreport, List.append_nil, List.append_nil]

end

/-- The phases that follow the build in every run. -/
def refinements : List Phase := [.model, .property, .group, .examples]

/-- The phase changes models. -/
def changesModels (phase : Phase) : Bool :=
  phase.name == modelPhase || phase.name == propertyPhase

/-- An API is built, and none of its groups is without operations. -/
structure Ready (p : Profile) (r : Run) : Prop where
  profile : r.profile = p
  built : ∃ api, r.api = some api ∧ ∀ g ∈ api.groups, g.operations ≠ []

/-! ### What the phases read and write -/

lemma groupDiagnostics_of_ne_nil {api : Api} (h : ∀ g ∈ api.groups, g.operations ≠ []) :
    api.groupDiagnostics = [] := by
  rw [Api.groupDiagnostics, List.map_eq_nil_iff, List.filter_eq_nil_iff]
  intro g hg
  simpa using h g hg

/-- Settling reads no examples, and embedding examples changes nothing else. -/
lemma settle_embedExamples (resource : Option String) (o : Operation) :
    (o.embedExamples p t).settle t resource = (o.settle t resource).embedExamples p t := rfl

lemma summarize_embedExamples (operations : List Operation) :
    summarize t (operations.map (.embedExamples p t)) = summarize t operations := by
  rw [summarize, List.foldl_map]
  rfl

lemma settleGroup_embedExamples (g : OperationGroup) :
    OperationGroup.settle t { g with operations := g.operations.map (.embedExamples p t) } =
      { g.settle t with operations := (g.settle t).operations.map (.embedExamples p t) } := by
  have hresource : ((g.operations.map (Operation.embedExamples p t)).head?.bind (·.path)).map
      resourcePathOf = (g.operations.head?.bind (·.path)).map resourcePathOf := by
    cases g.operations with
    | nil => rfl
    | cons o rest => rfl
  have hoperations : ∀ resource : Option String,
      (g.operations.map (Operation.embedExamples p t)).map (Operation.settle t resource) =
        (g.operations.map (Operation.settle t resource)).map (Operation.embedExamples p t) := by
    intro resource
    rw [List.map_map, List.map_map]
    exact List.map_congr_left fun o _ => settle_embedExamples resource o
  simp only [OperationGroup.settle, hresource, hoperations, summarize_embedExamples]

lemma settleGroups_embedExamples (hp : p ∈ Registry.builtin.profiles) (api : Api) :
    (api.embedExamples p t).settleGroups p t = (api.settleGroups p t).embedExamples p t := by
  have hgroups : (api.embedExamples p t).groups.map (fun g =>
        if g.operations.isEmpty then g else p.finishGroup t (g.settle t)) =
      (api.settleGroups p t).groups.map fun g =>
        { g with operations := g.operations.map (.embedExamples p t) } := by
    rw [Api.embedExamples, Api.settleGroups, List.map_map, List.map_map]
    refine List.map_congr_left fun g _ => ?_
    simp only [Function.comp_apply, finishGroup_builtin hp, List.isEmpty_map]
    split_ifs with hempty
    · rw [List.isEmpty_iff.1 hempty, List.map_nil, ← List.isEmpty_iff.1 hempty]
    · exact settleGroup_embedExamples g
  rw [Api.settleGroups, hgroups]
  rfl

/-- Embedding examples leaves every group in its place with as many operations. -/
lemma groupDiagnostics_embedExamples (api : Api) :
    (api.embedExamples p t).groupDiagnostics = api.groupDiagnostics := by
  simp only [Api.groupDiagnostics, Api.embedExamples, List.filter_map, List.map_map]
  simp [Function.comp_def]

/-! ### Orders of the phases -/

lemma Ready.step (hp : p ∈ Registry.builtin.profiles) {phase : Phase} (hphase : phase ∈ refinements)
    {r : Run} (h : Ready p r) : ∃ next, phase.apply r = .ok next ∧ Ready p next := by
  obtain ⟨rfl, api, hapi, hne⟩ := h
  have hrefined : ∀ name (change : Profile → Target → Api → Api) report,
      (∀ g ∈ (change r.profile r.target api).groups, g.operations ≠ []) →
      ∃ next, (refined name change report).apply r = .ok next ∧ Ready r.profile next :=
    fun name change report hgroups => ⟨_, refined_apply hapi name, ⟨rfl, _, rfl, hgroups⟩⟩
  simp only [refinements, List.mem_cons, List.not_mem_nil, or_false] at hphase
  rcases hphase with rfl | rfl | rfl | rfl
  · exact hrefined modelPhase .identify Api.identifyDiagnostics hne
  · exact hrefined propertyPhase .finishModels (fun _ _ => []) hne
  · refine hrefined groupPhase .settleGroups (fun _ => Api.groupDiagnostics) fun g hg => ?_
    obtain ⟨g, hmem, rfl⟩ := List.mem_map.1 hg
    have hempty : g.operations.isEmpty = false := by simpa using hne g hmem
    rw [hempty, if_neg Bool.false_ne_true, finishGroup_builtin hp]
    simpa [OperationGroup.settle] using hne g hmem
  · refine hrefined examplePhase .embedExamples (fun _ _ => []) fun g hg => ?_
    obtain ⟨g, hmem, rfl⟩ := List.mem_map.1 hg
    simpa using hne g hmem

/-- The phases that change groups change places with every other phase. -/
lemma Ready.swap (hp : p ∈ Registry.builtin.profiles) {first second : Phase}
    (hfirst : first ∈ [Phase.group, Phase.examples]) (hsecond : second ∈ refinements) {r : Run}
    (h : Ready p r) : Phase.applyAll [first, second] r = Phase.applyAll [second, first] r := by
  obtain ⟨rfl, api, hapi, hne⟩ := h
  have hquiet := groupDiagnostics_of_ne_nil hne
  simp only [refinements, List.mem_cons, List.not_mem_nil, or_false] at hfirst hsecond
  rcases hfirst with rfl | rfl
  · rcases hsecond with rfl | rfl | rfl | rfl
    · rw [group_eq, model_eq]
      exact refined_swap hapi _ _ rfl hquiet hquiet rfl
    · rw [group_eq, property_eq]
      exact refined_swap hapi _ _ rfl hquiet hquiet rfl
    · rfl
    · rw [group_eq, examples_eq]
      exact refined_swap hapi _ _ (settleGroups_embedExamples hp api).symm hquiet
        ((groupDiagnostics_embedExamples api).trans hquiet) rfl
  · rcases hsecond with rfl | rfl | rfl | rfl
    · rw [examples_eq, model_eq]
      exact refined_swap hapi _ _ rfl rfl rfl rfl
    · rw [examples_eq, property_eq]
      exact refined_swap hapi _ _ rfl rfl rfl rfl
    · rw [examples_eq, group_eq]
      exact refined_swap hapi _ _ (settleGroups_embedExamples hp api) rfl rfl
        (groupDiagnostics_embedExamples api)
    · rfl

lemma changesModels_or_mem {phase : Phase} (h : phase ∈ refinements) :
    changesModels phase = true ∨ phase ∈ [Phase.group, Phase.examples] := by
  simp only [refinements, List.mem_cons, List.not_mem_nil, or_false] at h
  rcases h with rfl | rfl | rfl | rfl
  · exact .inl rfl
  · exact .inl rfl
  · exact .inr List.mem_cons_self
  · exact .inr (List.mem_cons_of_mem _ List.mem_cons_self)

lemma commuting_refinements (hp : p ∈ Registry.builtin.profiles) :
    Commuting (Ready p) changesModels refinements := by
  constructor
  case step => exact fun phase hphase r hr => hr.step hp hphase
  case swap =>
    intro first hfirst second hsecond hnot r hr
    rcases changesModels_or_mem hfirst with hmodels | hgroups
    · rcases changesModels_or_mem hsecond with hmodels' | hgroups
      · exact absurd ⟨hmodels, hmodels'⟩ hnot
      · exact (hr.swap hp hgroups hfirst).symm
    · exact hr.swap hp hgroups hsecond

/-- An order in which the models are identified before they are finished. -/
lemma filter_changesModels {order : List Phase} (hperm : order.Perm refinements)
    (hfirst : [Phase.model, Phase.property].Sublist order) :
    order.filter changesModels = refinements.filter changesModels := by
  have hsub := hfirst.filter changesModels
  have hlength := (hperm.filter changesModels).length_eq
  exact (hsub.eq_of_length hlength.symm).symm

lemma ready_builtRun : Ready p (builtRun p d c) := by
  refine ⟨rfl, builtApi p (p.configure c) d, rfl, fun g hg => ?_⟩
  obtain ⟨e, he, rfl⟩ := List.mem_map.1 hg
  exact grouped_built.operations_ne_nil he

/-- The phases after the build finish the run. -/
lemma applyAll_refinements (h : ∀ site ∈ d.sites, Accepted p (p.configure c) site) :
    Phase.applyAll refinements (builtRun p d c) = .ok (finishedRun p d c) := by
  have hbuiltin : Phase.builtin = .build :: refinements := rfl
  have hrun := generate_of_accepted h
  rw [generate, hbuiltin, applyAll_cons (build_of_accepted h)] at hrun
  cases hall : Phase.applyAll refinements (builtRun p d c) with
  | ok run =>
    rw [hall] at hrun
    exact congrArg Except.ok (Except.ok.inj hrun)
  | error halted =>
    rw [hall] at hrun
    cases hrun

/-- After the build, the phases give the same run in every order in which the models are identified
before they are finished. The two phases that change groups change places with each other and with
the other two, after whatever phases. -/
theorem runs_of_orders (hp : p ∈ Registry.builtin.profiles) {built : Run}
    (h : Phase.build.apply (.start p d c) = .ok built) :
    ∃ run, generate p d c = .ok run ∧
      (∀ order : List Phase, order.Perm [.model, .property, .group, .examples] →
        [Phase.model, Phase.property].Sublist order → Phase.applyAll order built = .ok run) ∧
      ∀ before : List Phase, (∀ phase ∈ before, phase ∈ refinements) →
        ∀ first ∈ [Phase.group, Phase.examples], ∀ second ∈ refinements, ∃ next,
          Phase.applyAll (before ++ [first, second]) built = .ok next ∧
          Phase.applyAll (before ++ [second, first]) built = .ok next := by
  obtain ⟨haccepted, rfl⟩ := build_eq_ok_iff.1 h
  have hcommuting := commuting_refinements hp
  refine ⟨finishedRun p d c, generate_of_accepted haccepted, fun order hperm hfirst => ?_, ?_⟩
  · rw [hcommuting.applyAll_perm hperm (fun q hq => hperm.subset hq)
      (filter_changesModels hperm hfirst) ready_builtRun]
    exact applyAll_refinements haccepted
  · intro before hbefore first hfirst second hsecond
    obtain ⟨middle, -, hmiddle, hmore⟩ := hcommuting.applyAll_append hbefore ready_builtRun
    have hmem : first ∈ refinements := by
      refine List.Sublist.subset ?_ hfirst
      exact (List.sublist_append_right [Phase.model, Phase.property] _)
    obtain ⟨next, hnext, -⟩ := hcommuting.applyAll_append
      (List.forall_mem_cons.2 ⟨hmem, List.forall_mem_singleton.2 hsecond⟩) hmiddle
    refine ⟨next, ?_, ?_⟩
    · rw [hmore, hnext]
    · rw [hmore, ← hmiddle.swap hp hfirst hsecond, hnext]

/-- A model whose id gets another type, and an operation with an example. -/
def embeddedPets : Document where
  definitions :=
    [("Pet", { properties := [("id", { kind := some "number", format := some "double" })] })]
  paths :=
    let found : ResponseDecl := { examples := [("application/json", .str "a \"pet\"")] }
    [("/pets/\x7bid\x7d", { get := some { id := some "find", responses := [("200", found)] } })]

theorem runs_of_orders_embeddedPets :
    Phase.build.apply (.start LoopBack.profile embeddedPets {}) =
        .ok (builtRun LoopBack.profile embeddedPets {}) ∧
      ∃ run api, Phase.applyAll [.examples, .model, .group, .property]
          (builtRun LoopBack.profile embeddedPets {}) = .ok run ∧
        generate LoopBack.profile embeddedPets {} = .ok run ∧ run.api = some api ∧
        (api.models.flatMap fun m => m.properties.map (·.dataType)) = ["Int"] ∧
        (api.operations.flatMap fun o => o.examples.map (·.text)) = ["a\\\"pet\\\""] ∧
        ∃ next, Phase.applyAll [.group, .examples] (builtRun LoopBack.profile embeddedPets {}) =
            .ok next ∧
          Phase.applyAll [.examples, .group] (builtRun LoopBack.profile embeddedPets {}) =
            .ok next := by
  have hbuild : Phase.build.apply (.start LoopBack.profile embeddedPets {}) =
      .ok (builtRun LoopBack.profile embeddedPets {}) := build_of_accepted (by decide +kernel)
  obtain ⟨run, hrun, horders, hpairs⟩ := runs_of_orders (mem_builtin_iff.2 (by simp)) hbuild
  have hplaces : [3, 0, 2, 1].Perm [0, 1, 2, 3] := by decide
  have hperm : [Phase.examples, .model, .group, .property].Perm
      [.model, .property, .group, .examples] := hplaces.map fun i => refinements.getD i .build
  have hfirst : [Phase.model, .property].Sublist [.examples, .model, .group, .property] :=
    .cons _ (.cons_cons _ (.cons _ (.cons_cons _ .slnil)))
  have hfinished : run = finishedRun LoopBack.profile embeddedPets {} :=
    (generate_eq_ok_iff.1 hrun).2
  refine ⟨hbuild, run, finishedApi LoopBack.profile (LoopBack.profile.configure {}) embeddedPets,
    horders _ hperm hfirst, hrun, by rw [hfinished]; rfl, by decide +kernel, by decide +kernel, ?_⟩
  exact hpairs [] (by simp) .group List.mem_cons_self .examples (by simp [refinements])

end ClientGen.Proofs
