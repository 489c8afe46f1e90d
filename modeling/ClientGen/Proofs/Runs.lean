import Mathlib.Tactic.Common
import Mathlib.Logic.Basic
import ClientGen.Profile.Builtin
import ClientGen.Run.Pipeline

/-!
# Runs from end to end

The build phase either stops at the first operation whose id cannot name a method or gives an API;
every later phase takes the API and puts one back. A run is therefore decided by the declared ids
alone, and a finished run is known in closed form.
-/

namespace ClientGen.Proofs

variable (p : Profile) (t : Target) (d : Document) (c : Config)

/-- The id in the document; one that is absent counts as empty. -/
def declaredId (site : OperationSite) : String := site.decl.id.getD ""

/-- The id of an operation is not blank, not reserved and gives the method a name. -/
structure Accepted (site : OperationSite) : Prop where
  present : Unicode.allBlank (declaredId site) = false
  unreserved : t.spec.names.isReserved (declaredId site) = false
  named : p.operationName t (declaredId site) ≠ ""

/-- The failure that the id of an operation causes. An id is first looked at as declared, for
blanks and then for reserved words, and after that by the name that the profile makes of it. -/
inductive Refused (site : OperationSite) : Failure → Prop
  | blank (h : Unicode.allBlank (declaredId site) = true) :
    Refused site (.emptyOperationId site.method site.path)
  | reserved (h : Unicode.allBlank (declaredId site) = false)
    (hr : t.spec.names.isReserved (declaredId site) = true) :
    Refused site (.reservedOperationId (declaredId site) site.method site.path)
  | unnamed (h : Unicode.allBlank (declaredId site) = false)
    (hr : t.spec.names.isReserved (declaredId site) = false)
    (hn : p.operationName t (declaredId site) = "") :
    Refused site (.emptyOperationId site.method site.path)

variable {p t d c}

/-- The checks of an id in their order. -/
lemma refusal?_eq (site : OperationSite) :
    site.refusal? p t =
      if Unicode.allBlank (declaredId site) then some (.emptyOperationId site.method site.path)
      else if t.spec.names.isReserved (declaredId site) then
        some (.reservedOperationId (declaredId site) site.method site.path)
      else if (p.operationName t (declaredId site)).isEmpty then
        some (.emptyOperationId site.method site.path)
      else none := rfl

lemma refusal?_eq_some_iff {site : OperationSite} {failure : Failure} :
    site.refusal? p t = some failure ↔ Refused p t site failure := by
  rw [refusal?_eq]
  constructor
  · intro h
    split_ifs at h with hb hr hn
    · obtain rfl := Option.some.inj h
      exact .blank hb
    · obtain rfl := Option.some.inj h
      exact .reserved (by simpa using hb) hr
    · obtain rfl := Option.some.inj h
      exact .unnamed (by simpa using hb) (by simpa using hr) (by simpa using hn)
  · intro h
    cases h with
    | blank h => simp [h]
    | reserved h hr => simp [h, hr]
    | unnamed h hr hn => simp [h, hr, hn]

lemma refusal?_eq_none_iff {site : OperationSite} :
    site.refusal? p t = none ↔ Accepted p t site := by
  rw [refusal?_eq]
  constructor
  · intro h
    split_ifs at h with hb hr hn
    exact ⟨by simpa using hb, by simpa using hr, by simpa using hn⟩
  · rintro ⟨hb, hr, hn⟩
    simp [hb, hr, hn]

instance (site : OperationSite) : Decidable (Accepted p t site) :=
  decidable_of_iff _ refusal?_eq_none_iff

/-- An operation is refused for a reason or accepted, never both. -/
lemma not_accepted_iff {site : OperationSite} :
    ¬Accepted p t site ↔ ∃ failure, Refused p t site failure := by
  rw [← refusal?_eq_none_iff, ← ne_eq, Option.ne_none_iff_exists']
  simp only [refusal?_eq_some_iff]

lemma Accepted.not_refused {site : OperationSite} {failure : Failure} (h : Accepted p t site) :
    ¬Refused p t site failure :=
  fun hr => not_accepted_iff.2 ⟨failure, hr⟩ h

/-- The reasons of a refusal in terms of the declared id. -/
lemma not_accepted_iff_id {site : OperationSite} :
    ¬Accepted p t site ↔ Unicode.allBlank (declaredId site) = true ∨
      t.spec.names.isReserved (declaredId site) = true ∨
      p.operationName t (declaredId site) = "" := by
  constructor
  · intro h
    by_contra hcon
    simp only [not_or, Bool.not_eq_true] at hcon
    exact h ⟨hcon.1, hcon.2.1, hcon.2.2⟩
  · rintro (h | h | h) ⟨hb, hr, hn⟩
    · simp [hb] at h
    · simp [hr] at h
    · exact hn h

/-! ### The sites that are built -/

lemma acceptedSites_of_accepted {sites : List OperationSite}
    (h : ∀ site ∈ sites, Accepted p t site) : acceptedSites p t sites = (sites, none) := by
  induction sites with
  | nil => rfl
  | cons site rest ih =>
    have hsite := refusal?_eq_none_iff.2 (h site (by simp))
    have hrest := ih fun s hs => h s (by simp [hs])
    simp [acceptedSites, hsite, hrest]

lemma acceptedSites_append {before after : List OperationSite} {site : OperationSite}
    {failure : Failure} (h : ∀ s ∈ before, Accepted p t s) (hr : Refused p t site failure) :
    acceptedSites p t (before ++ site :: after) = (before, some failure) := by
  induction before with
  | nil => simp [acceptedSites, refusal?_eq_some_iff.2 hr]
  | cons s rest ih =>
    have hs := refusal?_eq_none_iff.2 (h s (by simp))
    have hrest := ih fun s' hs' => h s' (by simp [hs'])
    simp [acceptedSites, hs, hrest]

/-- The first refused site of a list, if not all are accepted. -/
lemma exists_first_refused {sites : List OperationSite} (h : ¬∀ site ∈ sites, Accepted p t site) :
    ∃ before site after failure, sites = before ++ site :: after ∧
      (∀ s ∈ before, Accepted p t s) ∧ Refused p t site failure := by
  induction sites with
  | nil => simp at h
  | cons site rest ih =>
    by_cases hs : Accepted p t site
    · have hrest : ¬∀ s ∈ rest, Accepted p t s := by
        intro hall
        apply h
        intro s hmem
        rcases List.mem_cons.1 hmem with rfl | hmem
        · exact hs
        · exact hall s hmem
      obtain ⟨before, s, after, failure, rfl, hb, hr⟩ := ih hrest
      refine ⟨site :: before, s, after, failure, rfl, ?_, hr⟩
      intro s' hs'
      rcases List.mem_cons.1 hs' with rfl | hs'
      · exact hs
      · exact hb s' hs'
    · obtain ⟨failure, hr⟩ := not_accepted_iff.1 hs
      exact ⟨[], site, rest, failure, rfl, by simp, hr⟩

/-! ### Phases -/

section

variable (p t d c)

/-- The API of a document without refused operations, before it is refined. -/
def builtApi : Api where
  header := d.header
  models := d.definitions.map fun (n, s) => .build p t n s
  groups := (groupOperations p t (d.sites.map (.build p t)) {}).groups.map (·.2)

/-- The API after all phases. -/
def finishedApi : Api :=
  ((((builtApi p t d).identify p t).finishModels p t).settleGroups p t).embedExamples p t

/-- The diagnostics of the build phase. -/
def builtDiagnostics : List Diagnostic :=
  d.definitions.flatMap (fun (n, s) => Model.diagnostics t n s) ++
    d.sites.flatMap (Operation.diagnostics t)

/-- The diagnostics of all phases. -/
def finishedDiagnostics : List Diagnostic :=
  d.definitions.flatMap (fun (n, s) => Model.diagnostics t n s) ++
    d.sites.flatMap (Operation.diagnostics t) ++ (builtApi p t d).identifyDiagnostics t ++
    (((builtApi p t d).identify p t).finishModels p t).groupDiagnostics

/-- The last state of a run that no id stops. -/
def finishedRun : Run where
  profile := p
  target := p.configure c
  document := d
  api := some (finishedApi p (p.configure c) d)
  diagnostics := finishedDiagnostics p (p.configure c) d
  anonymous := (groupOperations p (p.configure c) (d.sites.map (.build p (p.configure c))) {}).anonymous

/-- The state that the build phase leaves when no id stops it. -/
def builtRun : Run :=
  { finishedRun p d c with
    api := some (builtApi p (p.configure c) d)
    diagnostics := builtDiagnostics (p.configure c) d }

end

lemma apiBuild_of_accepted (h : ∀ site ∈ d.sites, Accepted p t site) :
    Api.build p t d {} =
      ⟨.ok (builtApi p t d, d.definitions.flatMap (fun (n, s) => Model.diagnostics t n s) ++
          d.sites.flatMap (Operation.diagnostics t)),
        (groupOperations p t (d.sites.map (.build p t)) {}).anonymous⟩ := by
  unfold Api.build builtApi
  rw [acceptedSites_of_accepted h]

lemma apiBuild_of_refused {before after : List OperationSite} {site : OperationSite}
    {failure : Failure} (hd : d.sites = before ++ site :: after)
    (h : ∀ s ∈ before, Accepted p t s) (hr : Refused p t site failure) :
    (Api.build p t d {}).result = .error failure := by
  unfold Api.build
  rw [hd, acceptedSites_append h hr]

/-- A phase that finds an API succeeds and leaves the changed API behind. -/
lemma refine_apply {name : String} {change : Run → Api → Api}
    {diagnostics : Run → Api → List Diagnostic} {r : Run} {api : Api} (h : r.api = some api) :
    (Phase.refine name change diagnostics).apply r =
      .ok ({ r with api := some (change r api) }.report (diagnostics r api)) := by
  simp only [Phase.refine, Run.built, h]

lemma build_of_accepted (h : ∀ site ∈ d.sites, Accepted p (p.configure c) site) :
    Phase.build.apply (.start p d c) = .ok (builtRun p d c) := by
  simp only [Phase.build, Run.start, apiBuild_of_accepted h]
  simp [Run.report, builtRun, finishedRun, builtDiagnostics]

theorem generate_of_accepted (h : ∀ site ∈ d.sites, Accepted p (p.configure c) site) :
    generate p d c = .ok (finishedRun p d c) := by
  simp only [generate, Phase.applyAll, Phase.builtin, List.foldlM_cons, build_of_accepted h,
    Phase.model, Phase.property, Phase.group, Phase.examples]
  simp [bind, Except.bind, refine_apply, Run.report, Except.mapError, builtRun, builtDiagnostics,
    finishedRun, finishedApi, finishedDiagnostics, pure, Except.pure]

theorem generate_of_refused {before after : List OperationSite} {site : OperationSite}
    {failure : Failure} (hd : d.sites = before ++ site :: after)
    (h : ∀ s ∈ before, Accepted p (p.configure c) s) (hr : Refused p (p.configure c) site failure) :
    generate p d c = .error failure := by
  have hb := apiBuild_of_refused hd h hr
  simp only [generate, Phase.applyAll, Phase.builtin, List.foldlM_cons, Phase.build, Run.start, hb]
  rfl

/-- The build phase succeeds on the documents on which the whole run does. -/
lemma build_eq_ok_iff {built : Run} :
    Phase.build.apply (.start p d c) = .ok built ↔
      (∀ site ∈ d.sites, Accepted p (p.configure c) site) ∧ built = builtRun p d c := by
  constructor
  · intro h
    by_cases hall : ∀ site ∈ d.sites, Accepted p (p.configure c) site
    · rw [build_of_accepted hall] at h
      exact ⟨hall, (Except.ok.inj h).symm⟩
    · obtain ⟨before, site, after, failure, hd, hb, hr⟩ := exists_first_refused hall
      simp only [Phase.build, Run.start, apiBuild_of_refused hd hb hr] at h
      cases h
  · rintro ⟨hall, rfl⟩
    exact build_of_accepted hall

/-- A finished run in closed form. -/
theorem generate_eq_ok_iff {run : Run} :
    generate p d c = .ok run ↔
      (∀ site ∈ d.sites, Accepted p (p.configure c) site) ∧ run = finishedRun p d c := by
  constructor
  · intro h
    by_cases hall : ∀ site ∈ d.sites, Accepted p (p.configure c) site
    · rw [generate_of_accepted hall] at h
      exact ⟨hall, (Except.ok.inj h).symm⟩
    · obtain ⟨before, site, after, failure, hd, hb, hr⟩ := exists_first_refused hall
      rw [generate_of_refused hd hb hr] at h
      cases h
  · rintro ⟨hall, rfl⟩
    exact generate_of_accepted hall

/-- A failure comes from the first refused operation. -/
theorem generate_eq_error_iff {failure : Failure} :
    generate p d c = .error failure ↔
      ∃ before site after, d.sites = before ++ site :: after ∧
        (∀ s ∈ before, Accepted p (p.configure c) s) ∧ Refused p (p.configure c) site failure := by
  constructor
  · intro h
    by_cases hall : ∀ site ∈ d.sites, Accepted p (p.configure c) site
    · rw [generate_of_accepted hall] at h
      cases h
    · obtain ⟨before, site, after, failure', hd, hb, hr⟩ := exists_first_refused hall
      rw [generate_of_refused hd hb hr] at h
      obtain rfl := Except.error.inj h
      exact ⟨before, site, after, hd, hb, hr⟩
  · rintro ⟨before, site, after, hd, hb, hr⟩
    exact generate_of_refused hd hb hr

/-! ### Pipelines without plugins -/

section

variable {ν : Type}

lemma foldlM_step_plain (phases : List Phase) (s : Session ν) :
    ((phases.foldlM ({} : Pipeline ν).step s).mapError (·.failure)).map (·.run) =
      (Phase.applyAll phases s.run).mapError (·.failure) := by
  induction phases generalizing s with
  | nil => rfl
  | cons phase rest ih =>
    simp only [Phase.applyAll, List.foldlM_cons, Pipeline.step, List.foldlM_nil, pure_bind]
    cases h : phase.apply s.run with
    | error halted => rfl
    | ok r => exact ih { s with run := r }

/-- Without plugins and further phases a pipeline does what `generate` does. -/
theorem pipeline_run_plain (p : Profile) (d : Document) (c : Config) (notes : ν) :
    ((({} : Pipeline ν).run p d c notes).mapError (·.failure)).map (·.run) = generate p d c := by
  unfold Pipeline.run generate
  rw [List.append_nil]
  exact foldlM_step_plain Phase.builtin _

lemma pipeline_error_iff {notes : ν} {failure : Failure} :
    (∃ stopped, ({} : Pipeline ν).run p d c notes = .error stopped ∧ stopped.failure = failure) ↔
      generate p d c = .error failure := by
  rw [← pipeline_run_plain p d c notes]
  cases ({} : Pipeline ν).run p d c notes <;> simp [Except.mapError, Except.map]

lemma pipeline_ok_iff {notes : ν} {r : Run} :
    (∃ session, ({} : Pipeline ν).run p d c notes = .ok session ∧ session.run = r) ↔
      generate p d c = .ok r := by
  rw [← pipeline_run_plain p d c notes]
  cases ({} : Pipeline ν).run p d c notes <;> simp [Except.mapError, Except.map]

/-- A pipeline fails exactly when the id of some operation is blank, reserved or gives no name, and
then with the failure of the first such operation; in every other case all phases succeed and leave
an API. No phase ever misses the API. -/
theorem pipeline_outcome (p : Profile) (d : Document) (c : Config) (notes : ν) :
    ((∃ stopped, ({} : Pipeline ν).run p d c notes = .error stopped) ↔
      ∃ site ∈ d.sites, Unicode.allBlank (declaredId site) = true ∨
        (p.configure c).spec.names.isReserved (declaredId site) = true ∨
        p.operationName (p.configure c) (declaredId site) = "") ∧
    (∀ failure,
      (∃ stopped, ({} : Pipeline ν).run p d c notes = .error stopped ∧ stopped.failure = failure) ↔
        ∃ before site after, d.sites = before ++ site :: after ∧
          (∀ s ∈ before, Accepted p (p.configure c) s) ∧
          Refused p (p.configure c) site failure) ∧
    (∀ session, ({} : Pipeline ν).run p d c notes = .ok session →
      ∃ api, session.run.api = some api) ∧
    ∀ stopped phase, ({} : Pipeline ν).run p d c notes = .error stopped →
      stopped.failure ≠ .notBuilt phase := by
  refine ⟨?_, ?_, ?_, ?_⟩
  · have hfail : (∃ stopped, ({} : Pipeline ν).run p d c notes = .error stopped) ↔
        ∃ failure, generate p d c = .error failure := by
      constructor
      · rintro ⟨stopped, h⟩
        exact ⟨stopped.failure, pipeline_error_iff.1 ⟨stopped, h, rfl⟩⟩
      · rintro ⟨failure, h⟩
        obtain ⟨stopped, h, -⟩ := pipeline_error_iff.2 h
        exact ⟨stopped, h⟩
    rw [hfail]
    simp only [← not_accepted_iff_id]
    constructor
    · rintro ⟨failure, h⟩
      obtain ⟨before, site, after, hd, -, hr⟩ := generate_eq_error_iff.1 h
      exact ⟨site, by simp [hd], fun ha => ha.not_refused hr⟩
    · rintro ⟨site, hs, hn⟩
      obtain ⟨before, s, after, failure, hd, hb, hr⟩ :=
        exists_first_refused fun hall => hn (hall site hs)
      exact ⟨failure, generate_of_refused hd hb hr⟩
  · intro failure
    rw [pipeline_error_iff, generate_eq_error_iff]
  · intro session h
    have hg : generate p d c = .ok session.run := pipeline_ok_iff.1 ⟨session, h, rfl⟩
    obtain ⟨-, hrun⟩ := generate_eq_ok_iff.1 hg
    exact ⟨finishedApi p (p.configure c) d, by rw [hrun, finishedRun]⟩
  · intro stopped phase h hf
    have hg : generate p d c = .error stopped.failure := pipeline_error_iff.1 ⟨stopped, h, rfl⟩
    obtain ⟨before, site, after, -, -, hr⟩ := generate_eq_error_iff.1 hg
    rw [hf] at hr
    cases hr

end

end ClientGen.Proofs
