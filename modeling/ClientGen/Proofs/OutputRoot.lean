import ClientGen.Proofs.ClassNames
import ClientGen.Proofs.OutputPaths

/-!
# The root of the output

The name of the project stands in front of most paths, so it decides whether the files of a run stay
below the root of the output. A name from the root or with `..` leads out of it for every profile
whose sources move with the project; the empty name does so for `swift` alone, which writes a slash
behind the name where the others join folders and skip empty ones.
-/

namespace ClientGen.Proofs

variable {p : Profile} {d : Document} {c : Config} {source project : String}

/-! ### Contained places -/

/-- A place that is below the root if the sources and the project are. -/
def Place.Inner : Place → Prop
  | .source file => file ≠ "" ∧ IsContained file
  | .root file => IsContained file
  | .project => True

instance : DecidablePred Place.Inner
  | .source _ => inferInstanceAs (Decidable (_ ∧ _))
  | .root _ => inferInstanceAs (Decidable (IsContained _))
  | .project => .isTrue trivial

def Place.isSource : Place → Bool
  | .source _ => true
  | _ => false

/-- Places of which some, at least one, move with the sources. -/
def Movable (places : List Place) : Prop :=
  (∀ q ∈ places, q.Inner) ∧ ∃ q ∈ places, q.isSource = true

lemma inner_check :
    ∀ places ∈ [swiftPlaces, moyaPlaces, plainPlaces, loopBackPlaces true true],
      ∀ q ∈ places, q.Inner := by
  decide +kernel

lemma movable_fixed : ∀ places ∈ [swiftPlaces, moyaPlaces, plainPlaces], Movable places := by
  intro places hplaces
  refine ⟨inner_check places (List.mem_append_left [_] hplaces), ?_⟩
  revert places
  decide

lemma movable_loopBack (realm data : Bool) : Movable (loopBackPlaces realm data) := by
  constructor
  · intro q hq
    exact inner_check _ (by simp) q ((loopBackPlaces_sublist realm data).subset hq)
  · revert realm data
    decide

lemma isContained_path {q : Place} (hq : q.Inner) (hsource : IsContained source)
    (hproject : IsContained project) : IsContained (q.path source project) := by
  cases q with
  | source file => exact (isContained_joinFolder_iff hq.1 hq.2 source).2 hsource
  | root file => exact hq
  | project => exact hproject.append_ending (by decide) (rfl : _ = some 'c') (by decide)

/-- The file of a class is inside whatever folder of a fixed name it stands in. -/
lemma inner_below {folder className : String} (hfolder : folder ≠ "" ∧ IsContained folder)
    (hname : IsClassName className) : (Place.below folder className).Inner := by
  have hup : ".." ∉ pathNames (className ++ ".swift") := by
    rw [pathNames_of_notMem hname.slash_notMem, List.mem_singleton]
    intro heq
    have hlast := congrArg (·.toList.getLast?) heq
    simp [String.toList_append] at hlast
  exact ⟨by simp, (isContained_append_slash_iff hup).2 hfolder⟩

lemma all_contained_iff {places : List Place} {api : Api} {modelFile : Model → Emission}
    {apiFile : OperationGroup → Emission} {others es : List Emission}
    (h : LaidOut source project places api modelFile apiFile others es)
    (hplaces : Movable places)
    (hmodels : ∀ m ∈ api.models, IsClassName m.className)
    (hgroups : ∀ g ∈ api.groups, IsClassName g.className)
    (hproject : IsContained source → IsContained project) :
    (∀ e ∈ es, IsContained e.path) ↔ IsContained source := by
  constructor
  · intro hall
    obtain ⟨q, hq, hmoves⟩ := hplaces.2
    have hmem : q.path source project ∈ others.map (·.path) := h.paths ▸ List.mem_map_of_mem hq
    obtain ⟨e, he, hpath⟩ := List.mem_map.1 hmem
    have hcontained : IsContained e.path := by
      refine hall e ?_
      rw [h.files]
      exact List.mem_append_right _ (List.mem_append_right _ he)
    cases q with
    | source file =>
      obtain ⟨hne, hfile⟩ := hplaces.1 _ hq
      rw [hpath] at hcontained
      exact (isContained_joinFolder_iff hne hfile source).1 hcontained
    | root file => cases hmoves
    | project => cases hmoves
  · intro hsource e he
    rw [h.files, List.mem_append, List.mem_append, List.mem_map, List.mem_map] at he
    rcases he with ⟨m, hm, rfl⟩ | ⟨g, hg, rfl⟩ | he
    · rw [(h.models m).path]
      exact isContained_path (inner_below (by decide) (hmodels m hm)) hsource (hproject hsource)
    · rw [(h.apis g).path]
      exact isContained_path (inner_below (by decide) (hgroups g hg)) hsource (hproject hsource)
    · have hpath : e.path ∈ places.map (Place.path source project) :=
        h.paths ▸ List.mem_map_of_mem he
      obtain ⟨q, hq, hpath⟩ := List.mem_map.1 hpath
      rw [← hpath]
      exact isContained_path (hplaces.1 q hq) hsource (hproject hsource)

/-! ### Sources of the profiles -/

/-- The names of projects with which a profile keeps all files below the root. -/
def Rooted (p : Profile) (project : String) : Prop :=
  p.name = Plain.profile.name ∨
    (IsContained project ∧ (p.name = Swift.profile.name → project ≠ ""))

instance : Decidable (Rooted p project) := inferInstanceAs (Decidable (_ ∨ _))

lemma project_swift
    (hproject : (Swift.profile.configure c).settings.string? Swift.projectOption = some project) :
    Swift.project (Settings.resolve Swift.options c) = project := by
  have hvalue : (Settings.resolve Swift.options c).string? Swift.projectOption = some project :=
    hproject
  rw [Swift.project, hvalue, Option.getD_some]

lemma source_swift
    (hproject : (Swift.profile.configure c).settings.string? Swift.projectOption = some project) :
    (Swift.profile.configure c).spec.layout.source = project ++ "/" ++ "Classes/Swaggers" := by
  rw [String.append_assoc]
  exact congrArg Swift.sourceFolder (project_swift hproject)

lemma source_moya
    (hproject : (Moya.profile.configure c).settings.string? Swift.projectOption = some project) :
    (Moya.profile.configure c).spec.layout.source = project := by
  have hvalue : (Swift.configure Moya.spec c).settings.string? Swift.projectOption = some project :=
    hproject
  simp only [Moya.profile, Moya.configure]
  rw [hvalue, Option.getD_some]

lemma movable_supplied (hp : p ∈ Registry.builtin.profiles)
    (hproject : (p.configure c).settings.string? Swift.projectOption = some project) :
    ∃ named places, Supplied (p.configure c).spec named places ∧ Movable places ∧
      (IsContained (p.configure c).spec.layout.source ↔ Rooted p project) ∧
      (IsContained (p.configure c).spec.layout.source → IsContained named) := by
  rcases mem_builtin_iff.1 hp with rfl | rfl | rfl | rfl
  · have hsupplied := supplied_swift c
    rw [project_swift hproject] at hsupplied
    -- Here alone a slash follows the name of the project even if that is empty.
    have hcontained : IsContained (Swift.profile.configure c).spec.layout.source ↔
        project ≠ "" ∧ IsContained project := by
      rw [source_swift hproject]
      exact isContained_append_slash_iff (by decide)
    refine ⟨project, swiftPlaces, hsupplied, movable_fixed _ (by simp), ?_, ?_⟩
    · rw [hcontained]
      simp [Rooted, Swift.profile, Plain.profile, and_comm]
    · exact fun hsource => (hcontained.1 hsource).2
  · refine ⟨"", moyaPlaces, supplied_moya c, movable_fixed _ (by simp), ?_, fun _ => by decide⟩
    rw [source_moya hproject]
    simp [Rooted, Moya.profile, Plain.profile, Swift.profile]
  · obtain ⟨realm, data, hsource, hsupplied⟩ := supplied_loopBack hproject
    have hlayout : (LoopBack.profile.configure c).spec.layout.source = project := hsource
    refine ⟨project, _, hsupplied, movable_loopBack realm data, ?_, ?_⟩
    · rw [hlayout]
      simp [Rooted, LoopBack.profile, Plain.profile, Swift.profile]
    · rw [hlayout]
      exact id
  · have hsource : (Plain.profile.configure c).spec.layout.source = Plain.sourceFolder := rfl
    refine ⟨"", plainPlaces, supplied_plain, movable_fixed _ (by simp), ?_, fun _ => by decide⟩
    rw [hsource]
    exact iff_of_true (by decide) (.inl rfl)

/-- All files of a finished run have paths below the root of the output just when the name of the
project keeps them there. Joined to any folder, such a path leads to a place below the place of that
folder, in whatever file tree it is followed. -/
theorem contained_of_run (hp : p ∈ Registry.builtin.profiles) {run : Run}
    (h : generate p d c = .ok run) :
    ∃ project es, run.target.settings.string? Swift.projectOption = some project ∧
      run.emissions = .ok es ∧
      ((∀ e ∈ es, IsContained e.path) ↔ Rooted p project) ∧
      ∀ e ∈ es, IsContained e.path → ∀ base,
        placeOf (joinPath base e.path) = placeOf base ++ placeOf e.path ∧
        ∀ (tree : FileTree) (place : FilePlace), tree.find? (joinPath base e.path) = some place →
          place = placeOf base ++ placeOf e.path := by
  obtain ⟨-, rfl⟩ := generate_eq_ok_iff.1 h
  obtain ⟨project, hproject⟩ := projectOption_builtin hp c
  obtain ⟨named, places, hsupplied, hmovable, hsource, hnamed⟩ := movable_supplied hp hproject
  obtain ⟨modelFile, apiFile, others, hlaid⟩ :=
    laidOut_emissionsOf (finishedRun p d c) (finishedApi p (p.configure c) d) hsupplied
  refine ⟨project, _, hproject, rfl, ?_, ?_⟩
  · rw [← hsource]
    exact all_contained_iff hlaid hmovable (fun m => isClassName_of_mem_models hp)
      (fun g => isClassName_of_mem_groups hp) hnamed
  · intro e _ he base
    have hplace := placeOf_joinPath he base
    refine ⟨hplace, fun tree place hfind => ?_⟩
    rw [placeOf_of_find? hfind, hplace]

def unnamedProject : Config := .ofEntries [(Swift.projectOption, .str "")]

/-- Without a name for the project the sources of `swift` start at the root of all files. -/
theorem contained_of_run_unnamedProject :
    generate Swift.profile {} unnamedProject = .ok (finishedRun Swift.profile {} unnamedProject) ∧
      ∃ es, (finishedRun Swift.profile {} unnamedProject).emissions = .ok es ∧
        es.map (·.path) =
          [".podspec", "Cartfile", "/Classes/Swaggers/APIHelper.swift",
           "/Classes/Swaggers/AlamofireImplementations.swift", "/Classes/Swaggers/Extensions.swift",
           "/Classes/Swaggers/Models.swift", "/Classes/Swaggers/APIs.swift"] ∧
        ¬(∀ e ∈ es, IsContained e.path) ∧ ¬Rooted Swift.profile "" := by
  have hrun : generate Swift.profile {} unnamedProject =
      .ok (finishedRun Swift.profile {} unnamedProject) := generate_of_accepted (by decide +kernel)
  obtain ⟨project, es, hproject, hes, hall, -⟩ := contained_of_run (mem_builtin_iff.2 (by simp)) hrun
  have hempty : (finishedRun Swift.profile {} unnamedProject).target.settings.string?
      Swift.projectOption = some "" := by decide +kernel
  obtain rfl := Option.some.inj (hproject.symm.trans hempty)
  have hroot : ¬Rooted Swift.profile "" := by decide
  refine ⟨hrun, es, hes, ?_, mt hall.1 hroot, hroot⟩
  obtain rfl := Except.ok.inj hes
  decide +kernel

end ClientGen.Proofs
