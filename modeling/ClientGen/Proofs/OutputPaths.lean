import ClientGen.Proofs.Emissions
import ClientGen.Proofs.FinishedModels
import ClientGen.Proofs.GroupNames
import ClientGen.Proofs.References
import ClientGen.Proofs.SupportingFiles

/-!
# Paths of the output

Every file of a run goes to a place of its own, but for the files of classes: the class names of two
definitions, or of two segments of paths, may be the same after they are written in Pascal case, and
then so are the files. No other two files of a run meet.
-/

namespace ClientGen.Proofs

variable {p : Profile} {t : Target} {d : Document} {c : Config}

/-- Two files of classes of one kind and one name. -/
def SameClass (x y : Emission) : Prop :=
  x.kind = y.kind ∧ (x.kind = .model ∨ x.kind = .api) ∧ x.fileName = y.fileName

/-! ### Files of classes -/

/-- The file of a class, in a folder below the sources. -/
structure ClassFile (source project : String) (kind : EmissionKind) (folder className : String)
    (x : Emission) : Prop where
  kind : x.kind = kind
  fileName : x.fileName = className ++ ".swift"
  path : x.path = (Place.below folder className).path source project

lemma classFile_classEmission {folder source project : String} {last : Char}
    (h : folder.toList.getLast? = some last) (hlast : last ≠ '/') {b : TemplateBinding}
    (hb : b.extension = ".swift") (kind : EmissionKind) (context : Entries Json)
    (className : String) :
    ClassFile source project kind folder className
      (Run.classEmission (joinFolder source folder) className kind context b) := by
  have hfile : className ++ b.extension = className ++ ".swift" := by rw [hb]
  refine ⟨rfl, hfile, ?_⟩
  rw [Emission.path, Run.classEmission, hfile]
  exact joinFolder_joinFolder h hlast (by simp) source

section

variable {source project folder name other : String} {kind : EmissionKind} {x y : Emission}

lemma ClassFile.path_eq_iff (hx : ClassFile source project kind folder name x)
    (hy : ClassFile source project kind folder other y) : x.path = y.path ↔ name = other := by
  rw [hx.path, hy.path, Place.path_eq_iff (Place.proper_below ..) (Place.proper_below ..), Place.below_inj]

lemma ClassFile.sameClass_iff (hkind : kind = .model ∨ kind = .api)
    (hx : ClassFile source project kind folder name x)
    (hy : ClassFile source project kind folder other y) : SameClass x y ↔ name = other := by
  rw [SameClass, hx.kind, hy.kind, hx.fileName, hy.fileName, String.append_left_inj]
  exact ⟨fun h => h.2.2, fun h => ⟨rfl, hkind, h⟩⟩

end

/-! ### The emissions of a run -/

/-- The files `es` of a run: one for each model and each group, and the others, whose places are
known. -/
structure LaidOut (source project : String) (places : List Place) (api : Api)
    (modelFile : Model → Emission) (apiFile : OperationGroup → Emission)
    (others es : List Emission) : Prop where
  files : es = api.models.map modelFile ++ (api.groups.map apiFile ++ others)
  models : ∀ m, ClassFile source project .model "Models" m.className (modelFile m)
  apis : ∀ g, ClassFile source project .api "APIs" g.className (apiFile g)
  paths : others.map (·.path) = places.map (Place.path source project)
  kinds : ∀ x ∈ others, x.kind ≠ .model ∧ x.kind ≠ .api

lemma laidOut_emissionsOf (r : Run) (api : Api) {project : String} {places : List Place}
    (h : Supplied r.target.spec project places) :
    ∃ modelFile apiFile others, LaidOut r.target.spec.layout.source project places api modelFile
      apiFile others (r.emissionsOf api) := by
  obtain ⟨hmodels, hmodelTemplates⟩ := h.models
  obtain ⟨hapis, hapiTemplates⟩ := h.apis
  obtain ⟨b, hb, hext⟩ := List.map_eq_singleton_iff.1 hmodelTemplates
  obtain ⟨b', hb', hext'⟩ := List.map_eq_singleton_iff.1 hapiTemplates
  refine ⟨fun m => modelFile r api m b, fun g => groupFile r api g b',
    r.target.spec.topLevel.map (topLevelFile r api) ++
      r.target.spec.manifest.entries.map (supportingFile r api), ?_⟩
  constructor
  case files =>
    simp only [Run.emissionsOf, hb, hb', List.map_eq_flatMap, List.append_assoc]
    rfl
  case models =>
    intro m
    rw [modelFile, Layout.modelFolder, hmodels]
    exact classFile_classEmission rfl (by decide) hext ..
  case apis =>
    intro g
    rw [groupFile, Layout.apiFolder, hapis]
    exact classFile_classEmission rfl (by decide) hext' ..
  case paths =>
    rw [← h.files, List.map_append, List.map_append, List.map_map, List.map_map]
    rfl
  case kinds =>
    intro x hx
    rcases List.mem_append.1 hx with hx | hx
    all_goals obtain ⟨e, -, rfl⟩ := List.mem_map.1 hx
    all_goals exact ⟨by rintro ⟨⟩, by rintro ⟨⟩⟩

section

variable {source project : String} {places : List Place} {api : Api}
  {modelFile : Model → Emission} {apiFile : OperationGroup → Emission} {others es : List Emission}

lemma LaidOut.ne_others (h : LaidOut source project places api modelFile apiFile others es)
    (hfixed : Fixed places) {q : Place} (hq : q.Proper)
    (hclass : q.ofClass = true) {y : Emission} (hy : y ∈ others) :
    q.path source project ≠ y.path := by
  intro heq
  have hmem : y.path ∈ places.map (Place.path source project) :=
    h.paths ▸ List.mem_map_of_mem hy
  obtain ⟨r, hr, hpath⟩ := List.mem_map.1 hmem
  obtain ⟨hproper, hnot⟩ := hfixed.2 r hr
  obtain rfl := Place.path_injOn hq hproper (heq.trans hpath.symm)
  rw [hclass] at hnot
  cases hnot

lemma LaidOut.pairwise_others (h : LaidOut source project places api modelFile apiFile others es)
    (hfixed : Fixed places) :
    others.Pairwise fun x y => x.path ≠ y.path := by
  have hpaths : (others.map (·.path)).Nodup := by
    rw [h.paths]
    exact hfixed.1.map_on fun q hq r hr heq =>
      Place.path_injOn (hfixed.2 q hq).1 (hfixed.2 r hr).1 heq
  exact List.pairwise_map.1 hpaths

/-- Files of different kinds have different paths, so a relation between the files of a run is to be
shown for models, for groups and for the other files. -/
lemma LaidOut.pairwise (h : LaidOut source project places api modelFile apiFile others es)
    (hfixed : Fixed places) {R : Emission → Emission → Prop}
    (hmodels : api.models.Pairwise fun m m' => R (modelFile m) (modelFile m'))
    (hapis : api.groups.Pairwise fun g g' => R (apiFile g) (apiFile g'))
    (hothers : others.Pairwise R)
    (hkinds : ∀ x y : Emission, x.kind ≠ y.kind → x.path ≠ y.path → R x y) : es.Pairwise R := by
  rw [h.files, List.pairwise_append, List.pairwise_append, List.pairwise_map, List.pairwise_map]
  refine ⟨hmodels, ⟨hapis, hothers, ?_⟩, ?_⟩
  · intro x hx y hy
    obtain ⟨g, -, rfl⟩ := List.mem_map.1 hx
    refine hkinds _ _ ?_ ?_
    · rw [(h.apis g).kind]
      exact (h.kinds y hy).2.symm
    · rw [(h.apis g).path]
      exact h.ne_others hfixed (Place.proper_below ..) (Place.ofClass_apis _) hy
  · intro x hx y hy
    obtain ⟨m, -, rfl⟩ := List.mem_map.1 hx
    refine hkinds _ _ ?_ ?_
    · rw [(h.models m).kind]
      rcases List.mem_append.1 hy with hy | hy
      · obtain ⟨g, -, rfl⟩ := List.mem_map.1 hy
        rw [(h.apis g).kind]
        decide
      · exact (h.kinds y hy).1.symm
    · rw [(h.models m).path]
      rcases List.mem_append.1 hy with hy | hy
      · obtain ⟨g, -, rfl⟩ := List.mem_map.1 hy
        rw [(h.apis g).path, ne_eq, Place.path_eq_iff (Place.proper_below ..) (Place.proper_below ..)]
        exact Place.below_models_ne_apis _ _
      · exact h.ne_others hfixed (Place.proper_below ..) (Place.ofClass_models _) hy

/-- Only the files of classes may meet. -/
lemma LaidOut.path_eq_iff (h : LaidOut source project places api modelFile apiFile others es)
    (hfixed : Fixed places) :
    es.Pairwise fun x y => (x.path = y.path ↔ SameClass x y) := by
  refine h.pairwise hfixed ?_ ?_ ?_ ?_
  · refine List.pairwise_of_forall_mem_list fun m _ m' _ => ?_
    rw [(h.models m).path_eq_iff (h.models m'), (h.models m).sameClass_iff (.inl rfl) (h.models m')]
  · refine List.pairwise_of_forall_mem_list fun g _ g' _ => ?_
    rw [(h.apis g).path_eq_iff (h.apis g'), (h.apis g).sameClass_iff (.inr rfl) (h.apis g')]
  · refine (h.pairwise_others hfixed).imp_of_mem fun {x y} hx _ hpath => ?_
    refine iff_of_false hpath ?_
    rintro ⟨-, hmodel | hapi, -⟩
    · exact (h.kinds x hx).1 hmodel
    · exact (h.kinds x hx).2 hapi
  · exact fun x y hkind hpath => iff_of_false hpath fun hsame => hkind hsame.1

/-- The files of a run have distinct paths if no two models and no two groups share a name. -/
lemma LaidOut.nodup_iff (h : LaidOut source project places api modelFile apiFile others es)
    (hfixed : Fixed places) :
    (es.map (·.path)).Nodup ↔
      (api.models.map (·.className)).Nodup ∧ (api.groups.map (·.className)).Nodup := by
  have hmodels : ∀ m m', (modelFile m).path ≠ (modelFile m').path ↔ m.className ≠ m'.className :=
    fun m m' => not_congr ((h.models m).path_eq_iff (h.models m'))
  have hapis : ∀ g g', (apiFile g).path ≠ (apiFile g').path ↔ g.className ≠ g'.className :=
    fun g g' => not_congr ((h.apis g).path_eq_iff (h.apis g'))
  simp only [List.Nodup, List.pairwise_map]
  constructor
  · intro hne
    rw [h.files, List.pairwise_append, List.pairwise_append, List.pairwise_map,
      List.pairwise_map] at hne
    obtain ⟨hmodel, ⟨hapi, -, -⟩, -⟩ := hne
    exact ⟨hmodel.imp (hmodels _ _).1, hapi.imp (hapis _ _).1⟩
  · rintro ⟨hmodel, hapi⟩
    exact h.pairwise hfixed (hmodel.imp (hmodels _ _).2) (hapi.imp (hapis _ _).2)
      (h.pairwise_others hfixed) fun _ _ _ hpath => hpath

end

/-- The files of a finished run have distinct paths just when the definitions give distinct class
names, and so do the segments of paths that name something. Two files of a run meet only if they
belong to classes of one kind and one name; no other file replaces another or keeps it out. -/
theorem paths_of_run (hp : p ∈ Registry.builtin.profiles) {run : Run}
    (h : generate p d c = .ok run) :
    ∃ es, run.emissions = .ok es ∧
      ((es.map (·.path)).Nodup ↔
        (d.definitions.map fun e => p.modelName (p.configure c) e.1).Nodup ∧
        (((d.sites.map fun site => resourceSegment site.path).eraseDups.filter isNameable).map
          fun segment => (p.apiName (p.configure c) segment {}).1).Nodup) ∧
      es.Pairwise fun x y => (x.path = y.path ↔ SameClass x y) := by
  obtain ⟨-, rfl⟩ := generate_eq_ok_iff.1 h
  obtain ⟨project, places, hsupplied⟩ := supplied_builtin hp c
  obtain ⟨modelFile, apiFile, others, hlaid⟩ :=
    laidOut_emissionsOf (finishedRun p d c) (finishedApi p (p.configure c) d) hsupplied
  have hmodels : (finishedApi p (p.configure c) d).models.map (·.className) =
      d.definitions.map fun e => p.modelName (p.configure c) e.1 := by
    rw [finishedApi_models, List.map_map]
    exact List.map_congr_left fun e _ => className_finishedModel hp e.1 e.2
  refine ⟨_, rfl, ?_, ?_⟩
  · rw [hlaid.nodup_iff hsupplied.fixed, hmodels, nodup_groupNames_iff hp]
  · exact hlaid.path_eq_iff hsupplied.fixed

/-- Two definitions whose names differ in case alone, next to a third. -/
def twinPets : Document where
  definitions := [("pet", {}), ("Pet", {}), ("owner", {})]
  paths := [("/pets", { get := some { id := some "find" } })]

theorem paths_of_run_twinPets :
    generate Plain.profile twinPets {} = .ok (finishedRun Plain.profile twinPets {}) ∧
      ∃ es, (finishedRun Plain.profile twinPets {}).emissions = .ok es ∧
        es.map (·.path) =
          ["Sources/Models/Pet.swift", "Sources/Models/Pet.swift", "Sources/Models/Owner.swift",
           "Sources/APIs/PetsAPI.swift", "Sources/Index.swift", "Sources/Helper.swift",
           "README.md"] ∧
        ¬(twinPets.definitions.map fun e =>
          Plain.profile.modelName (Plain.profile.configure {}) e.1).Nodup ∧
        es.Pairwise fun x y => (x.path = y.path ↔ SameClass x y) := by
  have hrun : generate Plain.profile twinPets {} =
      .ok (finishedRun Plain.profile twinPets {}) := generate_of_accepted (by decide +kernel)
  obtain ⟨es, hes, -, hpairs⟩ := paths_of_run (mem_builtin_iff.2 (by simp)) hrun
  refine ⟨hrun, es, hes, ?_, by decide +kernel, hpairs⟩
  obtain rfl := Except.ok.inj hes
  decide +kernel

end ClientGen.Proofs
