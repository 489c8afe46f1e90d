import Mathlib.Data.List.Nodup
import ClientGen.Proofs.Places
import ClientGen.Proofs.Profiles
import ClientGen.Proofs.Settings

/-!
# Supporting files

What a run writes besides the files of its classes is fixed by the profile: for each profile the
manifest is a list of known places, moved below the folder of the sources. The files of Moya replace
all those of the profile that it is derived from.
-/

namespace ClientGen.Proofs

variable {p : Profile} {c : Config}

/-! ### Manifests -/

section

variable {es : List ManifestEntry}

lemma entries_addAll (m : Manifest) (hes : es.Nodup) (hnew : ∀ e ∈ es, e ∉ m.entries) :
    (m.addAll es).entries = m.entries ++ es := by
  induction es generalizing m with
  | nil => simp [Manifest.addAll]
  | cons e rest ih =>
    obtain ⟨he, hrest⟩ := List.nodup_cons.1 hes
    have hadd : (m.add e).entries = m.entries ++ [e] :=
      Manifest.entries_add_of_notMem (hnew e List.mem_cons_self)
    have hnext : ∀ x ∈ rest, x ∉ (m.add e).entries := by
      intro x hx hmem
      rcases Manifest.mem_add.1 hmem with hmem | rfl
      · exact hnew x (List.mem_cons_of_mem _ hx) hmem
      · exact he hx
    rw [Manifest.addAll, List.foldl_cons]
    refine (ih (m.add e) hrest hnext).trans ?_
    rw [hadd, List.append_assoc]
    rfl

lemma addAll_append (m : Manifest) (es fs : List ManifestEntry) :
    m.addAll (es ++ fs) = (m.addAll es).addAll fs :=
  List.foldl_append

lemma entries_ofList (hes : es.Nodup) : (Manifest.ofList es).entries = es :=
  entries_addAll {} hes fun _ _ => List.not_mem_nil

lemma entries_removeAll (m : Manifest) (es : List ManifestEntry) :
    (m.removeAll es).entries = m.entries.filter fun e => !es.contains e := by
  induction es generalizing m with
  | nil => simp [Manifest.removeAll]
  | cons e rest ih =>
    rw [Manifest.removeAll, List.foldl_cons]
    refine (ih (m.remove e)).trans ?_
    rw [Manifest.remove, List.filter_filter]
    refine List.filter_congr fun x _ => ?_
    rw [List.contains_cons, Bool.not_or, Bool.and_comm]
    rfl

/-- Entries of distinct templates are distinct, whatever folder and project are. -/
lemma nodup_of_templates (h : (es.map (·.template)).Nodup) : es.Nodup := .of_map _ h

end

lemma entries_swift (project folder : String) :
    (Swift.manifest project folder).entries =
      Swift.podspec project :: Swift.cartfile :: Swift.sourceFiles folder := by
  refine entries_ofList (nodup_of_templates ?_)
  change ((Swift.podspec "" :: Swift.cartfile :: Swift.sourceFiles "").map (·.template)).Nodup
  decide +kernel

/-- Every profile declares the name of the project, with a text for its default. -/
lemma projectOption_builtin (hp : p ∈ Registry.builtin.profiles) (c : Config) :
    ∃ project, (p.configure c).settings.string? Swift.projectOption = some project := by
  obtain ⟨o, ho, hname, s, htext⟩ :
      ∃ o ∈ p.spec.options, o.name = Swift.projectOption ∧ ∃ s, o.default = .text s := by
    rcases mem_builtin_iff.1 hp with rfl | rfl | rfl | rfl
    all_goals exact ⟨_, List.mem_cons_self, rfl, _, rfl⟩
  rw [settings_configure hp, ← hname]
  exact ⟨_, string?_resolve (nodup_optionNames hp) ho htext⟩

/-- The text of a config for the name of the project, or the default. -/
def projectName (c : Config) : String :=
  ((c.get? Swift.projectOption).map Json.text).getD Swift.defaultProject

lemma string?_projectName (c : Config) :
    (Settings.resolve Swift.options c).string? Swift.projectOption = some (projectName c) := by
  have hswift : Swift.profile ∈ Registry.builtin.profiles := mem_builtin_iff.2 (by simp)
  exact string?_resolve (o := .text _ _ _) (nodup_optionNames hswift) List.mem_cons_self rfl

lemma manifest_swift (c : Config) :
    (Swift.configure Swift.spec c).spec.manifest =
      Swift.manifest (projectName c) (Swift.sourceFolder (projectName c)) := by
  have hoptions : Swift.spec.options = Swift.options := rfl
  simp only [Swift.configure, Swift.project, hoptions, string?_projectName, Option.getD_some]

lemma layout_moya (c : Config) : (Moya.configure c).spec.layout = { source := projectName c } := by
  have hsettings : (Swift.configure Moya.spec c).settings = Settings.resolve Swift.options c := rfl
  simp only [Moya.configure, hsettings, string?_projectName, Option.getD_some]

lemma manifest_moya (c : Config) :
    (Moya.configure c).spec.manifest =
      ((Swift.configure Swift.spec c).spec.manifest.removeAll
          (Moya.droppedFiles (Swift.sourceFolder (projectName c)) (projectName c))).addAll
        (Moya.sourceFiles (projectName c)) := by
  have hsettings : (Swift.configure Moya.spec c).settings = Settings.resolve Swift.options c := rfl
  have hbase : (Swift.configure Moya.spec c).spec.manifest =
      (Swift.configure Swift.spec c).spec.manifest := rfl
  have hoptions : Moya.spec.options = Swift.options := rfl
  have hsource : (Swift.configure Moya.spec c).spec.layout.source =
      Swift.sourceFolder (projectName c) := by
    simp only [Swift.configure, Swift.project, hoptions, string?_projectName, Option.getD_some]
  simp only [Moya.configure, hsettings, string?_projectName, Option.getD_some, hbase, hsource]

/-- The two profiles list the same files, each in an order of its own. -/
lemma droppedFiles_perm (source project : String) :
    (Moya.droppedFiles source project).Perm (Swift.manifest project source).entries := by
  have hmoved : (Moya.droppedFiles source project).Perm
      (Swift.podspec project :: Swift.cartfile :: Swift.sourceFiles source).reverse :=
    (@List.perm_middle _ (Swift.sourceFile source "AlamofireImplementations")
      (["APIs", "Models", "Extensions"].map (Swift.sourceFile source))
      [Swift.sourceFile source "APIHelper", Swift.cartfile, Swift.podspec project]).symm
  rw [entries_swift]
  exact hmoved.trans (List.reverse_perm _)

/-- Nothing remains of the files of the base profile. -/
lemma removeAll_droppedFiles (source project : String) :
    ((Swift.manifest project source).removeAll (Moya.droppedFiles source project)).entries = [] := by
  rw [entries_removeAll, List.filter_eq_nil_iff]
  intro e he
  simpa using (droppedFiles_perm source project).mem_iff.2 he

lemma entries_moya (c : Config) :
    (Moya.configure c).spec.manifest.entries =
      Moya.sourceFiles (Moya.configure c).spec.layout.source := by
  have hnodup : (Moya.sourceFiles (projectName c)).Nodup := by
    refine nodup_of_templates ?_
    change ((Moya.sourceFiles "").map (·.template)).Nodup
    decide +kernel
  rw [manifest_moya, manifest_swift, layout_moya,
    entries_addAll _ hnodup (by simp [removeAll_droppedFiles]), removeAll_droppedFiles,
    List.nil_append]

/-! ### Places of the files -/

def entryPath (e : ManifestEntry) : String := joinFolder e.folder e.fileName

/-- Distinct places, none of which is that of a class. -/
def Fixed (places : List Place) : Prop :=
  places.Nodup ∧ ∀ q ∈ places, q.Proper ∧ q.ofClass = false

instance (places : List Place) : Decidable (Fixed places) :=
  inferInstanceAs (Decidable (_ ∧ _))

lemma Fixed.sublist {places more : List Place} (h : Fixed more) (hsub : places.Sublist more) :
    Fixed places :=
  ⟨hsub.nodup h.1, fun q hq => h.2 q (hsub.subset hq)⟩

/-- The tables of a run give each class one file and fix the places of all other files. -/
structure Supplied (spec : ProfileSpec) (project : String) (places : List Place) : Prop where
  models : spec.layout.models = "Models" ∧ spec.modelTemplates.map (·.extension) = [".swift"]
  apis : spec.layout.apis = "APIs" ∧ spec.apiTemplates.map (·.extension) = [".swift"]
  files : (spec.topLevel ++ spec.manifest.entries).map entryPath =
    places.map (Place.path spec.layout.source project)
  fixed : Fixed places

def swiftPlaces : List Place :=
  .project :: .root "Cartfile" ::
    ["APIHelper", "AlamofireImplementations", "Extensions", "Models", "APIs"].map .top

def moyaPlaces : List Place :=
  ["String+URLEscapedString", "ParameterEncoding+encode", "Parameters", "JsonSerializable",
    "JsonDeserializers", "Utils"].map .top

def plainPlaces : List Place := [.top "Index", .top "Helper", .root "README.md"]

/-- The places of LoopBack's manifest, by what it is extended with. -/
def loopBackSupport (realm data : Bool) : List Place :=
  ["AuthenticationMethod", "APIKey", "RequestAuthenticator"].map (.below "Auth") ++
    ["API", "APIError", "RxAlamofireObjectMapping", "Primitives+URLEscapedString", "NSData+JSON",
      "Int64+_ObjectiveCBridgeable", "ISO8601ExtendedDateTransform"].map (.below "Util") ++
    [.project, .root "LICENSE", .below "Util" "NSDate+toString"] ++
    (if realm then
      ["RealmListTransform", "RealmOptionalTransform", "RealmWrappers",
        "RealmInt64ListTransform"].map (.below "Realm")
    else []) ++
    if data then ["UnsupportedOperation", "UnsupportedModelType"].map (.below "Util") else []

def loopBackPlaces (realm data : Bool) : List Place :=
  (if data then [.top "DataAPI"] else []) ++ loopBackSupport realm data

lemma ite_sublist {α : Type} (b : Bool) (xs : List α) : (if b then xs else []).Sublist xs := by
  cases b
  · exact List.nil_sublist xs
  · exact List.Sublist.refl xs

lemma loopBackPlaces_sublist (realm data : Bool) :
    (loopBackPlaces realm data).Sublist (loopBackPlaces true true) :=
  (ite_sublist ..).append (((List.Sublist.refl _).append (ite_sublist ..)).append (ite_sublist ..))

lemma fixed_check :
    ∀ places ∈ [swiftPlaces, moyaPlaces, plainPlaces, loopBackPlaces true true], Fixed places := by
  decide +kernel

lemma paths_swift (folder project : String) :
    (Swift.podspec project :: Swift.cartfile :: Swift.sourceFiles folder).map entryPath =
      swiftPlaces.map (Place.path folder project) := rfl

lemma paths_moya (folder project : String) :
    (Moya.sourceFiles folder).map entryPath = moyaPlaces.map (Place.path folder project) := rfl

lemma supplied_swift (c : Config) :
    Supplied (Swift.configure Swift.spec c).spec
      (Swift.project (Settings.resolve Swift.options c)) swiftPlaces := by
  refine ⟨⟨rfl, rfl⟩, ⟨rfl, rfl⟩, ?_, fixed_check _ (by simp)⟩
  have htop : (Swift.configure Swift.spec c).spec.topLevel = [] := rfl
  rw [htop, List.nil_append, Swift.configure, entries_swift]
  exact paths_swift ..

lemma supplied_moya (c : Config) : Supplied (Moya.configure c).spec "" moyaPlaces := by
  refine ⟨⟨rfl, rfl⟩, ⟨rfl, rfl⟩, ?_, fixed_check _ (by simp)⟩
  have htop : (Moya.configure c).spec.topLevel = [] := rfl
  rw [htop, List.nil_append, entries_moya]
  exact paths_moya ..

lemma supplied_plain : Supplied Plain.spec "" plainPlaces := by
  refine ⟨⟨rfl, rfl⟩, ⟨rfl, rfl⟩, ?_, fixed_check _ (by simp)⟩
  decide +kernel

/-! ### LoopBack -/

lemma path_below (folder : String) {last : Char} (h : folder.toList.getLast? = some last)
    (hlast : last ≠ '/') (source project template name : String) :
    entryPath ⟨template, joinFolder source folder, name ++ ".swift"⟩ =
      (Place.below folder name).path source project :=
  joinFolder_joinFolder h hlast (by simp) source

lemma paths_loopBack (source project : String) (realm data : Bool) :
    (((LoopBack.manifest project { source }).addAll
        (if realm then LoopBack.realmFiles { source } else [])).addAll
        (if data then LoopBack.dataFiles { source } else [])).entries.map entryPath =
      (loopBackSupport realm data).map (Place.path source project) := by
  have hauth := path_below "Auth" rfl (by decide) source project
  have hutil := path_below "Util" rfl (by decide) source project
  have hrealm := path_below "Realm" rfl (by decide) source project
  have hproject : entryPath ⟨"Podspec.tera", "", project ++ ".podspec"⟩ =
      Place.project.path source project := rfl
  have hlicense : entryPath ⟨"LICENSE.tera", "", "LICENSE"⟩ =
      (Place.root "LICENSE").path source project := rfl
  have hapi : entryPath ⟨"BaseAPI.tera", joinFolder source "Util", "API.swift"⟩ =
      (Place.below "Util" "API").path source project := hutil _ "API"
  rw [LoopBack.manifest, Manifest.ofList, ← addAll_append, ← addAll_append, entries_addAll]
  · cases realm <;> cases data <;>
      simp only [loopBackSupport, LoopBack.realmFiles, LoopBack.dataFiles, LoopBack.sourceFile,
        Layout.authFolder, Layout.utilFolder, Layout.persistenceFolder, List.map_cons,
        List.map_nil, List.cons_append, List.nil_append, List.append_nil, hauth, hutil, hrealm,
        hproject, hlicense, hapi, if_true, if_false, Bool.false_eq_true]
  · refine ((List.Sublist.refl _).append ((ite_sublist ..).append (ite_sublist ..))).nodup ?_
    refine nodup_of_templates ?_
    simp only [LoopBack.realmFiles, LoopBack.dataFiles, LoopBack.sourceFile, List.map_append,
      List.map_cons, List.map_nil]
    decide +kernel
  · exact fun _ _ => List.not_mem_nil

/-- What the settings change of the files: the project, and the two flags. -/
lemma spec_loopBack {project : String}
    (hproject : (LoopBack.configure c).settings.string? LoopBack.projectOption = some project) :
    ∃ realm data : Bool,
      (LoopBack.configure c).spec.layout = { source := project } ∧
      (LoopBack.configure c).spec.topLevel =
        (if data then [⟨"DataAPI.tera", project, "DataAPI.swift"⟩] else []) ∧
      (LoopBack.configure c).spec.manifest =
        ((LoopBack.manifest project { source := project }).addAll
          (if realm then LoopBack.realmFiles { source := project } else [])).addAll
          (if data then LoopBack.dataFiles { source := project } else []) ∧
      (LoopBack.configure c).spec.modelTemplates = LoopBack.spec.modelTemplates ∧
      (LoopBack.configure c).spec.apiTemplates = LoopBack.spec.apiTemplates := by
  refine ⟨(Settings.resolve LoopBack.options c).flag LoopBack.realmOption,
    (Settings.resolve LoopBack.options c).flag LoopBack.dataOption, ?_⟩
  have htop : LoopBack.spec.topLevel = [] := rfl
  have hnone : ∀ m : Manifest, m.addAll [] = m := fun _ => rfl
  have hsettings : (LoopBack.configure c).settings = .resolve LoopBack.options c := rfl
  rw [hsettings] at hproject
  simp only [LoopBack.configure, hproject, Option.getD_some]
  split_ifs
  all_goals
    simp only [LoopBack.withDataApi, LoopBack.withRealm, htop, hnone, List.nil_append, and_self]

lemma supplied_loopBack {project : String}
    (hproject : (LoopBack.configure c).settings.string? LoopBack.projectOption = some project) :
    ∃ realm data, (LoopBack.configure c).spec.layout.source = project ∧
      Supplied (LoopBack.configure c).spec project (loopBackPlaces realm data) := by
  obtain ⟨realm, data, hlayout, htop, hmanifest, hmodels, hapis⟩ := spec_loopBack hproject
  have hfixed := (fixed_check _ (by simp)).sublist (loopBackPlaces_sublist realm data)
  refine ⟨realm, data, by rw [hlayout], ?_, ?_, ?_, hfixed⟩
  · rw [hlayout, hmodels]
    exact ⟨rfl, rfl⟩
  · rw [hlayout, hapis]
    exact ⟨rfl, rfl⟩
  · rw [htop, hmanifest, hlayout, List.map_append, paths_loopBack, loopBackPlaces, List.map_append]
    congr 1
    cases data <;> rfl

theorem supplied_builtin (hp : p ∈ Registry.builtin.profiles) (c : Config) :
    ∃ project places, Supplied (p.configure c).spec project places := by
  rcases mem_builtin_iff.1 hp with rfl | rfl | rfl | rfl
  · exact ⟨_, _, supplied_swift c⟩
  · exact ⟨_, _, supplied_moya c⟩
  · obtain ⟨project, hproject⟩ := projectOption_builtin hp c
    obtain ⟨_, _, -, hsupplied⟩ := supplied_loopBack hproject
    exact ⟨_, _, hsupplied⟩
  · exact ⟨_, _, supplied_plain⟩

end ClientGen.Proofs
