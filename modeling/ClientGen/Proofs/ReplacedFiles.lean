import ClientGen.Proofs.SupportingFiles

/-!
# Replaced files

Moya starts from the manifest that the profile `swift` makes of the same config and takes its files
away one by one, each by template, folder and file name. Whatever the config says of the project,
the two profiles name it alike, so that nothing is left of the base and the files of Moya stand
alone, at the root of the project.
-/

namespace ClientGen.Proofs

def moyaFiles (project : String) : List ManifestEntry :=
  [⟨"Swift+URLEscapedString.tera", project, "String+URLEscapedString.swift"⟩,
   ⟨"ParameterEncoding+encode.tera", project, "ParameterEncoding+encode.swift"⟩,
   ⟨"Parameters.tera", project, "Parameters.swift"⟩,
   ⟨"JsonSerializable.tera", project, "JsonSerializable.swift"⟩,
   ⟨"JsonDeserializers.tera", project, "JsonDeserializers.swift"⟩,
   ⟨"Utils.tera", project, "Utils.swift"⟩]

lemma sourceFiles_moya (project : String) : Moya.sourceFiles project = moyaFiles project := rfl

/-- No template of the base profile is one of Moya's. -/
lemma template_notMem_moyaFiles {project folder : String} {e : ManifestEntry}
    (h : e ∈ (Swift.manifest project folder).entries) (project' : String) :
    e ∉ moyaFiles project' := by
  intro hmoya
  have htemplate : e.template ∈ (moyaFiles "").map (·.template) :=
    List.mem_map_of_mem (f := (·.template)) hmoya
  have hbase : e.template ∈ (Swift.manifest "" "").entries.map (·.template) := by
    rw [entries_swift] at h ⊢
    exact List.mem_map_of_mem (f := (·.template)) h
  have hdisjoint : ∀ template ∈ (Swift.manifest "" "").entries.map (·.template),
      template ∉ (moyaFiles "").map (·.template) := by
    decide +kernel
  exact hdisjoint _ hbase htemplate

/-- For every config, Moya's sources stand in the folder of the project that its settings name, and
its manifest lists the six files of Moya there, in order. Each file of the base profile for the same
config is taken away, by an entry of its own and the same in all three parts, and none comes back. -/
theorem moya_replaces_files (c : Config) :
    ∃ project,
      (Moya.profile.configure c).settings.string? Swift.projectOption = some project ∧
      project = ((c.get? "projectName").map Json.text).getD "SwaggerClient" ∧
      (Moya.profile.configure c).spec.layout.source = project ∧
      (Moya.profile.configure c).spec.manifest.entries = moyaFiles project ∧
      (∀ e ∈ (Swift.profile.configure c).spec.manifest.entries,
        e ∉ (Moya.profile.configure c).spec.manifest.entries) ∧
      ∃ removed : List ManifestEntry,
        removed.Perm (Swift.profile.configure c).spec.manifest.entries ∧
        ((Swift.profile.configure c).spec.manifest.removeAll removed).entries = [] ∧
        (Moya.profile.configure c).spec.manifest =
          ((Swift.profile.configure c).spec.manifest.removeAll removed).addAll
            (moyaFiles project) := by
  have hmanifest : (Swift.profile.configure c).spec.manifest =
      Swift.manifest (projectName c) (Swift.sourceFolder (projectName c)) := manifest_swift c
  have hsource : (Moya.profile.configure c).spec.layout.source = projectName c :=
    congrArg Layout.source (layout_moya c)
  have hentries : (Moya.profile.configure c).spec.manifest.entries = moyaFiles (projectName c) := by
    rw [← sourceFiles_moya, ← hsource]
    exact entries_moya c
  have hperm : (Moya.droppedFiles (Swift.sourceFolder (projectName c)) (projectName c)).Perm
      (Swift.profile.configure c).spec.manifest.entries := by
    rw [hmanifest]
    exact droppedFiles_perm _ _
  refine ⟨projectName c, string?_projectName c, rfl, hsource, hentries, fun e he => ?_,
    _, hperm, ?_, manifest_moya c⟩
  · rw [hmanifest] at he
    rw [hentries]
    exact template_notMem_moyaFiles he _
  · rw [hmanifest]
    exact removeAll_droppedFiles ..

/-- A name that is no text is taken as it is written. -/
example : (Moya.profile.configure (.ofEntries [("projectName", .arr [.bool true, .null])])
    ).spec.layout.source = "[true,null]" := by decide

end ClientGen.Proofs
