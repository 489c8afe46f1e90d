import ClientGen.Proofs.Emissions
import ClientGen.Proofs.GroupNames
import ClientGen.Proofs.PathNames
import ClientGen.Proofs.References
import ClientGen.Proofs.SupportingFiles

/-!
# Class names and their files

Names of definitions and segments of paths may hold any character. A class name made of them holds
only letters and digits, and at most an underscore in front: capital forms of letters are letters,
and all other characters are dropped with the separators of words. A file that is named for a class
stands therefore directly in its folder.
-/

namespace ClientGen.Proofs

open Unicode Identifier

variable {p : Profile} {t : Target} {d : Document} {c : Config}

/-! ### Characters of names -/

/-- All control characters lie below U+00A0; of the characters there, names take the letters and
digits of ASCII. -/
def isNameChar (ch : Char) : Bool := 0xa0 ≤ ch.toNat || ch.isAlphanum

lemma isNameChar_of_isAlphanumeric {ch : Char} (h : isAlphanumeric ch = true) :
    isNameChar ch = true := by
  by_cases hascii : ch.toNat < 0x80
  · rw [isAlphanumeric_of_lt hascii] at h
    rw [isNameChar, h, Bool.or_true]
  · have hranges : alphanumericRanges.all (fun r => 0xa0 ≤ r.1) = true := by decide +kernel
    unfold isAlphanumeric inRanges at h
    rw [if_neg hascii] at h
    obtain ⟨r, hr, hin⟩ := List.any_eq_true.1 h
    have hfirst := List.all_eq_true.1 hranges r hr
    simp only [Bool.and_eq_true, decide_eq_true_eq] at hin hfirst
    have hcode : 0xa0 ≤ ch.toNat := by omega
    simp [isNameChar, hcode]

/-- Capital forms of characters above U+007F are at U+00A0 or above, but for letters of ASCII; those
that are one such letter belong to dotless i and long s, which have entries of their own. -/
lemma capitals_check :
    upperRuns.all (fun r => 0xa0 ≤ r.first + r.offset || asciiCapitals.contains r.first) = true ∧
    upperRuns.all (fun r => !asciiCapitals.contains r.first || r.first == r.last) = true ∧
    upperSpecial.all (fun e => e.2.all fun code => isNameChar (Char.ofNat code)) = true ∧
    asciiCapitals.all (fun code => (upper (Char.ofNat code)).all isNameChar) = true := by
  decide +kernel

lemma isNameChar_mapped {ch : Char} (h : isNameChar ch = true)
    (hcapital : ch.toNat ∉ asciiCapitals) : isNameChar (mapped upperRuns ch) = true := by
  obtain ⟨hruns, hsingle, -, -⟩ := capitals_check
  rcases mapped_cases upperRuns_check.1 ch with ⟨hself, -⟩ | ⟨r, hr, hcovers, hoffset⟩
  · rw [hself]
    exact h
  · have hfirst := List.all_eq_true.1 hruns r hr
    have hlast := List.all_eq_true.1 hsingle r hr
    simp only [CaseRun.covers, Bool.and_eq_true, decide_eq_true_eq] at hcovers
    have hnot : asciiCapitals.contains r.first = false := by
      by_contra hin
      rw [Bool.not_eq_false] at hin
      rw [hin, Bool.not_true, Bool.false_or, beq_iff_eq] at hlast
      have hcode : ch.toNat = r.first := by omega
      rw [List.contains_iff_mem, ← hcode] at hin
      exact hcapital hin
    rw [hnot, Bool.or_false, decide_eq_true_eq] at hfirst
    have hcode : 0xa0 ≤ (mapped upperRuns ch).toNat := by omega
    simp [isNameChar, hcode]

lemma isNameChar_upper {ch x : Char} (h : isNameChar ch = true) (hx : x ∈ upper ch) :
    isNameChar x = true := by
  obtain ⟨-, -, hspecial, hcapitals⟩ := capitals_check
  by_cases hascii : ch.toNat < 0x80
  · have hall := forall_ascii (P := fun ch => isNameChar ch = true → isNameChar ch.toUpper = true)
      (by decide +kernel) hascii
    rw [upper_of_ascii hascii, List.mem_singleton] at hx
    rw [hx]
    exact hall h
  by_cases hcapital : ch.toNat ∈ asciiCapitals
  · have hall := List.all_eq_true.1 hcapitals _ hcapital
    rw [Char.ofNat_toNat] at hall
    exact List.all_eq_true.1 hall x hx
  rcases upper_of_not_ascii (Nat.not_lt.1 hascii) with ⟨codes, hmem, heq⟩ | heq
  · rw [heq] at hx
    obtain ⟨code, hcode, rfl⟩ := List.mem_map.1 hx
    exact List.all_eq_true.1 (List.all_eq_true.1 hspecial _ hmem) code hcode
  · rw [heq, List.mem_singleton] at hx
    rw [hx]
    exact isNameChar_mapped h hcapital

/-- Making a text legal leaves, besides the separators of words, only characters of names. -/
lemma isNameChar_of_mem_legal {cs : List Char} {ch : Char} (h : ch ∈ legal cs)
    (hword : isWordSeparator ch = false) : isNameChar ch = true := by
  obtain ⟨x, -, rfl⟩ := List.mem_map.1 h
  split_ifs at hword ⊢ with hlegal
  · rcases Bool.or_eq_true_iff.1 hlegal with hletter | hsep
    · exact isNameChar_of_isAlphanumeric hletter
    · rw [hsep] at hword
      cases hword
  · exact absurd hword (by decide)

lemma isNameChar_of_mem_pascalCase {name : String} {ch : Char}
    (h : ch ∈ (pascalCase (legalize name)).toList) : isNameChar ch = true := by
  rw [pascalCase, legalize, String.toList_ofList, String.toList_ofList] at h
  exact forall_pascal (P := fun ch => isNameChar ch = true)
    (fun x hx y hy => isNameChar_upper hx hy) (fun x hx hword => isNameChar_of_mem_legal hx hword)
    ch h

lemma isNameChar_of_mem_initialCaps {name : String}
    (hname : ∀ ch ∈ name.toList, isNameChar ch = true) {ch : Char}
    (h : ch ∈ (initialCaps name).toList) : isNameChar ch = true := by
  rw [initialCaps, String.toList_ofList] at h
  cases hcs : name.toList with
  | nil =>
    rw [hcs] at h
    cases h
  | cons first rest =>
    rw [hcs] at h hname
    rcases List.mem_append.1 h with h | h
    · exact isNameChar_upper (hname first List.mem_cons_self) h
    · exact hname ch (List.mem_cons_of_mem _ h)

/-! ### Class names -/

/-- Below U+00A0 a class name has only letters and digits of ASCII, but for an underscore that may be
its first character. -/
def IsClassName (name : String) : Prop :=
  ∀ (i : Nat) (ch : Char), name.toList[i]? = some ch → ch.toNat < 0xa0 →
    ch.isAlphanum = true ∨ (i = 0 ∧ ch = '_')

lemma isClassName_of_isNameChar {name : String} (h : ∀ ch ∈ name.toList, isNameChar ch = true) :
    IsClassName name := by
  intro i ch hch hlt
  have hname := h ch (List.mem_of_getElem? hch)
  rw [isNameChar, Bool.or_eq_true, decide_eq_true_eq] at hname
  exact .inl (hname.resolve_left (by omega))

lemma isClassName_underscored {name : String} (h : ∀ ch ∈ name.toList, isNameChar ch = true) :
    IsClassName (underscored name) := by
  have hlist : (underscored name).toList = '_' :: name.toList := by
    rw [underscored, String.toList_append]
    rfl
  intro i ch hch hlt
  rw [hlist] at hch
  cases i with
  | zero => exact .inr ⟨rfl, (Option.some.inj hch).symm⟩
  | succ i => exact .inl ((isClassName_of_isNameChar h i ch hch hlt).resolve_right fun hfirst => by
      have hname := h ch (List.mem_of_getElem? hch)
      rw [hfirst.2] at hname
      exact absurd hname (by decide))

/-- Marks and control characters by which a name would take part in a path. -/
def isPathMark (ch : Char) : Bool :=
  ch == '/' || ch == '\\' || ch == '.' || ch.toNat < 0x20 || (0x7f ≤ ch.toNat && ch.toNat < 0xa0)

lemma IsClassName.not_isPathMark {name : String} (h : IsClassName name) {ch : Char}
    (hch : ch ∈ name.toList) : isPathMark ch = false := by
  by_cases hlt : ch.toNat < 0xa0
  · obtain ⟨i, hi⟩ := List.mem_iff_getElem?.1 hch
    rcases h i ch hi hlt with hletter | ⟨-, rfl⟩
    · have hall := forall_ascii (P := fun ch => ch.isAlphanum = true → isPathMark ch = false)
        (by decide +kernel) (toNat_lt_of_isAlphanum hletter)
      exact hall hletter
    · rfl
  · have hmarks : ∀ mark : Char, mark.toNat < 0xa0 → (ch == mark) = false := by
      rintro mark hmark
      refine beq_eq_false_iff_ne.2 ?_
      rintro rfl
      exact hlt hmark
    have hlow : ¬ch.toNat < 0x20 := by omega
    simp [isPathMark, hmarks '/' (by decide), hmarks '\\' (by decide), hmarks '.' (by decide), hlow,
      hlt]

theorem isClassName_modelName (hp : p ∈ Registry.builtin.profiles) (c : Config) (name : String) :
    IsClassName (p.modelName (p.configure c) name) := by
  have hpascal : ∀ ch ∈ (pascalCase (legalize name)).toList, isNameChar ch = true :=
    fun ch => isNameChar_of_mem_pascalCase
  rw [modelName_builtin hp, Target.modelName, ReservedWords.sanitize]
  split_ifs
  · rw [names_configure hp, escape_builtin hp]
    exact isClassName_underscored hpascal
  · exact isClassName_of_isNameChar hpascal

lemma isNameChar_of_mem_anonymousName {issued : Nat} {ch : Char}
    (h : ch ∈ (anonymousName issued).toList) : isNameChar ch = true := by
  rw [anonymousName, String.toList_append, List.mem_append] at h
  rcases h with h | h
  · have hword : "AnonymousAPI".toList.all isNameChar = true := by decide
    exact List.all_eq_true.1 hword ch h
  · rw [Nat.toString_eq_repr, Nat.toList_repr] at h
    have hdigit := Nat.isDigit_of_mem_toDigits (by decide) (by decide) h
    rw [isNameChar, Char.isAlphanum, hdigit, Bool.or_true, Bool.or_true]

theorem isClassName_apiName (hp : p ∈ Registry.builtin.profiles) (t : Target) (baseName : String)
    (anonymous : AnonymousNames) : IsClassName (p.apiName t baseName anonymous).1 := by
  rw [apiName_builtin hp, apiName]
  split_ifs
  · exact isClassName_of_isNameChar fun ch hch => isNameChar_of_mem_anonymousName hch
  · refine isClassName_of_isNameChar fun ch hch => ?_
    rw [String.toList_append, List.mem_append] at hch
    rcases hch with hch | hch
    · exact isNameChar_of_mem_initialCaps (fun x => isNameChar_of_mem_pascalCase) hch
    · have hword : "API".toList.all isNameChar = true := by decide
      exact List.all_eq_true.1 hword ch hch

lemma isClassName_of_mem_models (hp : p ∈ Registry.builtin.profiles) {m : Model}
    (hm : m ∈ (finishedApi p (p.configure c) d).models) : IsClassName m.className := by
  rw [className_of_mem hp hm]
  exact isClassName_modelName hp c m.name

lemma isClassName_of_mem_groups (hp : p ∈ Registry.builtin.profiles) {g : OperationGroup}
    (hg : g ∈ (finishedApi p t d).groups) : IsClassName g.className := by
  have hnames := named_groupOperations (t := t) hp (d.sites.map (.build p t))
  have hclass : g.className ∈ (finishedApi p t d).groups.map (·.className) :=
    List.mem_map_of_mem hg
  rw [groupNames_finishedApi hp] at hclass
  obtain ⟨e, he, hname⟩ := List.mem_map.1 hclass
  rw [← hname]
  cases hsegment : isNameable e.1 with
  | true =>
    rw [hnames.named e he hsegment]
    exact isClassName_apiName hp t e.1 {}
  | false =>
    have hnumber : e.2 ∈ (List.range _).map anonymousName :=
      hnames.numbered ▸ List.mem_map_of_mem (List.mem_filter.2 ⟨he, by simp [hsegment]⟩)
    obtain ⟨issued, -, hissued⟩ := List.mem_map.1 hnumber
    rw [← hissued]
    exact isClassName_of_isNameChar fun ch => isNameChar_of_mem_anonymousName

/-! ### Files of classes -/

/-- The file of a class that stands directly in a folder, named for the class and the binding that
renders it. -/
structure StandsIn (folder className : String) (b : TemplateBinding) (e : Emission) : Prop where
  inFolder : e.folder = folder
  fileName : e.fileName = className ++ b.extension
  template : e.template = b.template
  legal : IsClassName className
  unmarked : ∀ ch ∈ className.toList, isPathMark ch = false
  names : pathNames e.path = pathNames folder ++ [e.fileName]

/-- A file without slashes is the last name of its path. -/
lemma pathNames_joinFolder {folder file : String} {last : Char}
    (hlast : folder.toList.getLast? = some last) (hne : last ≠ '/') (hfile : file ≠ "")
    (hslash : '/' ∉ file.toList) : pathNames (joinFolder folder file) = pathNames folder ++ [file] := by
  rw [joinFolder_eq hfile, folderStart_of_getLast? hlast hne, pathNames_append_slash,
    pathNames_of_notMem hslash]

lemma IsClassName.slash_notMem {className : String} (h : IsClassName className) :
    '/' ∉ (className ++ ".swift").toList := by
  rw [String.toList_append, List.mem_append, not_or]
  refine ⟨fun hmem => ?_, by decide⟩
  have hmark := h.not_isPathMark hmem
  exact absurd hmark (by decide)

lemma standsIn_classEmission {source folder className : String} {last : Char}
    (hlast : folder.toList.getLast? = some last) (hne : last ≠ '/') (hname : IsClassName className)
    {templates : List TemplateBinding} (htemplates : templates.map (·.extension) = [".swift"])
    {b : TemplateBinding} (hb : b ∈ templates) (kind : EmissionKind) (context : Entries Json) :
    StandsIn (joinFolder source folder) className b
      (Run.classEmission (joinFolder source folder) className kind context b) := by
  have hext : b.extension = ".swift" := by
    rw [← List.mem_singleton, ← htemplates]
    exact List.mem_map_of_mem hb
  have hfolder : folder ≠ "" := by
    rintro rfl
    cases hlast
  have hend : (joinFolder source folder).toList.getLast? = some last := by
    rw [joinFolder_eq hfolder, String.toList_append, List.getLast?_append, hlast]
    rfl
  have hfile : (Run.classEmission (joinFolder source folder) className kind context b).fileName =
      className ++ ".swift" := by rw [← hext]; rfl
  refine ⟨rfl, rfl, rfl, hname, fun ch => hname.not_isPathMark, ?_⟩
  rw [Emission.path, hfile]
  exact pathNames_joinFolder hend hne (by simp) hname.slash_notMem

/-- In every finished run the file of a model stands directly in the folder of models and the file of
a group in that of groups, named for its class and the binding. The class name has only letters and
digits of ASCII besides an underscore in front, and no control characters, whatever names and paths
the document holds. -/
theorem classFiles_of_run (hp : p ∈ Registry.builtin.profiles) {run : Run}
    (h : generate p d c = .ok run) :
    ∃ api es, run.api = some api ∧ run.emissions = .ok es ∧
      (∀ e ∈ es, e.kind = .model → ∃ m ∈ api.models, ∃ b ∈ run.target.spec.modelTemplates,
        StandsIn run.target.spec.layout.modelFolder m.className b e) ∧
      ∀ e ∈ es, e.kind = .api → ∃ g ∈ api.groups, ∃ b ∈ run.target.spec.apiTemplates,
        StandsIn run.target.spec.layout.apiFolder g.className b e := by
  obtain ⟨-, rfl⟩ := generate_eq_ok_iff.1 h
  obtain ⟨_, _, hsupplied⟩ := supplied_builtin hp c
  obtain ⟨hmodels, hmodelTemplates⟩ := hsupplied.models
  obtain ⟨hapis, hapiTemplates⟩ := hsupplied.apis
  refine ⟨finishedApi p (p.configure c) d, _, rfl, rfl, ?_, ?_⟩
  · intro e he hkind
    obtain ⟨m, hm, b, hb, rfl⟩ := model_of_mem he hkind
    have hclass := isClassName_of_mem_models hp hm
    have hfolder : (p.configure c).spec.layout.modelFolder =
        joinFolder (p.configure c).spec.layout.source "Models" := by rw [Layout.modelFolder, hmodels]
    refine ⟨m, hm, b, hb, ?_⟩
    rw [modelFile, finishedRun, hfolder]
    exact standsIn_classEmission rfl (by decide) hclass hmodelTemplates hb ..
  · intro e he hkind
    obtain ⟨g, hg, b, hb, rfl⟩ := group_of_mem he hkind
    have hclass := isClassName_of_mem_groups hp hg
    have hfolder : (p.configure c).spec.layout.apiFolder =
        joinFolder (p.configure c).spec.layout.source "APIs" := by rw [Layout.apiFolder, hapis]
    refine ⟨g, hg, b, hb, ?_⟩
    rw [groupFile, finishedRun, hfolder]
    exact standsIn_classEmission rfl (by decide) hclass hapiTemplates hb ..

/-- Names that hold marks of paths, letters with several capital forms and reserved words. -/
def markedNames : Document where
  definitions := [("../../etc/passwd", {}), ("a\\b.c\x00d", {}), ("class", {}), ("ßeta ÿ", {})]
  paths :=
    [("/..\\up.x/here", { get := some { id := some "up" } }),
     ("/\x7bid\x7d", { get := some { id := some "one" } })]

theorem classFiles_of_run_markedNames :
    generate Plain.profile markedNames {} = .ok (finishedRun Plain.profile markedNames {}) ∧
      ∃ api es, (finishedRun Plain.profile markedNames {}).api = some api ∧
        (finishedRun Plain.profile markedNames {}).emissions = .ok es ∧
        api.models.map (·.className) = ["EtcPasswd", "ABCD", "_Class", "SSetaŸ"] ∧
        api.groups.map (·.className) = ["UpXAPI", "AnonymousAPI1"] ∧
        (es.filter (·.kind == .model)).map (·.path) =
          ["Sources/Models/EtcPasswd.swift", "Sources/Models/ABCD.swift",
           "Sources/Models/_Class.swift", "Sources/Models/SSetaŸ.swift"] ∧
        (es.filter (·.kind == .api)).map (·.path) =
          ["Sources/APIs/UpXAPI.swift", "Sources/APIs/AnonymousAPI1.swift"] ∧
        (∀ e ∈ es, e.kind = .model → ∃ m ∈ api.models, ∃ b ∈ Plain.spec.modelTemplates,
          StandsIn "Sources/Models" m.className b e) ∧
        ∀ e ∈ es, e.kind = .api → ∃ g ∈ api.groups, ∃ b ∈ Plain.spec.apiTemplates,
          StandsIn "Sources/APIs" g.className b e := by
  have hrun : generate Plain.profile markedNames {} =
      .ok (finishedRun Plain.profile markedNames {}) := generate_of_accepted (by decide +kernel)
  obtain ⟨api, es, hapi, hes, hmodels, hgroups⟩ := classFiles_of_run (mem_builtin_iff.2 (by simp)) hrun
  have hfolders : (finishedRun Plain.profile markedNames {}).target.spec.layout.modelFolder =
        "Sources/Models" ∧
      (finishedRun Plain.profile markedNames {}).target.spec.layout.apiFolder =
        "Sources/APIs" := by decide +kernel
  rw [hfolders.1] at hmodels
  rw [hfolders.2] at hgroups
  refine ⟨hrun, api, es, hapi, hes, ?_, ?_, ?_, ?_, hmodels, hgroups⟩
  all_goals obtain rfl := Option.some.inj hapi
  all_goals obtain rfl := Except.ok.inj hes
  all_goals decide +kernel

end ClientGen.Proofs
