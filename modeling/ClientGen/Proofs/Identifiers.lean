import ClientGen.Proofs.EnumTypes
import ClientGen.Proofs.MethodNames
import ClientGen.Proofs.References

/-!
# Identifiers

The rules of names drop every character that no identifier may hold, except in the cases of
enumerations, where they drop separators only. But no rule looks at the character that is then
first. So a name is an identifier just when the first letter or digit of the declared name is no
digit of ASCII, or when an underscore happens to stand in front of the name.
-/

namespace ClientGen.Proofs

open Unicode Identifier

variable {p : Profile} {t : Target} {d : Document} {c : Config}

/-! ### Characters of identifiers -/

def isIdentifierChar (ch : Char) : Bool := 0x80 ≤ ch.toNat || ch.isAlphanum || ch == '_'

/-- A name that is not empty, does not begin with a digit of ASCII and holds of ASCII only letters,
digits and underscores. -/
structure IsIdentifier (name : String) : Prop where
  ne_empty : name ≠ ""
  head : ∀ ch, name.toList.head? = some ch → ch.isDigit = false
  chars : ∀ ch ∈ name.toList, isIdentifierChar ch = true

instance (name : String) : Decidable (IsIdentifier name) :=
  decidable_of_iff (name ≠ "" ∧ name.toList.head?.all (!·.isDigit) = true ∧
      name.toList.all isIdentifierChar = true) <| by
    rw [Option.all_eq_true, List.all_eq_true]
    simp only [Bool.not_eq_true']
    exact ⟨fun ⟨hne, hhead, hchars⟩ => ⟨hne, hhead, hchars⟩,
      fun h => ⟨h.ne_empty, h.head, h.chars⟩⟩

/-- The first letter or digit is there and is no digit of ASCII. -/
def leadsWithLetter (cs : List Char) : Bool := (cs.find? isAlphanumeric).any (!·.isDigit)

/-- A name without illegal characters that is an identifier just when `valid` holds. -/
structure IdentifierIff (name : String) (valid : Prop) : Prop where
  chars : ∀ ch ∈ name.toList, isIdentifierChar ch = true
  iff : IsIdentifier name ↔ valid

lemma isIdentifierChar_of_isAlphanum {ch : Char} (h : ch.isAlphanum = true) :
    isIdentifierChar ch = true := by
  rw [isIdentifierChar, h, Bool.or_true, Bool.true_or]

lemma isIdentifierChar_of_isAlphanumeric {ch : Char} (h : isAlphanumeric ch = true) :
    isIdentifierChar ch = true := by
  by_cases hascii : ch.toNat < 0x80
  · apply isIdentifierChar_of_isAlphanum
    rwa [isAlphanumeric_of_lt hascii] at h
  · have hbeyond : 0x80 ≤ ch.toNat := by omega
    simp [isIdentifierChar, hbeyond]

lemma isCaseless_of_isIdentifierChar {ch : Char} (h : isIdentifierChar ch = false) :
    IsCaseless ch := by
  simp only [isIdentifierChar, Char.isAlphanum, Bool.or_eq_false_iff, decide_eq_false_iff_not,
    Nat.not_le] at h
  exact ⟨h.1.1, h.1.2.1⟩

lemma isCaseless_of_isDigit {ch : Char} (h : ch.isDigit = true) : IsCaseless ch := by
  have hascii := toNat_lt_of_isAlphanum (c := ch) (by rw [Char.isAlphanum, h, Bool.or_true])
  exact forall_ascii (P := fun ch => ch.isDigit = true → IsCaseless ch) (by decide +kernel) hascii h

lemma isIdentifier_ofList_iff {cs : List Char} :
    IsIdentifier (.ofList cs) ↔ cs ≠ [] ∧ (∀ ch, cs.head? = some ch → ch.isDigit = false) ∧
      ∀ ch ∈ cs, isIdentifierChar ch = true := by
  have hempty : String.ofList cs = "" ↔ cs = [] := by
    rw [← String.toList_inj, String.toList_ofList]
    rfl
  constructor
  · rintro ⟨hne, hhead, hchars⟩
    rw [String.toList_ofList] at hhead hchars
    exact ⟨mt hempty.2 hne, hhead, hchars⟩
  · rintro ⟨hne, hhead, hchars⟩
    refine ⟨mt hempty.1 hne, ?_, ?_⟩
    · rwa [String.toList_ofList]
    · rwa [String.toList_ofList]

namespace Recased

variable {cs ds : List Char}

lemma chars_iff (h : Recased cs ds) :
    (∀ ch ∈ ds, isIdentifierChar ch = true) ↔ ∀ ch ∈ cs, isIdentifierChar ch = true := by
  constructor
  · intro hds ch hch
    by_contra hnot
    have hcaseless := isCaseless_of_isIdentifierChar (Bool.not_eq_true _ ▸ hnot)
    exact hnot (hds ch ((h.mem_iff hcaseless).2 hch))
  · intro hcs ch hch
    by_contra hnot
    have hcaseless := isCaseless_of_isIdentifierChar (Bool.not_eq_true _ ▸ hnot)
    exact hnot (hcs ch ((h.mem_iff hcaseless).1 hch))

lemma startsWithDigit_iff (h : Recased cs ds) :
    (∃ ch, ds.head? = some ch ∧ ch.isDigit = true) ↔
      ∃ ch, cs.head? = some ch ∧ ch.isDigit = true := by
  constructor
  · rintro ⟨ch, hhead, hdigit⟩
    exact ⟨ch, (h.head?_iff (isCaseless_of_isDigit hdigit)).1 hhead, hdigit⟩
  · rintro ⟨ch, hhead, hdigit⟩
    exact ⟨ch, (h.head?_iff (isCaseless_of_isDigit hdigit)).2 hhead, hdigit⟩

theorem isIdentifier_iff (h : Recased cs ds) :
    IsIdentifier (.ofList ds) ↔ IsIdentifier (.ofList cs) := by
  have hhead := not_congr h.startsWithDigit_iff
  simp only [not_exists, not_and, Bool.not_eq_true] at hhead
  rw [isIdentifier_ofList_iff, isIdentifier_ofList_iff, ne_eq, ne_eq, h.eq_nil_iff, hhead,
    h.chars_iff]

end Recased

/-! ### What the rules make of a declared name -/

lemma isIdentifier_alphanumerics (cs : List Char) :
    IsIdentifier (.ofList (cs.filter isAlphanumeric)) ↔ leadsWithLetter cs = true := by
  rw [isIdentifier_ofList_iff, List.head?_filter, leadsWithLetter, Option.any_eq_true]
  constructor
  · rintro ⟨hne, hhead, -⟩
    obtain ⟨ch, rest, hkept⟩ := List.exists_cons_of_ne_nil hne
    have hfirst : cs.find? isAlphanumeric = some ch := by
      rw [← List.head?_filter, hkept, List.head?_cons]
    exact ⟨ch, hfirst, by rw [hhead ch hfirst, Bool.not_false]⟩
  · rintro ⟨ch, hfirst, hletter⟩
    refine ⟨?_, ?_, ?_⟩
    · exact List.ne_nil_of_mem
        (List.mem_filter.2 ⟨List.mem_of_find?_eq_some hfirst, List.find?_some hfirst⟩)
    · intro x hx
      rw [hfirst, Option.some_inj] at hx
      rw [← hx]
      simpa using hletter
    · intro x hx
      exact isIdentifierChar_of_isAlphanumeric (List.mem_filter.1 hx).2

namespace IdentifierIff

variable {name : String} {valid : Prop} {cs ds : List Char}

lemma alphanumerics (cs : List Char) :
    IdentifierIff (.ofList (cs.filter isAlphanumeric)) (leadsWithLetter cs = true) := by
  refine ⟨fun ch hch => ?_, isIdentifier_alphanumerics cs⟩
  rw [String.toList_ofList] at hch
  exact isIdentifierChar_of_isAlphanumeric (List.mem_filter.1 hch).2

lemma recased (h : IdentifierIff (.ofList cs) valid) (hcase : Recased cs ds) :
    IdentifierIff (.ofList ds) valid := by
  obtain ⟨hchars, hiff⟩ := h
  rw [String.toList_ofList, ← hcase.chars_iff] at hchars
  rw [← hcase.isIdentifier_iff] at hiff
  exact ⟨by rwa [String.toList_ofList], hiff⟩

lemma initialCaps (h : IdentifierIff name valid) : IdentifierIff (initialCaps name) valid := by
  rw [← String.ofList_toList (s := name)] at h
  exact h.recased (recased_capitalize _)

lemma underscored (h : IdentifierIff name valid) : IsIdentifier ("_" ++ name) := by
  rw [← String.ofList_toList (s := "_" ++ name), toList_underscored, isIdentifier_ofList_iff]
  refine ⟨List.cons_ne_nil _ _, ?_, ?_⟩
  · rintro ch ⟨⟩
    rfl
  · intro ch hch
    rcases List.mem_cons.1 hch with rfl | hch
    · rfl
    · exact h.chars ch hch

/-- With an underscore in front any such name is an identifier. -/
lemma ite_underscored {marked valid' : Prop} [Decidable marked] (h : IdentifierIff name valid)
    (hmarked : marked → valid') (hplain : ¬marked → (valid ↔ valid')) :
    IdentifierIff (if marked then "_" ++ name else name) valid' := by
  split_ifs with hmark
  · exact ⟨h.underscored.chars, iff_of_true h.underscored (hmarked hmark)⟩
  · exact ⟨h.chars, h.iff.trans (hplain hmark)⟩

end IdentifierIff

lemma identifierIff_pascalCase (name : String) :
    IdentifierIff (pascalCase (legalize name)) (leadsWithLetter name.toList = true) := by
  rw [pascalCase, legalize, String.toList_ofList]
  exact (IdentifierIff.alphanumerics _).recased (recased_pascal_legal _)

lemma identifierIff_variableStem (name : String) :
    IdentifierIff (variableStem name) (leadsWithLetter name.toList = true) := by
  rw [← String.ofList_toList (s := variableStem name), toList_variableStem]
  exact ((IdentifierIff.alphanumerics _).recased (recased_pascal_legal _)).recased
    (recased_uncapitalize _)

/-! ### Names of the built-in profiles -/

lemma isIdentifier_of_isReserved (hp : p ∈ Registry.builtin.profiles) {name : String}
    (h : p.spec.names.isReserved name = true) : IsIdentifier name := by
  rw [ReservedWords.isReserved, List.contains_iff_mem] at h
  obtain ⟨⟨first, hfirst, hletter⟩, hletters⟩ := letters_of_word hp h
  -- its small form is one of the words, and a change of case keeps identifiers
  have hsmall : IsIdentifier (lowercase name) := by
    constructor
    · intro hempty
      rw [hempty] at hfirst
      cases hfirst
    · intro ch hch
      rw [hfirst, Option.some_inj] at hch
      subst hch
      by_contra hdigit
      have hcaseless := isCaseless_of_isDigit (Bool.not_eq_false _ ▸ hdigit)
      rw [hcaseless.2] at hletter
      cases hletter
    · intro ch hch
      exact isIdentifierChar_of_isAlphanum (hletters ch hch)
  rwa [lowercase, (recased_lowerText _).isIdentifier_iff, String.ofList_toList] at hsmall

lemma identifierIff_modelName (hp : p ∈ Registry.builtin.profiles) (c : Config) (name : String) :
    IdentifierIff (p.modelName (p.configure c) name) (leadsWithLetter name.toList = true) := by
  have hpascal := identifierIff_pascalCase name
  rw [modelName_builtin hp, Target.modelName, ReservedWords.sanitize, names_configure hp,
    escape_builtin hp, underscored]
  apply hpascal.ite_underscored
  · exact fun hreserved => hpascal.iff.1 (isIdentifier_of_isReserved hp hreserved)
  · exact fun _ => Iff.rfl

lemma identifierIff_varName (hp : p ∈ Registry.builtin.profiles) (c : Config) (name : String) :
    IdentifierIff ((p.configure c).varName name)
      (name.toList.head? = some '_' ∨ leadsWithLetter name.toList = true) := by
  have hstem := identifierIff_variableStem name
  rw [varName_eq (marks_builtin hp c)]
  apply hstem.ite_underscored
  · rintro (hhead | hreserved)
    · exact .inl hhead
    · rw [names_configure hp] at hreserved
      exact .inr (hstem.iff.1 (isIdentifier_of_isReserved hp hreserved))
  · intro hplain
    exact (or_iff_right fun hhead => hplain (.inl hhead)).symm

lemma identifierIff_enumTypeName (hp : p ∈ Registry.builtin.profiles) (c : Config)
    (declared : String) :
    IdentifierIff
      (enumTypeName (p.configure c).spec.names (enumWorkingName declared) declared)
      (leadsWithLetter declared.toList = true ∨ typeStem declared = declared) := by
  have hstem : IdentifierIff (typeStem declared) (leadsWithLetter declared.toList = true) :=
    (identifierIff_variableStem declared).initialCaps
  rw [enumTypeName_eq (marks_builtin hp c)]
  apply hstem.ite_underscored
  · rintro (hreserved | hsame)
    · rw [names_configure hp] at hreserved
      exact .inl (hstem.iff.1 (isIdentifier_of_isReserved hp hreserved))
    · exact .inr hsame
  · intro hplain
    exact (or_iff_left fun hsame => hplain (.inr hsame)).symm

lemma identifierIff_operationName (hp : p ∈ Registry.builtin.profiles) (id : String) :
    IdentifierIff (p.operationName t id) (leadsWithLetter (methodPart p id) = true) := by
  unfold methodPart
  rcases mem_builtin_iff.1 hp with rfl | rfl | rfl | rfl
  · rw [if_neg (by decide)]
    exact identifierIff_variableStem id
  · rw [if_neg (by decide)]
    exact (identifierIff_variableStem id).initialCaps
  · rw [if_pos rfl]
    have h := identifierIff_variableStem (.ofList (LoopBack.lastSegment id.toList))
    rwa [String.toList_ofList] at h
  · rw [if_neg (by decide)]
    exact identifierIff_variableStem id

/-! ### Cases of enumerations -/

/-- A character that a case drops. -/
def isCaseSeparator (ch : Char) : Bool := caseSeparators.contains ch

/-- An allowed value without the separators that its case drops. -/
def withoutSeparators (raw : String) : String :=
  .ofList (raw.toList.filter (!caseSeparators.contains ·))

lemma isAlphanum_of_isTypeLike {cs : List Char} (h : isTypeLike cs = true) :
    ∀ ch ∈ cs, ch.isAlphanum = true := by
  unfold isTypeLike at h
  split at h
  · rename_i a b rest
    simp only [Bool.and_eq_true, Bool.or_eq_true, List.all_eq_true] at h
    obtain ⟨⟨ha, hb⟩, hrest⟩ := h
    intro ch hch
    delta Char.isAlphanum Char.isAlpha
    rcases List.mem_cons.1 hch with rfl | hch
    · rw [ha, Bool.true_or, Bool.true_or]
    · rcases List.mem_cons.1 hch with rfl | hch
      · rcases hb with hb | hb
        · rw [hb, Bool.or_true, Bool.true_or]
        · rw [hb, Bool.or_true]
      · exact hrest ch hch
  · cases h

lemma isCaseless_of_isCaseSeparator {ch : Char} (h : isCaseSeparator ch = true) :
    IsCaseless ch := by
  rw [isCaseSeparator, List.contains_iff_mem, caseSeparators] at h
  simp only [List.mem_cons, List.not_mem_nil, or_false] at h
  rcases h with rfl | rfl | rfl <;> decide

lemma withoutSeparators_of_isTypeLike {raw : String} (h : isTypeLike raw.toList = true) :
    withoutSeparators raw = raw := by
  have hkept : raw.toList.filter (!caseSeparators.contains ·) = raw.toList := by
    rw [List.filter_eq_self]
    intro ch hch
    have halnum := isAlphanum_of_isTypeLike h ch hch
    exact forall_ascii
      (P := fun ch => ch.isAlphanum = true → (!caseSeparators.contains ch) = true)
      (by decide +kernel) (toNat_lt_of_isAlphanum halnum) halnum
  rw [withoutSeparators, hkept, String.ofList_toList]

/-- A case is its value without separators after two changes of case. -/
lemma recased_enumCaseName (raw : String) :
    ∃ small, Recased (withoutSeparators raw).toList small ∧
      Recased small (enumCaseName raw).toList := by
  unfold enumCaseName
  split_ifs with htype
  · rw [withoutSeparators_of_isTypeLike htype]
    exact ⟨raw.toList, .refl _, .refl _⟩
  · have hcaseless : ∀ ch, (!caseSeparators.contains ch) = false → IsCaseless ch := by
      intro ch hch
      rw [Bool.not_eq_false'] at hch
      exact isCaseless_of_isCaseSeparator hch
    rw [withoutSeparators, String.toList_ofList, String.toList_ofList]
    exact ⟨_, (recased_lowerText _).filter hcaseless,
      (recased_capitalizeEach _ _ _).filter hcaseless⟩

theorem isIdentifier_enumCaseName_iff (raw : String) :
    IsIdentifier (enumCaseName raw) ↔ IsIdentifier (withoutSeparators raw) := by
  obtain ⟨small, hsmall, hcase⟩ := recased_enumCaseName raw
  rw [← String.ofList_toList (s := enumCaseName raw), hcase.isIdentifier_iff, hsmall.isIdentifier_iff,
    String.ofList_toList]

/-! ### Names of a finished run -/

lemma isIdentifier_caseName_iff {values : List String} {k : EnumCase}
    (hk : k ∈ values.map EnumCase.ofRaw) :
    IsIdentifier k.caseName ↔ IsIdentifier (withoutSeparators k.rawValue) := by
  obtain ⟨raw, -, rfl⟩ := List.mem_map.1 hk
  exact isIdentifier_enumCaseName_iff raw

lemma enumCases_finishedModel (hp : p ∈ Registry.builtin.profiles) (name : String) (s : Schema) :
    (finishedModel p t name s).enumCases =
      if s.isEnumType then s.allowedTexts.map .ofRaw else [] := by
  rw [finishedModel_eq hp]
  simp only [Model.finish, Model.refreshFlags, Model.partitionRaw, identified, Model.mapId]
  split <;> rfl

/-- In a finished run a class is named by an identifier just when the first letter or digit of its
definition is no digit, a method just when that holds of its declared id, and a property, a parameter
or the type of an enumeration just when it holds of the declared name or an underscore stands in
front. None of these names holds a character that is illegal in identifiers. A case is an identifier
just when its value is one once its separators are dropped. -/
theorem identifiers_of_run (hp : p ∈ Registry.builtin.profiles) {run : Run}
    (h : generate p d c = .ok run) :
    ∃ api, run.api = some api ∧
      (∀ m ∈ api.models,
        IdentifierIff m.className (leadsWithLetter m.name.toList = true) ∧
        (∀ k ∈ m.enumCases,
          IsIdentifier k.caseName ↔ IsIdentifier (withoutSeparators k.rawValue)) ∧
        ∀ q ∈ m.properties,
          IdentifierIff q.name
            (q.baseName.toList.head? = some '_' ∨ leadsWithLetter q.baseName.toList = true) ∧
          (q.isEnum = true → IdentifierIff q.dataTypeWithEnum
            (leadsWithLetter q.baseName.toList = true ∨ typeStem q.baseName = q.baseName)) ∧
          ∀ k ∈ q.enumCases,
            IsIdentifier k.caseName ↔ IsIdentifier (withoutSeparators k.rawValue)) ∧
      ∀ g ∈ api.groups, ∀ o ∈ g.operations,
        IdentifierIff o.operationId (leadsWithLetter (methodPart p o.nickname) = true) ∧
        ∀ q ∈ o.parameters, IdentifierIff q.paramName
          (q.baseName.toList.head? = some '_' ∨ leadsWithLetter q.baseName.toList = true) := by
  obtain ⟨-, rfl⟩ := generate_eq_ok_iff.1 h
  refine ⟨finishedApi p (p.configure c) d, rfl, fun m hm => ⟨?_, ?_, fun q hq => ?_⟩,
    fun g hg o ho => ?_⟩
  · rw [className_of_mem hp hm]
    exact identifierIff_modelName hp c m.name
  · intro k hk
    rw [finishedApi_models] at hm
    obtain ⟨e, -, rfl⟩ := List.mem_map.1 hm
    rw [enumCases_finishedModel hp] at hk
    split_ifs at hk
    · exact isIdentifier_caseName_iff hk
    · cases hk
  · rw [finishedApi_models] at hm
    obtain ⟨e, -, rfl⟩ := List.mem_map.1 hm
    obtain ⟨f, -, hsettled⟩ := settled_of_mem hp hq
    refine ⟨?_, fun henum => ?_, fun k hk => ?_⟩
    · rw [hsettled.name, hsettled.baseName, varName_builtin hp]
      exact identifierIff_varName hp c f.1
    · rw [hsettled.dataTypeWithEnum, if_pos (hsettled.isEnum ▸ henum), hsettled.baseName]
      exact identifierIff_enumTypeName hp c f.1
    · rw [hsettled.enumCases] at hk
      split_ifs at hk
      · exact isIdentifier_caseName_iff hk
      · cases hk
  · obtain ⟨site, -, resource, rfl⟩ :=
      exists_site_of_mem_operations hp (List.mem_flatMap.2 ⟨g, hg, ho⟩)
    refine ⟨identifierIff_operationName hp (declaredId site), fun q hq => ?_⟩
    obtain ⟨decl, -, rfl⟩ := List.mem_map.1 hq
    simp only [Parameter.build, paramName_builtin hp]
    exact identifierIff_varName hp c decl.name

/-- Names that begin with a digit, of every kind. -/
def numbered : Document where
  definitions :=
    [("2d_point", { properties := [("3_d", { kind := some "string", allowed := [.str "1.5"] })] })]
  paths :=
    [("/login",
      { post := some { id := some "2fa", parameters := [{ name := "1st", place := "query" }] } })]

theorem identifiers_of_run_numbered :
    generate Plain.profile numbered {} = .ok (finishedRun Plain.profile numbered {}) ∧
      ∃ api, (finishedRun Plain.profile numbered {}).api = some api ∧
        api.models.map (·.className) = ["2dPoint"] ∧
        api.operations.map (·.operationId) = ["2fa"] ∧
        (∀ m ∈ api.models, ¬IsIdentifier m.className ∧
          ∀ q ∈ m.properties, ¬IsIdentifier q.name ∧ ¬IsIdentifier q.dataTypeWithEnum ∧
            ∀ k ∈ q.enumCases, ¬IsIdentifier k.caseName) ∧
        ∀ g ∈ api.groups, ∀ o ∈ g.operations, ¬IsIdentifier o.operationId ∧
          ∀ q ∈ o.parameters, ¬IsIdentifier q.paramName := by
  have hrun : generate Plain.profile numbered {} = .ok (finishedRun Plain.profile numbered {}) :=
    generate_of_accepted (by decide +kernel)
  obtain ⟨api, hapi, hmodels, hoperations⟩ := identifiers_of_run (mem_builtin_iff.2 (by simp)) hrun
  have hclasses : ∀ m ∈ api.models, leadsWithLetter m.name.toList = false := by
    obtain rfl := Option.some.inj hapi
    decide +kernel
  have hproperties : ∀ m ∈ api.models, ∀ q ∈ m.properties, q.baseName = "3_d" ∧ q.isEnum = true ∧
      ∀ k ∈ q.enumCases, k.rawValue = "1.5" := by
    obtain rfl := Option.some.inj hapi
    decide +kernel
  have hmethods : ∀ g ∈ api.groups, ∀ o ∈ g.operations,
      leadsWithLetter (methodPart Plain.profile o.nickname) = false ∧
        ∀ q ∈ o.parameters, q.baseName = "1st" := by
    obtain rfl := Option.some.inj hapi
    decide +kernel
  refine ⟨hrun, api, hapi, ?_, ?_, fun m hm => ⟨?_, fun q hq => ?_⟩, fun g hg o ho => ⟨?_, ?_⟩⟩
  · obtain rfl := Option.some.inj hapi
    decide +kernel
  · obtain rfl := Option.some.inj hapi
    decide +kernel
  · rw [(hmodels m hm).1.iff, hclasses m hm]
    exact Bool.false_ne_true
  · obtain ⟨-, -, hnames⟩ := hmodels m hm
    obtain ⟨hname, htype, hcases⟩ := hnames q hq
    obtain ⟨hdeclared, henum, hvalues⟩ := hproperties m hm q hq
    rw [hname.iff, (htype henum).iff, hdeclared]
    refine ⟨by decide +kernel, by decide +kernel, fun k hk => ?_⟩
    rw [hcases k hk, hvalues k hk]
    decide +kernel
  · rw [(hoperations g hg o ho).1.iff, (hmethods g hg o ho).1]
    exact Bool.false_ne_true
  · intro q hq
    rw [((hoperations g hg o ho).2 q hq).iff, (hmethods g hg o ho).2 q hq]
    decide +kernel

end ClientGen.Proofs
