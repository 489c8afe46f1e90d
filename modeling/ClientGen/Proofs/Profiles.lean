import Mathlib.Tactic.Common
import ClientGen.Profile.Builtin
import ClientGen.Proofs.Words

/-!
# What the built-in profiles share

The four profiles differ in tables and in a few hooks. Settings change neither the reserved words of
a profile, nor its path syntax, nor how it sorts types into classes; only LoopBack has hooks of its
own for ids and properties.
-/

namespace ClientGen.Proofs

variable {p : Profile}

lemma mem_builtin_iff :
    p ∈ Registry.builtin.profiles ↔
      p = Swift.profile ∨ p = Moya.profile ∨ p = LoopBack.profile ∨ p = Plain.profile := by
  have h : Registry.builtin.profiles =
      [Swift.profile, Moya.profile, LoopBack.profile, Plain.profile] := rfl
  rw [h]
  simp only [List.mem_cons, List.not_mem_nil, or_false]

lemma tables_configure (hp : p ∈ Registry.builtin.profiles) (c : Config) :
    (p.configure c).spec.names = p.spec.names ∧ (p.configure c).spec.path = p.spec.path ∧
      (p.configure c).spec.classes = p.spec.classes ∧
      (p.configure c).spec.types.containers = Swift.containers := by
  rcases mem_builtin_iff.1 hp with rfl | rfl | rfl | rfl
  · simp only [Swift.profile, Swift.configure, true_and]
    rfl
  · simp only [Moya.profile, Moya.configure, Swift.configure, true_and]
    rfl
  · simp only [LoopBack.profile, LoopBack.configure]
    split_ifs <;> simp only [LoopBack.withDataApi, LoopBack.withRealm, true_and] <;> rfl
  · simp only [Plain.profile, true_and]
    rfl

lemma names_configure (hp : p ∈ Registry.builtin.profiles) (c : Config) :
    (p.configure c).spec.names = p.spec.names :=
  (tables_configure hp c).1

lemma path_configure (hp : p ∈ Registry.builtin.profiles) (c : Config) :
    (p.configure c).spec.path = p.spec.path :=
  (tables_configure hp c).2.1

lemma classes_configure (hp : p ∈ Registry.builtin.profiles) (c : Config) :
    (p.configure c).spec.classes = p.spec.classes :=
  (tables_configure hp c).2.2.1

lemma containers_configure (hp : p ∈ Registry.builtin.profiles) (c : Config) :
    (p.configure c).spec.types.containers = Swift.containers :=
  (tables_configure hp c).2.2.2

lemma settings_configure (hp : p ∈ Registry.builtin.profiles) (c : Config) :
    (p.configure c).settings = .resolve p.spec.options c := by
  rcases mem_builtin_iff.1 hp with rfl | rfl | rfl | rfl <;> rfl

lemma nodup_optionNames (hp : p ∈ Registry.builtin.profiles) :
    (p.spec.options.map (·.name)).Nodup := by
  rcases mem_builtin_iff.1 hp with rfl | rfl | rfl | rfl <;> decide +kernel

/-- What stands around a name in a path is not empty and holds no slash. -/
lemma path_builtin (hp : p ∈ Registry.builtin.profiles) :
    p.spec.path.before ≠ "" ∧ '/' ∉ p.spec.path.before.toList ∧
      '/' ∉ p.spec.path.after.toList := by
  rcases mem_builtin_iff.1 hp with rfl | rfl | rfl | rfl <;> decide

/-- Reserved names get an underscore in front. -/
lemma escape_builtin (hp : p ∈ Registry.builtin.profiles) :
    p.spec.names.escape = Identifier.underscored := by
  rcases mem_builtin_iff.1 hp with rfl | rfl | rfl | rfl
  · exact ReservedWords.escape_extend _ _
  · exact ReservedWords.escape_extend _ _
  · exact (ReservedWords.escape_extend _ _).trans (ReservedWords.escape_extend _ _)
  · exact ReservedWords.escape_extend _ _

/-- Reserved words are made of letters and digits of ASCII. They begin with a letter, but none as the
capital form of a sharp s reads. -/
lemma builtin_words : Registry.builtin.profiles.all (fun p => p.spec.names.words.all fun word =>
    word.toList.head?.any Char.isAlpha && word.toList.all Char.isAlphanum &&
      !(['s', 's'].isPrefixOf word.toList)) = true := by
  decide +kernel

lemma letters_of_word (hp : p ∈ Registry.builtin.profiles) {word : String}
    (h : word ∈ p.spec.names.words) :
    (∃ ch, word.toList.head? = some ch ∧ ch.isAlpha = true) ∧
      ∀ ch ∈ word.toList, ch.isAlphanum = true := by
  have hword := List.all_eq_true.1 (List.all_eq_true.1 builtin_words p hp) word h
  rw [Bool.and_eq_true, Bool.and_eq_true, List.all_eq_true, Option.any_eq_true] at hword
  exact hword.1

lemma word_facts (hp : p ∈ Registry.builtin.profiles) {cs : List Char}
    (h : String.ofList cs ∈ p.spec.names.words) :
    IsAscii cs ∧ (∀ tail, cs ≠ 's' :: 's' :: tail) ∧ cs.head? ≠ some '_' := by
  have hword := List.all_eq_true.1 (List.all_eq_true.1 builtin_words p hp) _ h
  obtain ⟨⟨ch, hhead, hletter⟩, hletters⟩ := letters_of_word hp h
  rw [String.toList_ofList] at hword hhead hletters
  refine ⟨fun c hc => toNat_lt_of_isAlphanum (hletters c hc), ?_, ?_⟩
  · rintro tail rfl
    simp at hword
  · rw [hhead, ne_eq, Option.some_inj]
    rintro rfl
    exact absurd hletter (by decide)

/-- Only LoopBack clients with a data API have paths relative to their resource. -/
theorem stripResourcePath_builtin_iff (hp : p ∈ Registry.builtin.profiles) (c : Config) :
    (p.configure c).spec.stripResourcePath = true ↔
      p.name = LoopBack.profile.name ∧
        (p.configure c).settings.flag LoopBack.dataOption = true := by
  rcases mem_builtin_iff.1 hp with rfl | rfl | rfl | rfl
  · simp [Swift.profile, Swift.configure, Swift.spec, LoopBack.profile]
  · simp [Moya.profile, Moya.configure, Swift.configure, Moya.spec, Swift.spec, LoopBack.profile]
  · have hdata : (LoopBack.configure c).spec.stripResourcePath =
        (LoopBack.configure c).settings.flag LoopBack.dataOption := by
      simp only [LoopBack.configure]
      split_ifs with hdata hrealm hrealm
      · simp only [LoopBack.withDataApi, hdata]
      · simp only [LoopBack.withDataApi, hdata]
      · simp [LoopBack.withRealm, LoopBack.spec, hdata]
      · simp [LoopBack.spec, hdata]
    simp only [LoopBack.profile, hdata, true_and]
  · simp [Plain.profile, Plain.spec, LoopBack.profile]

lemma finishGroup_builtin (hp : p ∈ Registry.builtin.profiles) (t : Target) (g : OperationGroup) :
    p.finishGroup t g = g := by
  rcases mem_builtin_iff.1 hp with rfl | rfl | rfl | rfl <;> rfl

/-! ### Hooks for names -/

lemma modelName_builtin (hp : p ∈ Registry.builtin.profiles) : p.modelName = Target.modelName := by
  rcases mem_builtin_iff.1 hp with rfl | rfl | rfl | rfl <;> rfl

lemma varName_builtin (hp : p ∈ Registry.builtin.profiles) : p.varName = Target.varName := by
  rcases mem_builtin_iff.1 hp with rfl | rfl | rfl | rfl <;> rfl

lemma paramName_builtin (hp : p ∈ Registry.builtin.profiles) : p.paramName = Target.varName := by
  rcases mem_builtin_iff.1 hp with rfl | rfl | rfl | rfl <;> rfl

/-! ### Hooks for models and properties -/

lemma resolveType_builtin (hp : p ∈ Registry.builtin.profiles) (t : Target) (type : SchemaType) :
    p.resolveType t type = t.spec.types.resolve (p.modelName t) type := by
  rcases mem_builtin_iff.1 hp with rfl | rfl | rfl | rfl <;> rfl

lemma finishModel_builtin (hp : p ∈ Registry.builtin.profiles) (t : Target) (m : Model) :
    p.finishModel t m = m := by
  rcases mem_builtin_iff.1 hp with rfl | rfl | rfl | rfl <;> rfl

lemma defaultValue_builtin (hp : p ∈ Registry.builtin.profiles) (t : Target) (q : Property) :
    p.defaultValue t q = t.defaultValue q := by
  rcases mem_builtin_iff.1 hp with rfl | rfl | rfl | rfl <;> rfl

/-- The profile that treats wide integers and ids in its own way. -/
def IsLoopBack (p : Profile) : Prop := p.name = LoopBack.profile.name

instance (p : Profile) : Decidable (IsLoopBack p) := inferInstanceAs (Decidable (_ = _))

lemma isLoopBack_iff (hp : p ∈ Registry.builtin.profiles) :
    IsLoopBack p ↔ p = LoopBack.profile := by
  constructor
  · intro hn
    rcases mem_builtin_iff.1 hp with rfl | rfl | rfl | rfl
    · exact absurd hn (by decide)
    · exact absurd hn (by decide)
    · rfl
    · exact absurd hn (by decide)
  · rintro rfl
    rfl

lemma idType_builtin (hp : p ∈ Registry.builtin.profiles) (t : Target) (type : String) :
    p.idType t type = if IsLoopBack p ∧ type = "Double" then "Int" else type := by
  by_cases hn : IsLoopBack p
  · obtain rfl := (isLoopBack_iff hp).1 hn
    have hhook : LoopBack.profile.idType t type = if type == "Double" then "Int" else type := rfl
    simp [hhook, hn]
  · rcases mem_builtin_iff.1 hp with rfl | rfl | rfl | rfl
    · exact (if_neg fun h => hn h.1).symm
    · exact (if_neg fun h => hn h.1).symm
    · exact absurd rfl hn
    · exact (if_neg fun h => hn h.1).symm

/-- All that the hook for properties changes: wide integers count as built in, and an id kept in
Realm is required. -/
lemma finishProperty_builtin (hp : p ∈ Registry.builtin.profiles) (t : Target) (q : Property) :
    p.finishProperty t q =
      { q with
        required := q.required ||
          (decide (IsLoopBack p) && q.isId && t.settings.flag LoopBack.realmOption)
        flags := { q.flags with
          isPrimitiveType := q.flags.isPrimitiveType ||
            (decide (IsLoopBack p) && q.baseType == "Int64") } } := by
  by_cases hn : IsLoopBack p
  · obtain rfl := (isLoopBack_iff hp).1 hn
    have hhook : LoopBack.profile.finishProperty t q = LoopBack.finishProperty t q := rfl
    rw [hhook, LoopBack.finishProperty, decide_eq_true hn]
    cases hwide : q.baseType == "Int64" <;>
      cases hid : q.isId && t.settings.flag LoopBack.realmOption <;>
      simp only [hid, Bool.true_and, Bool.or_false, Bool.or_true, if_true,
        Bool.false_eq_true, if_false]
  · have hhook : p.finishProperty t q = q := by
      rcases mem_builtin_iff.1 hp with rfl | rfl | rfl | rfl
      · rfl
      · rfl
      · exact absurd rfl hn
      · rfl
    rw [hhook, decide_eq_false hn]
    simp

end ClientGen.Proofs
