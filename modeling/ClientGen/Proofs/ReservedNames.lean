import ClientGen.Proofs.CaseForms
import ClientGen.Proofs.PlaceholderNames

/-!
# Names that are not reserved

A name is compared with the reserved words in small letters, and a reserved name gets an underscore
in front. The small form of a word begins with an underscore only if the word does. So where no word
does, an escaped name is never reserved, and escaping twice is escaping once.
-/

namespace ClientGen.Proofs

open Unicode Identifier

/-! ### Sets of reserved words -/

/-- Reserved words made of a list of words and extended by further lists; `added` has all of them. -/
inductive Assembled : ReservedWords → List String → Prop
  | ofList (words : List String) : Assembled (.ofList words) words
  | extend {names : ReservedWords} {added : List String} (h : Assembled names added)
    (words : List String) : Assembled (names.extend words) (added ++ words)

lemma mem_words_extend (names : ReservedWords) (words : List String) (x : String) :
    x ∈ (names.extend words).words ↔ x ∈ names.words ∨ x ∈ words.map lowercase := by
  induction words generalizing names with
  | nil => simp [ReservedWords.extend]
  | cons word rest ih =>
    have hstep : names.extend (word :: rest) = (names.add word).extend rest := rfl
    rw [hstep, ih, ReservedWords.mem_words_add, List.map_cons, List.mem_cons, or_assoc]

lemma head?_lowercase (name : String) :
    (lowercase name).toList.head? = some '_' ↔ name.toList.head? = some '_' := by
  rw [lowercase, String.toList_ofList]
  exact (recased_lowerText name.toList).head?_iff (by decide)

namespace Assembled

variable {names names' : ReservedWords} {added added' : List String}

lemma escape_eq (h : Assembled names added) : names.escape = underscored := by
  induction h with
  | ofList words => exact ReservedWords.escape_extend _ _
  | extend _ words ih => rw [ReservedWords.escape_extend, ih]

/-- The reserved words are the small forms of the words that were added. -/
lemma mem_words_iff (h : Assembled names added) (x : String) :
    x ∈ names.words ↔ x ∈ added.map lowercase := by
  induction h with
  | ofList words =>
    rw [ReservedWords.ofList, mem_words_extend]
    simp
  | extend _ words ih => rw [mem_words_extend, ih, List.map_append, List.mem_append]

/-- Neither order nor repetition of words counts, nor which of them came later. -/
lemma isReserved_congr (h : Assembled names added) (h' : Assembled names' added')
    (hsame : ∀ x, x ∈ added.map lowercase ↔ x ∈ added'.map lowercase) (name : String) :
    names.isReserved name = names'.isReserved name := by
  rw [Bool.eq_iff_iff, ReservedWords.isReserved, ReservedWords.isReserved, List.contains_iff_mem,
    List.contains_iff_mem, h.mem_words_iff, h'.mem_words_iff, hsame]

lemma marks (h : Assembled names added) (hadded : ∀ word ∈ added, word.toList.head? ≠ some '_') :
    Marks names := by
  refine ⟨h.escape_eq, fun x hx => ?_⟩
  rw [h.mem_words_iff] at hx
  obtain ⟨word, hword, rfl⟩ := List.mem_map.1 hx
  rw [ne_eq, head?_lowercase]
  exact hadded word hword

end Assembled

/-! ### Escaped names -/

namespace Marks

variable {names : ReservedWords}

lemma isReserved_sanitize (h : Marks names) (name : String) :
    names.isReserved (names.sanitize name) = false := by
  rw [ReservedWords.sanitize]
  split_ifs with hreserved
  · rw [h.escape, underscored]
    exact h.isReserved_underscored name
  · rwa [Bool.not_eq_true] at hreserved

lemma sanitize_sanitize (h : Marks names) (name : String) :
    names.sanitize (names.sanitize name) = names.sanitize name := by
  rw [ReservedWords.sanitize, h.isReserved_sanitize, if_neg Bool.false_ne_true]

end Marks

/-! ### Names of the built-in profiles -/

variable {p : Profile}

lemma assembled_builtin (hp : p ∈ Registry.builtin.profiles) :
    ∃ added, Assembled p.spec.names added ∧ ∀ word ∈ added, word.toList.head? ≠ some '_' := by
  rcases mem_builtin_iff.1 hp with rfl | rfl | rfl | rfl
  · refine ⟨Swift.reservedWords, ?_, by decide +kernel⟩
    simp only [Swift.profile, Swift.spec, Swift.names]
    exact .ofList _
  · refine ⟨Swift.reservedWords, ?_, by decide +kernel⟩
    simp only [Moya.profile, Moya.spec, Swift.spec, Swift.names]
    exact .ofList _
  · refine ⟨Swift.keywords ++ ["realm", "hash", "description"], ?_, by decide +kernel⟩
    simp only [LoopBack.profile, LoopBack.spec, LoopBack.names]
    exact .extend (.ofList _) _
  · refine ⟨["class", "return", "self", "type", "func"], ?_, by decide +kernel⟩
    simp only [Plain.profile, Plain.spec]
    exact .ofList _

/-- If none of the words that were put together begins with an underscore, no escaped name is
reserved and escaping it once more changes nothing. What is reserved depends only on the words in
small letters. The words of every built-in profile are of this kind under all settings, so none of
its names for models, variables and parameters is reserved. -/
theorem names_not_reserved :
    (∀ names added, Assembled names added → (∀ word ∈ added, word.toList.head? ≠ some '_') →
      ∀ name, names.isReserved (names.sanitize name) = false ∧
        names.sanitize (names.sanitize name) = names.sanitize name) ∧
    (∀ names names' added added', Assembled names added → Assembled names' added' →
      (∀ x, x ∈ added.map lowercase ↔ x ∈ added'.map lowercase) →
      ∀ name, names.isReserved name = names'.isReserved name) ∧
    ∀ p ∈ Registry.builtin.profiles, ∀ c,
      (∃ added, Assembled (p.configure c).spec.names added ∧
        ∀ word ∈ added, word.toList.head? ≠ some '_') ∧
      ∀ raw, (p.configure c).spec.names.isReserved (p.modelName (p.configure c) raw) = false ∧
        (p.configure c).spec.names.isReserved (p.varName (p.configure c) raw) = false ∧
        (p.configure c).spec.names.isReserved (p.paramName (p.configure c) raw) = false := by
  refine ⟨?_, ?_, ?_⟩
  · intro names added h hadded name
    have hmarks := h.marks hadded
    exact ⟨hmarks.isReserved_sanitize name, hmarks.sanitize_sanitize name⟩
  · intro names names' added added' h h' hsame
    exact h.isReserved_congr h' hsame
  · intro p hp c
    have hmarks := marks_builtin hp c
    refine ⟨?_, fun raw => ?_⟩
    · rw [names_configure hp]
      exact assembled_builtin hp
    · rw [modelName_builtin hp, varName_builtin hp, paramName_builtin hp]
      exact ⟨hmarks.isReserved_sanitize _, hmarks.isReserved_sanitize _, hmarks.isReserved_sanitize _⟩

/-- The same words, put together in two ways. -/
theorem names_not_reserved_selves :
    let names := (ReservedWords.ofList ["class", "Self"]).extend ["SELF", "type"]
    let names' := ReservedWords.ofList ["Type", "self", "Class"]
    names.isReserved (names.sanitize "Self") = false ∧
      names.sanitize (names.sanitize "Self") = names.sanitize "Self" ∧
      names.sanitize "Self" = "_Self" ∧
      (∀ name, names.isReserved name = names'.isReserved name) ∧
      (Moya.profile.configure {}).spec.names.isReserved
        (Moya.profile.varName (Moya.profile.configure {}) "in.out") = false := by
  obtain ⟨hescaped, hsame, hbuiltin⟩ := names_not_reserved
  have hnames : Assembled ((ReservedWords.ofList ["class", "Self"]).extend ["SELF", "type"])
      ["class", "Self", "SELF", "type"] := .extend (.ofList _) _
  have hnames' : Assembled (.ofList ["Type", "self", "Class"]) ["Type", "self", "Class"] := .ofList _
  obtain ⟨hfree, htwice⟩ := hescaped _ _ hnames (by decide) "Self"
  refine ⟨hfree, htwice, by decide, hsame _ _ _ _ hnames hnames' fun x => ?_, ?_⟩
  · have hwords : ["class", "Self", "SELF", "type"].map lowercase =
        ["class", "self", "self", "type"] := by decide
    have hwords' : ["Type", "self", "Class"].map lowercase = ["type", "self", "class"] := by decide
    rw [hwords, hwords']
    simp only [List.mem_cons, List.not_mem_nil, or_false]
    tauto
  · exact ((hbuiltin _ (mem_builtin_iff.2 (by simp)) {}).2 "in.out").2.1

end ClientGen.Proofs
