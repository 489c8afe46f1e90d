import ClientGen.Proofs.PathTemplates
import ClientGen.Proofs.Profiles
import ClientGen.Proofs.Words

/-!
# Names of placeholders

A name between the braces of a path is made of ASCII letters and underscores. A variable named for
it is such a name again, and it is a fixed point: joined words have no separators left, and an
underscore in front, be it kept or the mark of a reserved word, is not taken for one of them.
-/

namespace ClientGen.Proofs

open Unicode Identifier

/-! ### Letters and underscores -/

lemma toNat_lt_of_isPlaceholderChar {c : Char} (h : isPlaceholderChar c = true) :
    c.toNat < 0x80 := by
  rcases Bool.or_eq_true _ _ ▸ h with h | h
  · exact toNat_lt_of_isAlphanum (by simp [Char.isAlphanum, h])
  · rw [beq_iff_eq.1 h]
    decide

lemma isPlaceholderChar_case {c : Char} (h : isPlaceholderChar c = true) :
    isPlaceholderChar c.toUpper = true ∧ isPlaceholderChar c.toLower = true :=
  forall_ascii (P := fun c => isPlaceholderChar c = true →
    isPlaceholderChar c.toUpper = true ∧ isPlaceholderChar c.toLower = true)
    (by decide +kernel) (toNat_lt_of_isPlaceholderChar h) h

lemma isWordSeparator_case {c : Char} (hc : c.toNat < 0x80) (h : isWordSeparator c = false) :
    isWordSeparator c.toUpper = false ∧ isWordSeparator c.toLower = false :=
  forall_ascii (P := fun c => isWordSeparator c = false →
    isWordSeparator c.toUpper = false ∧ isWordSeparator c.toLower = false)
    (by decide +kernel) hc h

lemma isAscii_of_chars {cs : List Char} (h : ∀ c ∈ cs, isPlaceholderChar c = true) : IsAscii cs :=
  fun c hc => toNat_lt_of_isPlaceholderChar (h c hc)

lemma legal_of_isPlaceholderChar {cs : List Char} (h : ∀ c ∈ cs, isPlaceholderChar c = true) :
    legal cs = cs := by
  apply legal_eq_self
  intro c hc
  rcases Bool.or_eq_true _ _ ▸ h c hc with hc | hc
  · exact .inl (by simp [Char.isAlphanum, hc])
  · exact .inr (by simp [isWordSeparator, hc])

lemma camelCase_legalize {name : String} (h : ∀ c ∈ name.toList, isPlaceholderChar c = true) :
    camelCase (legalize name) = .ofList (camel name.toList) := by
  rw [camelCase, legalize, String.toList_ofList, legal_of_isPlaceholderChar h]

/-! ### Joined words -/

section Camel

variable {cs : List Char}

lemma camel_isPlaceholderChar (h : ∀ c ∈ cs, isPlaceholderChar c = true) :
    ∀ c ∈ camel cs, isPlaceholderChar c = true := by
  refine forall_camel ?_ ?_ fun c hc _ => h c hc
  · intro c hc d hd
    rw [upper_of_ascii (toNat_lt_of_isPlaceholderChar hc), List.mem_singleton] at hd
    exact hd ▸ (isPlaceholderChar_case hc).1
  · intro c hc d hd
    rw [lower_of_ascii (toNat_lt_of_isPlaceholderChar hc), List.mem_singleton] at hd
    exact hd ▸ (isPlaceholderChar_case hc).2

lemma isAscii_pascal (h : IsAscii cs) : IsAscii (pascal cs) := by
  refine forall_pascal ?_ fun c hc _ => h c hc
  intro c hc d hd
  rw [upper_of_ascii hc, List.mem_singleton] at hd
  exact hd ▸ (asciiCase hc).upper_lt

lemma isWordSeparator_camel (h : IsAscii cs) : ∀ c ∈ camel cs, isWordSeparator c = false := by
  have hcamel : ∀ c ∈ camel cs, c.toNat < 0x80 ∧ isWordSeparator c = false := by
    refine forall_camel ?_ ?_ fun c hc hsep => ⟨h c hc, hsep⟩
    · rintro c ⟨hc, hsep⟩ d hd
      rw [upper_of_ascii hc, List.mem_singleton] at hd
      exact hd ▸ ⟨(asciiCase hc).upper_lt, (isWordSeparator_case hc hsep).1⟩
    · rintro c ⟨hc, hsep⟩ d hd
      rw [lower_of_ascii hc, List.mem_singleton] at hd
      exact hd ▸ ⟨(asciiCase hc).lower_lt, (isWordSeparator_case hc hsep).2⟩
  exact fun c hc => (hcamel c hc).2

lemma uncapitalize_capitalize_uncapitalize (h : IsAscii cs) :
    uncapitalize (capitalize (uncapitalize cs)) = uncapitalize cs := by
  cases cs with
  | nil => rfl
  | cons c rest =>
    have hc := asciiCase (h c List.mem_cons_self)
    have hlower := asciiCase hc.lower_lt
    rw [uncapitalize, lower_of_ascii (h c List.mem_cons_self), List.singleton_append, capitalize,
      upper_of_ascii hc.lower_lt, List.singleton_append, uncapitalize,
      lower_of_ascii hlower.upper_lt, hlower.lower_upper, hc.lower_lower, List.singleton_append]

theorem camel_camel (h : IsAscii cs) : camel (camel cs) = camel cs := by
  have hone : (camel cs).splitOnP isWordSeparator = [camel cs] :=
    List.splitOnP_eq_singleton (isWordSeparator_camel h)
  calc camel (camel cs) = uncapitalize (capitalize (camel cs)) := by
        rw [camel, pascal, hone, List.flatMap_singleton]
    _ = camel cs := uncapitalize_capitalize_uncapitalize (isAscii_pascal h)

/-- A first letter stays first, in its small form. -/
lemma camel_cons {c : Char} (hc : c.toNat < 0x80) (hsep : isWordSeparator c = false)
    (rest : List Char) : ∃ tail, camel (c :: rest) = c.toLower :: tail := by
  obtain ⟨first, words, hsplit⟩ :=
    List.exists_cons_of_ne_nil (List.splitOnP_ne_nil isWordSeparator rest)
  refine ⟨first ++ words.flatMap capitalize, ?_⟩
  rw [camel, pascal, List.splitOnP_cons_eq_if_modifyHead, hsep, hsplit]
  simp only [Bool.false_eq_true, if_false, List.modifyHead_cons, List.flatMap_cons, capitalize,
    upper_of_ascii hc, List.nil_append, List.cons_append, uncapitalize,
    lower_of_ascii (asciiCase hc).upper_lt, (asciiCase hc).lower_upper]

lemma camel_ne_nil (h : PlaceholderName cs) (hhead : cs.head? ≠ some '_') : camel cs ≠ [] := by
  obtain ⟨c, rest, rfl⟩ := List.exists_cons_of_ne_nil h.ne_nil
  have hc : isPlaceholderChar c = true := h.chars c List.mem_cons_self
  have hne : c ≠ '_' := by simpa using hhead
  have halpha : c.isAlphanum = true := by
    rcases Bool.or_eq_true _ _ ▸ hc with hletter | hunder
    · simp [Char.isAlphanum, hletter]
    · exact absurd (beq_iff_eq.1 hunder) hne
  obtain ⟨tail, htail⟩ :=
    camel_cons (toNat_lt_of_isPlaceholderChar hc) (separators_of_isAlphanum halpha).2 rest
  rw [htail]
  exact List.cons_ne_nil _ _

end Camel

/-! ### Variables named for placeholders -/

/-- Names are escaped by an underscore in front, and no reserved word begins with one. -/
structure Marks (names : ReservedWords) : Prop where
  escape : names.escape = underscored
  words : ∀ word ∈ names.words, word.toList.head? ≠ some '_'

lemma toList_underscored (rest : String) : ("_" ++ rest).toList = '_' :: rest.toList := by
  rw [String.toList_append]
  rfl

lemma chars_of_underscored {rest : String}
    (h : ∀ c ∈ ("_" ++ rest).toList, isPlaceholderChar c = true) :
    ∀ c ∈ rest.toList, isPlaceholderChar c = true := by
  intro c hc
  apply h
  rw [toList_underscored]
  exact List.mem_cons_of_mem _ hc

lemma underscored_cases (name : String) :
    (∃ rest : String, name = "_" ++ rest) ∨ name.toList.head? ≠ some '_' := by
  by_cases h : name.toList.head? = some '_'
  · obtain ⟨rest, hname⟩ := List.head?_eq_some_iff.1 h
    refine .inl ⟨.ofList rest, ?_⟩
    rw [← String.toList_inj, toList_underscored, String.toList_ofList, hname]
  · exact .inr h

lemma Marks.isReserved_underscored {names : ReservedWords} (h : Marks names) (rest : String) :
    names.isReserved ("_" ++ rest) = false := by
  have hsmall : (lowercase ("_" ++ rest)).toList.head? = some '_' := by
    rw [lowercase, String.toList_ofList, toList_underscored]
    rfl
  rw [← Bool.not_eq_true, ReservedWords.isReserved, List.contains_iff_mem]
  exact fun hmem => h.words _ hmem hsmall

lemma Marks.sanitize_underscored {names : ReservedWords} (h : Marks names) (rest : String) :
    names.sanitize ("_" ++ rest) = "_" ++ rest := by
  rw [ReservedWords.sanitize, h.isReserved_underscored, if_neg Bool.false_ne_true]

/-- Joined words, with an underscore in front or fit to stand without one. -/
inductive VariableName (names : ReservedWords) : String → Prop
  | marked {cs : List Char} (hchars : ∀ c ∈ cs, isPlaceholderChar c = true)
    (hjoined : camel cs = cs) : VariableName names ("_" ++ .ofList cs)
  | plain {cs : List Char} (hchars : ∀ c ∈ cs, isPlaceholderChar c = true)
    (hjoined : camel cs = cs) (hhead : cs.head? ≠ some '_')
    (hfree : names.sanitize (.ofList cs) = .ofList cs) : VariableName names (.ofList cs)

section Variables

variable {t : Target} {name : String}

/-- An underscore in front is kept, -/
lemma varName_marked (h : Marks t.spec.names) (rest : String) :
    t.varName ("_" ++ rest) = "_" ++ camelCase (legalize rest) := by
  have hdrop : Text.dropStart? "_" ("_" ++ rest) = some rest := by
    rw [Text.dropStart?, Option.map_eq_some_iff]
    refine ⟨rest.toList, ?_, String.ofList_toList⟩
    rw [List.isPrefixOf?_eq_some_iff_append_eq, String.toList_append]
  unfold Target.varName
  rw [hdrop]
  dsimp only
  rw [h.sanitize_underscored]

/-- and where there is none, reserved words get one. -/
lemma varName_unmarked (hhead : name.toList.head? ≠ some '_') :
    t.varName name = t.spec.names.sanitize (camelCase (legalize name)) := by
  have hdrop : Text.dropStart? "_" name = none := by
    rw [Text.dropStart?, Option.map_eq_none_iff]
    cases hpre : "_".toList.isPrefixOf? name.toList with
    | none => rfl
    | some rest =>
      rw [List.isPrefixOf?_eq_some_iff_append_eq] at hpre
      exact absurd (by rw [← hpre]; rfl) hhead
  unfold Target.varName
  rw [hdrop]

lemma varName_underscored (h : Marks t.spec.names) {rest : String}
    (hrest : ∀ c ∈ rest.toList, isPlaceholderChar c = true) :
    t.varName ("_" ++ rest) = "_" ++ .ofList (camel rest.toList) := by
  rw [varName_marked h, camelCase_legalize hrest]

lemma varName_of_head_ne (hname : ∀ c ∈ name.toList, isPlaceholderChar c = true)
    (hhead : name.toList.head? ≠ some '_') :
    t.varName name = t.spec.names.sanitize (.ofList (camel name.toList)) := by
  rw [varName_unmarked hhead, camelCase_legalize hname]

lemma variableName_varName (h : Marks t.spec.names)
    (hname : ∀ c ∈ name.toList, isPlaceholderChar c = true) :
    VariableName t.spec.names (t.varName name) := by
  rcases underscored_cases name with ⟨rest, rfl⟩ | hhead
  · have hrest := chars_of_underscored hname
    rw [varName_underscored h hrest]
    exact .marked (camel_isPlaceholderChar hrest) (camel_camel (isAscii_of_chars hrest))
  · have hascii := isAscii_of_chars hname
    have hchars := camel_isPlaceholderChar hname
    have hjoined := camel_camel hascii
    rw [varName_of_head_ne hname hhead]
    by_cases hreserved : t.spec.names.isReserved (.ofList (camel name.toList)) = true
    · rw [ReservedWords.sanitize, if_pos hreserved, h.escape, underscored]
      exact .marked hchars hjoined
    · have hfree : t.spec.names.sanitize (.ofList (camel name.toList)) =
          .ofList (camel name.toList) := if_neg hreserved
      have hfirst : (camel name.toList).head? ≠ some '_' := by
        intro hunder
        exact absurd (isWordSeparator_camel hascii '_' (List.mem_of_mem_head? hunder)) (by decide)
      rw [hfree]
      exact .plain hchars hjoined hfirst hfree

namespace VariableName

lemma chars {names : ReservedWords} (h : VariableName names name) :
    ∀ c ∈ name.toList, isPlaceholderChar c = true := by
  cases h with
  | marked hchars =>
    intro c hc
    rw [toList_underscored, String.toList_ofList] at hc
    rcases List.mem_cons.1 hc with rfl | hc
    · decide
    · exact hchars c hc
  | plain hchars => rwa [String.toList_ofList]

/-- The variable named for such a name is that name. -/
lemma varName_eq (hmarks : Marks t.spec.names) (h : VariableName t.spec.names name) :
    t.varName name = name := by
  cases h with
  | marked hchars hjoined =>
    rw [varName_underscored hmarks (by rwa [String.toList_ofList]), String.toList_ofList, hjoined]
  | plain hchars hjoined hhead hfree =>
    rw [varName_of_head_ne (by rwa [String.toList_ofList]) (by rwa [String.toList_ofList]),
      String.toList_ofList, hjoined, hfree]

end VariableName

/-- Naming a variable twice is naming it once. -/
theorem varName_varName (h : Marks t.spec.names)
    (hname : ∀ c ∈ name.toList, isPlaceholderChar c = true) :
    t.varName (t.varName name) = t.varName name :=
  (variableName_varName h hname).varName_eq h

/-- A name begins with an underscore, which is kept, or with a letter, which stays first. -/
theorem placeholderName_varName (h : Marks t.spec.names) (hname : PlaceholderName name.toList) :
    PlaceholderName (t.varName name).toList := by
  refine ⟨?_, (variableName_varName h hname.chars).chars⟩
  rcases underscored_cases name with ⟨rest, rfl⟩ | hhead
  · rw [varName_underscored h (chars_of_underscored hname.chars), toList_underscored]
    exact List.cons_ne_nil _ _
  · have hne : camel name.toList ≠ [] := camel_ne_nil hname hhead
    rw [varName_of_head_ne hname.chars hhead]
    unfold ReservedWords.sanitize
    split
    · rw [h.escape, underscored, toList_underscored]
      exact List.cons_ne_nil _ _
    · rwa [String.toList_ofList]

end Variables

/-! ### Built-in profiles -/

lemma marks_builtin {p : Profile} (hp : p ∈ Registry.builtin.profiles) (c : Config) :
    Marks (p.configure c).spec.names := by
  rw [names_configure hp]
  refine ⟨escape_builtin hp, fun word hword => ?_⟩
  rw [← String.ofList_toList (s := word)] at hword
  exact (word_facts hp hword).2.2

end ClientGen.Proofs
