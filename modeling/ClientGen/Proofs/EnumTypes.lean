import ClientGen.Proofs.Spelling
import ClientGen.Proofs.VariableNames

/-!
# Types of enumerations

The type of an enumeration is named for its property: the stem of the variable with a capital. It is
escaped when it is reserved or equals the declared name. It is not compared with the variable, nor
is the escaped form compared with anything. So the type may have the name of its variable when a
capital changes nothing, and the declared name when that is an escaped reserved word already.
-/

namespace ClientGen.Proofs

open Unicode Identifier

variable {p : Profile} {t : Target} {d : Document} {c : Config}

/-! ### Stems of types -/

/-- The type of an enumeration before it is escaped. -/
def typeStem (declared : String) : String := initialCaps (variableStem declared)

lemma toList_typeStem (declared : String) :
    (typeStem declared).toList = capitalize (variableStem declared).toList := by
  rw [typeStem, initialCaps, String.toList_ofList]

lemma enumWorkingName_eq (declared : String) :
    enumWorkingName declared = typeStem declared ++ enumEnding := rfl

lemma dropEnding?_append (stem ending : String) :
    Text.dropEnding? ending (stem ++ ending) = some stem := by
  have hsuffix : ending.toList.isSuffixOf? (stem ++ ending).toList = some stem.toList := by
    rw [List.isSuffixOf?, String.toList_append, List.reverse_append, Option.map_eq_some_iff]
    refine ⟨stem.toList.reverse, ?_, List.reverse_reverse _⟩
    rw [List.isPrefixOf?_eq_some_iff_append_eq]
  rw [Text.dropEnding?, hsuffix, Option.map_some, String.ofList_toList]

lemma enumTypeName_eq {names : ReservedWords} (h : Marks names) (declared : String) :
    enumTypeName names (enumWorkingName declared) declared =
      if names.isReserved (typeStem declared) = true ∨ typeStem declared = declared then
        "_" ++ typeStem declared
      else typeStem declared := by
  rw [enumTypeName, enumWorkingName_eq, dropEnding?_append, Option.getD_some, h.escape, underscored]
  simp only [Bool.or_eq_true, beq_iff_eq]

lemma head?_typeStem (declared : String) {ch : Char} (hch : IsCaseless ch) :
    (typeStem declared).toList.head? = some ch ↔
      (declared.toList.filter isAlphanumeric).head? = some ch := by
  rw [toList_typeStem]
  exact ((recased_capitalize _).head?_iff hch).trans (head?_variableStem declared hch)

lemma head?_typeStem_ne (declared : String) : (typeStem declared).toList.head? ≠ some '_' := by
  rw [ne_eq, head?_typeStem declared (by decide), ← head?_variableStem declared (by decide)]
  exact head?_variableStem_ne declared

/-! ### Capitals -/

/-- A small form that is its own capital is no letter of ASCII. -/
lemma isCaseless_of_mem_lower {x y : Char} (hy : y ∈ lower x) (hascii : y.toNat < 0x80)
    (hcapital : y.toUpper = y) : IsCaseless y := by
  rcases lower_ascii_cases hy hascii with ⟨hx, rfl⟩ | rfl | rfl
  · exact forall_ascii (P := fun x => x.toLower.toUpper = x.toLower → IsCaseless x.toLower)
      (by decide +kernel) hx hcapital
  · exact absurd hcapital (by decide)
  · exact absurd hcapital (by decide)

/-- A reserved stem begins with a small letter of ASCII, so a capital changes it. -/
lemma typeStem_ne_of_isReserved (hp : p ∈ Registry.builtin.profiles) {declared : String}
    (h : p.spec.names.isReserved (variableStem declared) = true) :
    typeStem declared ≠ variableStem declared := by
  intro hsame
  rw [ReservedWords.isReserved, List.contains_iff_mem, lowercase] at h
  obtain ⟨⟨first, hfirst, hletter⟩, -⟩ := letters_of_word hp h
  have hascii := (word_facts hp h).1
  rw [String.toList_ofList] at hfirst
  rw [← String.toList_inj, toList_typeStem] at hsame
  rw [toList_variableStem, camel] at hsame hfirst hascii
  cases hjoined : pascal (legal declared.toList) with
  | nil =>
    rw [hjoined] at hfirst
    cases hfirst
  | cons x rest =>
    rw [hjoined, uncapitalize] at hsame hfirst hascii
    obtain ⟨y, ys, hy⟩ := List.exists_cons_of_ne_nil (lower_ne_nil x)
    have hmem : y ∈ lower x := by rw [hy]; exact List.mem_cons_self
    rw [hy, List.cons_append] at hsame hfirst hascii
    have hcapital : upper y = [y] := List.append_cancel_right hsame
    -- what reads like a reserved word is in ASCII, but for a Kelvin sign, which is no small letter
    have hsmall : y.toNat < 0x80 := by
      have hwords := lowerText_asciiEq (y :: (ys ++ rest)) (.inl hascii) ▸ hascii
      by_contra hbig
      exact not_isAscii_flatMap_lower List.mem_cons_self (Nat.not_lt.1 hbig)
        (ne_kelvin_of_mem_lower hmem) hwords
    rw [upper_of_ascii hsmall, List.singleton_inj] at hcapital
    have hcaseless := isCaseless_of_mem_lower hmem hsmall hcapital
    have hhead := ((recased_lowerText (y :: (ys ++ rest))).head?_iff hcaseless).2 rfl
    rw [hfirst, Option.some_inj] at hhead
    rw [hhead, hcaseless.2] at hletter
    cases hletter

/-- A name that begins with a letter of ASCII has a stem that a capital changes. -/
lemma typeStem_ne_of_isAlpha {declared : String} {ch : Char}
    (hhead : declared.toList.head? = some ch) (hletter : ch.isAlpha = true) :
    typeStem declared ≠ variableStem declared := by
  obtain ⟨rest, hcs⟩ := List.head?_eq_some_iff.1 hhead
  have halnum : ch.isAlphanum = true := by simp [Char.isAlphanum, hletter]
  have hascii := toNat_lt_of_isAlphanum halnum
  have hsep := (separators_of_isAlphanum halnum).2
  have hlegal : legal (ch :: rest) = ch :: legal rest := by
    have hone : legal [ch] = [ch] :=
      legal_eq_self fun x hx => .inl (List.mem_singleton.1 hx ▸ halnum)
    have happend : legal ([ch] ++ rest) = legal [ch] ++ legal rest := by
      simp only [legal, List.filter_append, List.map_append]
    rw [hone] at happend
    exact happend
  obtain ⟨tail, htail⟩ := camel_cons hascii hsep (legal rest)
  rw [ne_eq, ← String.toList_inj, toList_typeStem, toList_variableStem, hcs, hlegal, htail,
    capitalize, upper_of_ascii (asciiCase hascii).lower_lt, List.singleton_append]
  intro hsame
  exact forall_ascii (P := fun ch => ch.isAlpha = true → ch.toLower.toUpper ≠ ch.toLower)
    (by decide +kernel) hascii hletter (List.cons.inj hsame).1

/-! ### The type, the variable and the declared name -/

lemma isReserved_enumTypeName {names : ReservedWords} (h : Marks names) (declared : String) :
    names.isReserved (enumTypeName names (enumWorkingName declared) declared) = false := by
  rw [enumTypeName_eq h]
  split_ifs with hescaped
  · exact h.isReserved_underscored _
  · rw [← Bool.not_eq_true]
    exact fun hreserved => hescaped (.inl hreserved)

/-- The type has the declared name only if that is its escaped stem, and the stem is reserved. -/
lemma enumTypeName_eq_declared_iff {names : ReservedWords} (h : Marks names) (declared : String) :
    enumTypeName names (enumWorkingName declared) declared = declared ↔
      names.isReserved (typeStem declared) = true ∧ declared = "_" ++ typeStem declared := by
  rw [enumTypeName_eq h]
  by_cases hreserved : names.isReserved (typeStem declared) = true
  · rw [if_pos (.inl hreserved), iff_true_intro hreserved, true_and, eq_comm]
  · refine iff_of_false ?_ fun hright => hreserved hright.1
    split_ifs with hescaped
    · have hsame := hescaped.resolve_left hreserved
      rw [hsame]
      exact (append_underscore_ne (hsame ▸ head?_typeStem_ne declared) _).symm
    · exact fun hsame => hescaped (.inr hsame)

/-- The type has the name of the variable only if a capital changes nothing in it, no underscore
stands in front and the declared name is another. -/
lemma enumTypeName_eq_varName_iff (hp : p ∈ Registry.builtin.profiles) (hmarks : Marks t.spec.names)
    (hnames : t.spec.names = p.spec.names) (declared : String) :
    enumTypeName t.spec.names (enumWorkingName declared) declared = t.varName declared ↔
      initialCaps (t.varName declared) = t.varName declared ∧
        (t.varName declared).toList.head? ≠ some '_' ∧ t.varName declared ≠ declared := by
  rw [varName_eq hmarks, enumTypeName_eq hmarks]
  have htype := append_underscore_ne (head?_typeStem_ne declared) (variableStem declared)
  have hvariable := append_underscore_ne (head?_variableStem_ne declared) (typeStem declared)
  by_cases hmarked : IsUnderscored t.spec.names declared
  · rw [if_pos hmarked]
    refine iff_of_false ?_ fun hright => hright.2.1 (by rw [toList_underscored]; rfl)
    -- two marked names agree only if a capital leaves the stem alone, but then the stem is not
    -- reserved and the declared name begins with no underscore
    split_ifs with hescaped
    · rw [← String.toList_inj, toList_underscored, toList_underscored, List.cons_inj_right,
        String.toList_inj]
      intro hsame
      have hfree : ¬t.spec.names.isReserved (variableStem declared) = true := by
        rw [hnames]
        exact fun hreserved => typeStem_ne_of_isReserved hp hreserved hsame
      have hdeclared := hescaped.resolve_left (hsame ▸ hfree)
      have hhead := hmarked.resolve_right hfree
      rw [← hdeclared] at hhead
      exact head?_typeStem_ne declared hhead
    · exact htype
  · rw [if_neg hmarked, ← typeStem]
    have hfree : ¬t.spec.names.isReserved (variableStem declared) = true :=
      fun hreserved => hmarked (.inr hreserved)
    constructor
    · intro hsame
      split_ifs at hsame with hescaped
      · exact absurd hsame.symm hvariable
      · exact ⟨hsame, head?_variableStem_ne declared,
          fun hdeclared => hescaped (.inr (hsame.trans hdeclared))⟩
    · rintro ⟨hsame, -, hdeclared⟩
      rw [hsame, if_neg]
      exact fun hescaped => hescaped.elim hfree hdeclared

/-- In a finished run the type of an enumeration is never reserved. It has the declared name of its
property just when that name is the stem of the type behind an underscore and the stem is reserved.
It has the generated name just when that is its own capital form, has no underscore in front and is
not the declared name. Neither happens to declared names that begin with a letter of ASCII. -/
theorem enumTypes_of_run (hp : p ∈ Registry.builtin.profiles) {run : Run}
    (h : generate p d c = .ok run) :
    ∃ api, run.api = some api ∧ ∀ m ∈ api.models, ∀ q ∈ m.properties, q.isEnum = true →
      (p.configure c).spec.names.isReserved q.dataTypeWithEnum = false ∧
      (q.dataTypeWithEnum = q.baseName ↔
        (p.configure c).spec.names.isReserved (typeStem q.baseName) = true ∧
          q.baseName = "_" ++ typeStem q.baseName) ∧
      (q.dataTypeWithEnum = q.name ↔
        initialCaps q.name = q.name ∧ q.name.toList.head? ≠ some '_' ∧ q.name ≠ q.baseName) ∧
      ∀ ch, q.baseName.toList.head? = some ch → ch.isAlpha = true →
        q.dataTypeWithEnum ≠ q.baseName ∧ q.dataTypeWithEnum ≠ q.name := by
  obtain ⟨-, rfl⟩ := generate_eq_ok_iff.1 h
  have hmarks := marks_builtin hp c
  refine ⟨finishedApi p (p.configure c) d, rfl, fun m hm q hq henum => ?_⟩
  rw [finishedApi_models] at hm
  obtain ⟨e, -, rfl⟩ := List.mem_map.1 hm
  obtain ⟨f, -, hsettled⟩ := settled_of_mem hp hq
  have htype : q.dataTypeWithEnum =
      enumTypeName (p.configure c).spec.names (enumWorkingName q.baseName) q.baseName := by
    rw [hsettled.dataTypeWithEnum, if_pos (hsettled.isEnum ▸ henum), hsettled.baseName]
  have hname : q.name = (p.configure c).varName q.baseName := by
    rw [hsettled.name, varName_builtin hp, hsettled.baseName]
  have hdeclared := enumTypeName_eq_declared_iff hmarks q.baseName
  have hvariable := enumTypeName_eq_varName_iff hp hmarks (names_configure hp c) q.baseName
  rw [← htype] at hdeclared hvariable
  rw [← hname] at hvariable
  refine ⟨?_, hdeclared, hvariable, fun ch hhead hletter => ⟨?_, ?_⟩⟩
  · rw [htype]
    exact isReserved_enumTypeName hmarks q.baseName
  · rw [ne_eq, hdeclared]
    rintro ⟨-, hmarked⟩
    rw [hmarked, toList_underscored, List.head?_cons, Option.some_inj] at hhead
    rw [← hhead] at hletter
    exact absurd hletter (by decide)
  · rw [ne_eq, hvariable]
    rintro ⟨hcapital, hfree, -⟩
    rw [hname, varName_eq hmarks] at hcapital hfree
    split_ifs at hcapital hfree with hmarked
    · exact hfree (by rw [toList_underscored]; rfl)
    · exact typeStem_ne_of_isAlpha hhead hletter hcapital

/-- Enumerations named in a script without capitals, like an escaped word, and plainly. -/
def flags : Document where
  definitions :=
    [("Flag", { properties :=
      [("日_本", { kind := some "string", allowed := [.str "on"] }),
       ("_Class", { kind := some "string", allowed := [.str "on"] }),
       ("type", { kind := some "string", allowed := [.str "on"] })] })]

theorem enumTypes_of_run_flags :
    generate Plain.profile flags {} = .ok (finishedRun Plain.profile flags {}) ∧
      ∃ api, (finishedRun Plain.profile flags {}).api = some api ∧
        (api.models.flatMap fun m => m.properties.map fun q =>
          (q.baseName, q.name, q.dataTypeWithEnum)) =
            [("日_本", "日本", "日本"), ("_Class", "_class", "_Class"), ("type", "_type", "_Type")] ∧
        ∀ m ∈ api.models, ∀ q ∈ m.properties,
          (Plain.profile.configure {}).spec.names.isReserved q.dataTypeWithEnum = false ∧
          (q.baseName = "日_本" → q.dataTypeWithEnum = q.name) ∧
          (q.baseName = "_Class" → q.dataTypeWithEnum = q.baseName) ∧
          (q.baseName = "type" → q.dataTypeWithEnum ≠ q.baseName ∧ q.dataTypeWithEnum ≠ q.name) := by
  have hrun : generate Plain.profile flags {} = .ok (finishedRun Plain.profile flags {}) :=
    generate_of_accepted (by decide +kernel)
  obtain ⟨api, hapi, hmodels⟩ := enumTypes_of_run (mem_builtin_iff.2 (by simp)) hrun
  have hfacts : ∀ m ∈ api.models, ∀ q ∈ m.properties, q.isEnum = true ∧
      (q.baseName = "日_本" → q.name = "日本") := by
    obtain rfl := Option.some.inj hapi
    decide +kernel
  refine ⟨hrun, api, hapi, ?_, fun m hm q hq => ?_⟩
  · obtain rfl := Option.some.inj hapi
    decide +kernel
  · obtain ⟨henum, hsun⟩ := hfacts m hm q hq
    obtain ⟨hfree, hdeclared, hvariable, hletter⟩ := hmodels m hm q hq henum
    refine ⟨hfree, fun hbase => ?_, fun hbase => ?_, fun hbase => ?_⟩
    · rw [hvariable, hsun hbase, hbase]
      decide +kernel
    · rw [hdeclared, hbase]
      decide +kernel
    · exact hletter 't' (by rw [hbase]; rfl) (by decide)

end ClientGen.Proofs
