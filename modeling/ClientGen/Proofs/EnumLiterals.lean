import ClientGen.Proofs.Coherence
import ClientGen.Proofs.Identifiers
import ClientGen.Proofs.QuotedTexts

/-!
# Default literals of enumerations

The default of a required enumeration is a pattern with two places: the type is filled in first, then
the raw value. No type holds a brace, so that the second place is found behind the type, and nothing
looks at the raw value once it is there. The raw value is put between quotes as it is. So the literal
stands for it only if it holds neither a quote nor a backslash.
-/

namespace ClientGen.Proofs

open Text DefaultLiterals Identifier

variable {p : Profile} {d : Document} {c : Config}

/-! ### Filling a place -/

section

variable {first : Char} {place new before after cs : List Char}

lemma replaceFrom_eq_self (h : ¬place <:+: cs) : replaceFrom place new 0 cs = cs := by
  induction cs with
  | nil => rfl
  | cons c rest ih =>
    rw [List.infix_cons_iff, not_or] at h
    rw [replaceFrom, if_neg (mt List.isPrefixOf_iff_prefix.1 h.1), ih h.2]

lemma replaceFrom_skip (before after : List Char) :
    replaceFrom place new before.length (before ++ after) = replaceFrom place new 0 after := by
  induction before with
  | nil => rfl
  | cons c rest ih => rw [List.length_cons, List.cons_append, replaceFrom, ih]

lemma replaceFrom_place (first : Char) (place after : List Char) :
    replaceFrom (first :: place) new 0 (first :: place ++ after) =
      new ++ replaceFrom (first :: place) new 0 after := by
  rw [List.cons_append, replaceFrom, ← List.cons_append,
    if_pos (List.isPrefixOf_iff_prefix.2 (List.prefix_append ..)), List.length_cons,
    Nat.add_sub_cancel, replaceFrom_skip]

/-- No place begins in a text without its first character. -/
lemma replaceFrom_append (h : first ∉ before) :
    replaceFrom (first :: place) new 0 (before ++ after) =
      before ++ replaceFrom (first :: place) new 0 after := by
  induction before with
  | nil => rfl
  | cons c rest ih =>
    obtain ⟨hfirst, hrest⟩ := List.ne_and_not_mem_of_not_mem_cons h
    rw [List.cons_append, replaceFrom, List.isPrefixOf, beq_false_of_ne hfirst, Bool.false_and,
      if_neg Bool.false_ne_true, ih hrest, List.cons_append]

/-- The only place is filled, whatever it is filled with. -/
lemma replaceAll_only {place new before after : String}
    (hplace : place.toList.head? = some first) (hbefore : first ∉ before.toList)
    (hafter : ¬place.toList <:+: after.toList) :
    replaceAll place new (before ++ place ++ after) = before ++ new ++ after := by
  obtain ⟨rest, hrest⟩ := List.head?_eq_some_iff.1 hplace
  rw [hrest] at hafter
  rw [replaceAll, ← String.toList_inj, String.toList_ofList, String.append_assoc,
    String.toList_append, String.toList_append, hrest, replaceFrom_append hbefore,
    replaceFrom_place, replaceFrom_eq_self hafter, String.append_assoc, String.toList_append,
    String.toList_append]

end

/-! ### Cases -/

/-- How all built-in profiles write a case of an enumeration. -/
def caseLiteral (type body : String) : String := type ++ "(rawValue: \"" ++ body ++ "\")!"

/-- The literal is a case of the type, and what is quoted in it reads as the raw value. -/
def IsCaseOf (type raw literal : String) : Prop :=
  ∃ body, literal = caseLiteral type body ∧ unquote? body.toList = some raw.toList

lemma enumPattern_configure (hp : p ∈ Registry.builtin.profiles) (c : Config) :
    (p.configure c).spec.literals.enumPattern = Swift.literals.enumPattern := by
  rcases mem_builtin_iff.1 hp with rfl | rfl | rfl | rfl
  · rfl
  · rfl
  · simp only [LoopBack.profile, LoopBack.configure]
    split_ifs <;> rfl
  · rfl

lemma head?_typePlace : typePlace.toList.head? = some '\x7b' := by decide

lemma head?_rawPlace : rawPlace.toList.head? = some '\x7b' := by decide

lemma enumPattern_eq : Swift.literals.enumPattern = caseLiteral typePlace rawPlace := by
  decide +kernel

/-- The type is not looked at for the second place, nor the raw value for either. -/
lemma enumCase_eq {l : DefaultLiterals} (hl : l.enumPattern = Swift.literals.enumPattern)
    {type : String} (h : '\x7b' ∉ type.toList) (raw : String) :
    l.enumCase type raw = caseLiteral type raw := by
  have htype : replaceAll typePlace type l.enumPattern = caseLiteral type rawPlace := by
    -- the case without a type is what stands behind the first place
    have hfilled : replaceAll typePlace type ("" ++ typePlace ++ caseLiteral "" rawPlace) =
        "" ++ type ++ caseLiteral "" rawPlace :=
      replaceAll_only head?_typePlace List.not_mem_nil (by decide +kernel)
    rw [hl, enumPattern_eq]
    simpa only [caseLiteral, String.empty_append, String.append_assoc] using hfilled
  have hbefore : '\x7b' ∉ (type ++ "(rawValue: \"").toList := by
    rw [String.toList_append, List.mem_append, not_or]
    exact ⟨h, by decide⟩
  rw [enumCase, htype]
  exact replaceAll_only head?_rawPlace hbefore (by decide +kernel)

lemma caseLiteral_injective {type a b : String}
    (h : caseLiteral type a = caseLiteral type b) : a = b := by
  simpa [caseLiteral] using h

lemma isCaseOf_caseLiteral_iff (type raw : String) :
    IsCaseOf type raw (caseLiteral type raw) ↔ '"' ∉ raw.toList ∧ '\\' ∉ raw.toList := by
  have hbody : IsCaseOf type raw (caseLiteral type raw) ↔
      unquote? raw.toList = some raw.toList := by
    constructor
    · rintro ⟨body, hliteral, hreads⟩
      rwa [← caseLiteral_injective hliteral] at hreads
    · exact fun hreads => ⟨raw, rfl, hreads⟩
  rw [hbody, unquote?_eq_some_iff, eq_comm, escaped_eq_self_iff]
  constructor
  · intro h
    exact ⟨fun hquote => absurd (h _ hquote) (by decide),
      fun hslash => absurd (h _ hslash) (by decide)⟩
  · rintro ⟨hquote, hslash⟩ ch hch
    rw [isQuoteMark, Bool.or_eq_false_iff, beq_eq_false_iff_ne, beq_eq_false_iff_ne]
    exact ⟨fun h => hquote (h ▸ hch), fun h => hslash (h ▸ hch)⟩

/-! ### Properties -/

lemma brace_notMem_enumTypeName (hp : p ∈ Registry.builtin.profiles) (c : Config)
    (declared : String) : '\x7b' ∉
      (enumTypeName (p.configure c).spec.names (enumWorkingName declared) declared).toList :=
  fun hbrace => absurd ((identifierIff_enumTypeName hp c declared).chars _ hbrace) (by decide)

lemma exists_initialValue {q : Property} (h : q.allowableValues ≠ []) :
    ∃ raw, q.initialValue? = some raw := by
  obtain ⟨first, rest, hvalues⟩ := List.exists_cons_of_ne_nil h
  rw [Property.initialValue?, hvalues, List.head?_cons]
  cases q.schemaDefault with
  | some raw => exact ⟨raw, rfl⟩
  | none => exact ⟨first, rfl⟩

/-- In a finished run the default of a required enumeration is its type around its initial value,
whatever characters stand in the value, a place of the pattern among them. It is a case of the type
and stands for that value just when there is neither a quote nor a backslash in it. -/
theorem enumLiterals_of_run (hp : p ∈ Registry.builtin.profiles) {run : Run}
    (h : generate p d c = .ok run) :
    ∃ api, run.api = some api ∧ ∀ m ∈ api.models, ∀ q ∈ m.properties,
      q.isEnum = true → q.required = true →
      ∃ raw, q.initialValue? = some raw ∧
        q.defaultValue = caseLiteral q.dataTypeWithEnum raw ∧
        (IsCaseOf q.dataTypeWithEnum raw q.defaultValue ↔
          '"' ∉ raw.toList ∧ '\\' ∉ raw.toList) := by
  obtain ⟨-, rfl⟩ := generate_eq_ok_iff.1 h
  refine ⟨finishedApi p (p.configure c) d, rfl, fun m hm q hq henum hrequired => ?_⟩
  rw [finishedApi_models] at hm
  obtain ⟨e, -, rfl⟩ := List.mem_map.1 hm
  obtain ⟨f, -, hsettled⟩ := settled_of_mem hp hq
  have hs : f.2.isEnum = true := hsettled.isEnum ▸ henum
  have hvalues : q.allowableValues ≠ [] := hsettled.allowableValues ▸ allowedTexts_ne_nil hs
  obtain ⟨raw, hraw⟩ := exists_initialValue hvalues
  have hbrace : '\x7b' ∉ q.dataTypeWithEnum.toList := by
    rw [hsettled.dataTypeWithEnum, if_pos hs]
    exact brace_notMem_enumTypeName hp c f.1
  have hliteral : q.defaultValue = caseLiteral q.dataTypeWithEnum raw := by
    rw [hsettled.defaultValue, ← enumCase_eq (enumPattern_configure hp c) hbrace]
    simp [Target.defaultValue, hrequired, henum, hraw]
  exact ⟨raw, hraw, hliteral, hliteral ▸ isCaseOf_caseLiteral_iff ..⟩

/-- Initial values with a quote, with a backslash, and made of the places of the pattern. -/
def screens : Document where
  definitions :=
    [("Screen",
      { required := ["size", "folder", "label"]
        properties :=
          [("size", { kind := some "string", allowed := [.str "3.5\"", .str "5.0\""] }),
           ("folder", { kind := some "string", allowed := [.str "C:\\"] }),
           ("label",
            { kind := some "string", allowed := [.str "plain"],
              default := some (.str "\x7braw\x7d\x7btype\x7d") })] })]

theorem enumLiterals_of_run_screens :
    generate Plain.profile screens {} = .ok (finishedRun Plain.profile screens {}) ∧
      ∃ api, (finishedRun Plain.profile screens {}).api = some api ∧
        (api.models.flatMap fun m => m.properties.map fun q => q.defaultValue) =
          ["Size(rawValue: \"3.5\"\")!", "Folder(rawValue: \"C:\\\")!",
            "Label(rawValue: \"\x7braw\x7d\x7btype\x7d\")!"] ∧
        ∀ m ∈ api.models, ∀ q ∈ m.properties, ∃ raw, q.initialValue? = some raw ∧
          (IsCaseOf q.dataTypeWithEnum raw q.defaultValue ↔ q.baseName = "label") := by
  have hrun : generate Plain.profile screens {} = .ok (finishedRun Plain.profile screens {}) :=
    generate_of_accepted (by decide +kernel)
  obtain ⟨api, hapi, hmodels⟩ := enumLiterals_of_run (mem_builtin_iff.2 (by simp)) hrun
  have hfacts : ∀ m ∈ api.models, ∀ q ∈ m.properties, q.isEnum = true ∧ q.required = true ∧
      ∀ raw ∈ q.initialValue?,
        ('"' ∉ raw.toList ∧ '\\' ∉ raw.toList ↔ q.baseName = "label") := by
    obtain rfl := Option.some.inj hapi
    decide +kernel
  refine ⟨hrun, api, hapi, ?_, fun m hm q hq => ?_⟩
  · obtain rfl := Option.some.inj hapi
    decide +kernel
  · obtain ⟨henum, hrequired, hplain⟩ := hfacts m hm q hq
    obtain ⟨raw, hraw, -, hreads⟩ := hmodels m hm q hq henum hrequired
    exact ⟨raw, hraw, hreads.trans (hplain raw hraw)⟩

end ClientGen.Proofs
