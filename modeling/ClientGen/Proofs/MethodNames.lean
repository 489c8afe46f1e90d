import Mathlib.Data.List.TakeWhile
import ClientGen.Proofs.Grouping
import ClientGen.Proofs.Spelling

/-!
# Method names of a finished run

A declared id is compared with the reserved words before the profile makes a method name of it, and
the name is not compared again. It is reserved all the same when the id reads like a reserved word
once separators are dropped: `_class` and `Pet.self` are accepted and give such names.
-/

namespace ClientGen.Proofs

open Unicode Identifier

variable {p : Profile} {t : Target} {d : Document} {c : Config}

/-- The part of a declared id that names the method: what follows the last dot for LoopBack. -/
def methodPart (p : Profile) (id : String) : List Char :=
  if p.name = LoopBack.profile.name then LoopBack.lastSegment id.toList else id.toList

/-- The method part of an id reads like a reserved word. -/
def ReadsReserved (p : Profile) (names : ReservedWords) (id : String) : Prop :=
  String.ofList (spelling (methodPart p id)) ∈ names.words

instance (p : Profile) (names : ReservedWords) (id : String) :
    Decidable (ReadsReserved p names id) :=
  inferInstanceAs (Decidable (_ ∈ _))

/-! ### Reserved words in small letters -/

lemma AsciiEq.mem_words_iff (hp : p ∈ Registry.builtin.profiles) {cs ds : List Char}
    (h : AsciiEq cs ds) :
    String.ofList cs ∈ p.spec.names.words ↔ String.ofList ds ∈ p.spec.names.words := by
  constructor
  · intro hc
    rwa [← h (.inl (word_facts hp hc).1)]
  · intro hd
    rwa [h (.inr (word_facts hp hd).1)]

lemma isReserved_ofList_iff (names : ReservedWords) (cs : List Char) :
    names.isReserved (.ofList cs) = true ↔ String.ofList (lowerText cs) ∈ names.words := by
  rw [ReservedWords.isReserved, lowercase, String.toList_ofList, List.contains_iff_mem]

/-- A name in camel case is reserved exactly when its words read like a reserved word. -/
lemma isReserved_operationName_iff (hp : p ∈ Registry.builtin.profiles) (raw : String) :
    p.spec.names.isReserved (operationName raw) = true ↔
      String.ofList (spelling raw.toList) ∈ p.spec.names.words := by
  rw [operationName, camelCase, legalize, String.toList_ofList, isReserved_ofList_iff]
  exact (lowerText_camel_asciiEq _).mem_words_iff hp

/-- Capitals at the start of such a name change nothing. -/
lemma isReserved_initialCaps_iff (hp : p ∈ Registry.builtin.profiles) (raw : String) :
    p.spec.names.isReserved (initialCaps (operationName raw)) = true ↔
      String.ofList (spelling raw.toList) ∈ p.spec.names.words := by
  rw [initialCaps, operationName, camelCase, legalize, String.toList_ofList, String.toList_ofList,
    isReserved_ofList_iff, (lowerText_asciiEq _).mem_words_iff hp, spelling_eq, camel]
  cases hcs : pascal (legal raw.toList) with
  | nil => rfl
  | cons c rest =>
    obtain ⟨first, hfirst⟩ := exists_mem_upper_of_pascal hcs
    have hcap := not_mem_asciiCapitals_of_mem_upper hfirst
    rcases capitalize_uncapitalize_asciiEq rest hcap with h | ⟨hbeyond, tail, hss⟩
    · exact h.mem_words_iff hp
    · constructor
      · intro h
        exact absurd hss ((word_facts hp h).2.1 tail)
      · intro h
        exact absurd (word_facts hp h).1 hbeyond

theorem isReserved_methodName_iff (hp : p ∈ Registry.builtin.profiles) (id : String) :
    p.spec.names.isReserved (p.operationName t id) = true ↔
      ReadsReserved p p.spec.names id := by
  unfold ReadsReserved methodPart
  rcases mem_builtin_iff.1 hp with rfl | rfl | rfl | rfl
  · rw [if_neg (by decide)]
    exact isReserved_operationName_iff hp id
  · rw [if_neg (by decide)]
    exact isReserved_initialCaps_iff hp id
  · rw [if_pos rfl]
    have h := isReserved_operationName_iff hp (.ofList (LoopBack.lastSegment id.toList))
    rwa [String.toList_ofList] at h
  · rw [if_neg (by decide)]
    exact isReserved_operationName_iff hp id

/-! ### Operations of a finished run -/

/-- The method name of a finished operation comes from the id of a site. -/
lemma exists_site_of_mem (hp : p ∈ Registry.builtin.profiles) {o : Operation}
    (ho : o ∈ (finishedApi p t d).operations) :
    ∃ site ∈ d.sites, o.nickname = declaredId site ∧
      o.operationId = p.operationName t (declaredId site) := by
  obtain ⟨site, hsite, resource, rfl⟩ := exists_site_of_mem_operations hp ho
  exact ⟨site, hsite, rfl, rfl⟩

lemma lastSegment_of_isAlphanum {cs : List Char} (h : ∀ c ∈ cs, c.isAlphanum = true) :
    LoopBack.lastSegment cs = cs := by
  have hall : cs.reverse.takeWhile (· != '.') = cs.reverse := by
    rw [List.takeWhile_eq_self_iff]
    intro c hc
    have hdot := (separators_of_isAlphanum (h c (List.mem_reverse.1 hc))).1
    simpa using hdot
  rw [LoopBack.lastSegment, hall, List.reverse_reverse]

/-- An accepted id of ASCII letters and digits never reads like a reserved word. -/
lemma Accepted.not_readsReserved {site : OperationSite} (h : Accepted p t site)
    (halnum : ∀ x ∈ (declaredId site).toList, x.isAlphanum = true) :
    ¬ReadsReserved p t.spec.names (declaredId site) := by
  have hpart : methodPart p (declaredId site) = (declaredId site).toList := by
    unfold methodPart
    split_ifs
    · exact lastSegment_of_isAlphanum halnum
    · rfl
  intro hreads
  rw [ReadsReserved, hpart, spelling_of_isAlphanum halnum, ← isReserved_ofList_iff,
    String.ofList_toList, h.unreserved] at hreads
  cases hreads

/-- A finished run gives every operation a name, which is a reserved word exactly when the declared
id reads like one once its separators are dropped. That cannot be when the id is made of ASCII
letters and digits. -/
theorem method_names_of_run (hp : p ∈ Registry.builtin.profiles) {run : Run}
    (h : generate p d c = .ok run) :
    ∃ api, run.api = some api ∧ ∀ g ∈ api.groups, ∀ o ∈ g.operations,
      (∃ site ∈ d.sites, o.nickname = declaredId site) ∧ o.operationId ≠ "" ∧
      ((p.configure c).spec.names.isReserved o.operationId = true ↔
        ReadsReserved p (p.configure c).spec.names o.nickname) ∧
      ((∀ x ∈ o.nickname.toList, x.isAlphanum = true) →
        (p.configure c).spec.names.isReserved o.operationId = false) := by
  obtain ⟨hall, rfl⟩ := generate_eq_ok_iff.1 h
  refine ⟨finishedApi p (p.configure c) d, rfl, fun g hg o ho => ?_⟩
  obtain ⟨site, hsite, hnick, hid⟩ := exists_site_of_mem hp (List.mem_flatMap.2 ⟨g, hg, ho⟩)
  have hiff : (p.configure c).spec.names.isReserved o.operationId = true ↔
      ReadsReserved p (p.configure c).spec.names o.nickname := by
    rw [hnick, hid, names_configure hp]
    exact isReserved_methodName_iff hp _
  refine ⟨⟨site, hsite, hnick⟩, ?_, hiff, ?_⟩
  · rw [hid]
    exact (hall site hsite).named
  · intro halnum
    rw [← Bool.not_eq_true, hiff, hnick]
    exact (hall site hsite).not_readsReserved (hnick ▸ halnum)

/-- An operation whose id is a reserved word behind an underscore. -/
def underscoredKeyword : Document where
  paths := [("/pets", { get := some { id := some "_class" } })]

theorem method_name_class :
    generate Plain.profile underscoredKeyword {} =
        .ok (finishedRun Plain.profile underscoredKeyword {}) ∧
      ∃ api, (finishedRun Plain.profile underscoredKeyword {}).api = some api ∧
        (api.operations.map (·.operationId)) = ["class"] ∧
        ∀ g ∈ api.groups, ∀ o ∈ g.operations,
          (Plain.profile.configure {}).spec.names.isReserved o.operationId = true := by
  have hrun : generate Plain.profile underscoredKeyword {} =
      .ok (finishedRun Plain.profile underscoredKeyword {}) := generate_of_accepted (by decide +kernel)
  have hreads : ∀ site ∈ underscoredKeyword.sites,
      ReadsReserved Plain.profile (Plain.profile.configure {}).spec.names (declaredId site) := by
    decide +kernel
  obtain ⟨api, hapi, hops⟩ := method_names_of_run (mem_builtin_iff.2 (by simp)) hrun
  refine ⟨hrun, api, hapi, ?_, fun g hg o ho => ?_⟩
  · obtain rfl := Option.some.inj hapi
    decide +kernel
  · obtain ⟨⟨site, hsite, hnick⟩, -, hiff, -⟩ := hops g hg o ho
    exact hiff.2 (hnick ▸ hreads site hsite)

end ClientGen.Proofs
