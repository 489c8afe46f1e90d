import ClientGen.Identifier.Words
import ClientGen.Proofs.Letters

/-!
# Words of a name

Making a text legal changes none of its ASCII letters, digits and separators, and joining its words
in camel case keeps every property of its characters that a change of case keeps.
-/

namespace ClientGen.Proofs

open Unicode Identifier

/-! ### Letters, digits and separators -/

lemma toNat_lt_of_isAlphanum {c : Char} (h : c.isAlphanum = true) : c.toNat < 0x80 := by
  delta Char.isAlphanum Char.isAlpha Char.isUpper Char.isLower Char.isDigit at h
  simp only [Bool.or_eq_true, Bool.and_eq_true, decide_eq_true_eq, UInt32.le_iff_toNat_le] at h
  have hz : 'z'.val.toNat = 122 := rfl
  have hZ : 'Z'.val.toNat = 90 := rfl
  have h9 : '9'.val.toNat = 57 := rfl
  rw [Char.toNat]
  omega

lemma separators_of_isAlphanum {c : Char} (h : c.isAlphanum = true) :
    c ≠ '.' ∧ isWordSeparator c = false := by
  have hother : ∀ d : Char, d.isAlphanum = false → c ≠ d := by
    rintro d hd rfl
    rw [h] at hd
    cases hd
  refine ⟨hother '.' (by decide), ?_⟩
  simp [isWordSeparator, hother '_' (by decide), hother '-' (by decide), hother ' ' (by decide),
    hother '.' (by decide)]

lemma legal_eq_self {cs : List Char}
    (h : ∀ c ∈ cs, c.isAlphanum = true ∨ isWordSeparator c = true) : legal cs = cs := by
  have hbracket : ∀ c ∈ cs, c ≠ '[' ∧ c ≠ ']' := by
    intro c hc
    constructor
    · rintro rfl
      exact absurd (h _ hc) (by decide)
    · rintro rfl
      exact absurd (h _ hc) (by decide)
  have hkeep : cs.filter (fun c => !(c == '[' || c == ']')) = cs := by
    rw [List.filter_eq_self]
    intro c hc
    simp [hbracket c hc]
  have hsame : ∀ c ∈ cs, (if isAlphanumeric c || isWordSeparator c then c else '_') = c := by
    intro c hc
    rcases h c hc with hc | hc
    · rw [isAlphanumeric_of_lt (toNat_lt_of_isAlphanum hc), hc]
      rfl
    · rw [hc, Bool.or_true, if_pos rfl]
  rw [legal, hkeep, List.map_congr_left hsame, List.map_id']

/-! ### Joined words -/

section Words

variable {P : Char → Prop}

/-- The pieces of a split hold no separator. -/
lemma mem_of_mem_splitOnP {f : Char → Bool} {cs word : List Char} (hword : word ∈ cs.splitOnP f)
    {c : Char} (hc : c ∈ word) : c ∈ cs ∧ f c = false := by
  induction cs generalizing word with
  | nil =>
    rw [List.splitOnP_nil, List.mem_singleton] at hword
    rw [hword] at hc
    cases hc
  | cons x rest ih =>
    have hrest : ∀ {word : List Char}, word ∈ rest.splitOnP f → c ∈ word →
        c ∈ x :: rest ∧ f c = false := by
      intro word hword hc
      obtain ⟨hmem, hf⟩ := ih hword hc
      exact ⟨List.mem_cons_of_mem _ hmem, hf⟩
    rw [List.splitOnP_cons_eq_if_modifyHead] at hword
    split_ifs at hword with hx
    · rcases List.mem_cons.1 hword with rfl | hword
      · cases hc
      · exact hrest hword hc
    · obtain ⟨first, words, hsplit⟩ := List.exists_cons_of_ne_nil (List.splitOnP_ne_nil f rest)
      rw [hsplit, List.modifyHead_cons] at hword
      rw [hsplit] at hrest
      rcases List.mem_cons.1 hword with rfl | hword
      · rcases List.mem_cons.1 hc with rfl | hc
        · exact ⟨List.mem_cons_self, by simpa using hx⟩
        · exact hrest List.mem_cons_self hc
      · exact hrest (List.mem_cons_of_mem _ hword) hc

/-- Joining words drops the separators and keeps every property of the other characters that
capital forms keep. -/
lemma forall_pascal (hupper : ∀ c, P c → ∀ d ∈ upper c, P d) {cs : List Char}
    (h : ∀ c ∈ cs, isWordSeparator c = false → P c) : ∀ c ∈ pascal cs, P c := by
  intro c hc
  obtain ⟨word, hword, hc⟩ := List.mem_flatMap.1 hc
  have hmem : ∀ d ∈ word, P d := by
    intro d hd
    obtain ⟨hd, hsep⟩ := mem_of_mem_splitOnP hword hd
    exact h d hd hsep
  cases word with
  | nil => cases hc
  | cons first rest =>
    rcases List.mem_append.1 hc with hc | hc
    · exact hupper first (hmem first List.mem_cons_self) c hc
    · exact hmem c (List.mem_cons_of_mem _ hc)

lemma forall_camel (hupper : ∀ c, P c → ∀ d ∈ upper c, P d)
    (hlower : ∀ c, P c → ∀ d ∈ lower c, P d) {cs : List Char}
    (h : ∀ c ∈ cs, isWordSeparator c = false → P c) : ∀ c ∈ camel cs, P c := by
  have hpascal := forall_pascal hupper h
  intro c hc
  rw [camel] at hc
  cases hjoined : pascal cs with
  | nil =>
    rw [hjoined] at hc
    cases hc
  | cons first rest =>
    rw [hjoined] at hc hpascal
    rcases List.mem_append.1 hc with hc | hc
    · exact hlower first (hpascal first List.mem_cons_self) c hc
    · exact hpascal c (List.mem_cons_of_mem _ hc)

end Words

end ClientGen.Proofs
