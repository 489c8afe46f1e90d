import ClientGen.Proofs.Identifiers

/-!
# Names of cases

The loop that names a case runs over the whole value in small letters and carries a flag. What it
leaves is the pieces between the separators, each with a capital at its start. Separators have no
case and stop every search for the letters around a sigma, so the small form of a value is that of
its pieces too, and only the pieces that are not empty matter.
-/

namespace ClientGen.Proofs

open Unicode Identifier

/-- Reads like the name of a type: a capital, then small letters or digits, then letters and digits,
all of ASCII. -/
def ReadsLikeType (cs : List Char) : Prop :=
  ∃ first body rest, cs = first :: body ++ rest ∧ first.isUpper = true ∧ body ≠ [] ∧
    (∀ ch ∈ body, ch.isLower = true ∨ ch.isDigit = true) ∧ ∀ ch ∈ rest, ch.isAlphanum = true

/-- The first character in its capital form, the others in their small form. -/
def capitalized : List Char → List Char
  | [] => []
  | ch :: rest => upper ch ++ rest.flatMap lower

/-- What stands between the separators of a value, however often they are repeated. -/
def caseWords (cs : List Char) : List (List Char) :=
  (cs.splitOnP isCaseSeparator).filter (!·.isEmpty)

section

variable {ch : Char} {cs before rest : List Char}

/-! ### Separators -/

/-- A text is a piece without separators, or two texts around one. -/
lemma separated_induction (separates : Char → Bool) {P : List Char → Prop}
    (piece : ∀ cs, (∀ ch ∈ cs, separates ch = false) → P cs)
    (append : ∀ before ch rest, separates ch = true → P before → P rest → P (before ++ ch :: rest))
    (cs : List Char) : P cs := by
  induction hlength : cs.length using Nat.strong_induction_on generalizing cs with
  | _ n ih =>
    by_cases h : ∀ ch ∈ cs, separates ch = false
    · exact piece cs h
    · simp only [not_forall, Bool.not_eq_false] at h
      obtain ⟨ch, hmem, hsep⟩ := h
      obtain ⟨before, rest, rfl⟩ := List.append_of_mem hmem
      rw [List.length_append, List.length_cons] at hlength
      exact append before ch rest hsep (ih _ (by omega) before rfl) (ih _ (by omega) rest rfl)

lemma mem_caseSeparators (h : isCaseSeparator ch = true) : ch = '-' ∨ ch = '_' ∨ ch = ' ' := by
  simpa [isCaseSeparator, caseSeparators] using h

/-- A change of case makes no separators. -/
lemma Recased.separator_free {ds : List Char} (h : Recased cs ds)
    (hcs : ∀ ch ∈ cs, isCaseSeparator ch = false) : ∀ ch ∈ ds, isCaseSeparator ch = false := by
  intro ch hch
  by_contra hsep
  rw [Bool.not_eq_false] at hsep
  have hmem := (h.mem_iff (isCaseless_of_isCaseSeparator hsep)).1 hch
  rw [hcs ch hmem] at hsep
  cases hsep

/-- A separator stops the search for a letter. -/
lemma startsCased_append (h : isCaseSeparator ch = true) (before rest : List Char) :
    startsCased (before ++ ch :: rest) = startsCased before := by
  have hstop : isCaseIgnorable ch = false ∧ isCased ch = false := by
    rcases mem_caseSeparators h with rfl | rfl | rfl <;> decide
  rw [startsCased, startsCased, dropWhile_append_stop hstop.1]
  cases before.dropWhile isCaseIgnorable with
  | nil => exact hstop.2
  | cons => rfl

lemma lowerFrom_append (h : isCaseSeparator ch = true) (before behind cs : List Char) :
    lowerFrom (before ++ ch :: behind) cs = lowerFrom before cs := by
  induction cs generalizing before with
  | nil => rfl
  | cons x rest ih =>
    have hrest := ih (x :: before)
    rw [List.cons_append] at hrest
    rw [lowerFrom, lowerFrom, startsCased_append h, hrest]

/-- The small form of a value is that of the pieces around a separator. -/
lemma lowerText_append (h : isCaseSeparator ch = true) (before rest : List Char) :
    lowerText (before ++ ch :: rest) = lowerText before ++ ch :: lowerText rest := by
  have hcaseless := isCaseless_of_isCaseSeparator h
  have hsigma : (ch.toNat == 0x3a3) = false := by
    have hascii := hcaseless.1
    rw [beq_eq_false_iff_ne]
    omega
  have hfrom : ∀ behind, lowerFrom behind (before ++ ch :: rest) =
      lowerFrom behind before ++ ch :: lowerText rest := by
    induction before with
    | nil =>
      intro behind
      have hrest : lowerFrom (ch :: behind) rest = lowerText rest :=
        lowerFrom_append h [] behind rest
      change lowerFrom behind (ch :: rest) = [ch] ++ lowerText rest
      rw [lowerFrom, hsigma, if_neg Bool.false_ne_true, lower_of_isCaseless hcaseless, hrest]
    | cons x before ih =>
      intro behind
      rw [List.cons_append, lowerFrom, lowerFrom, startsCased_append h, ih, List.append_assoc]
  exact hfrom []

lemma splitOnP_lowerText (cs : List Char) :
    (lowerText cs).splitOnP isCaseSeparator = (cs.splitOnP isCaseSeparator).map lowerText := by
  induction cs using separated_induction isCaseSeparator with
  | piece cs hcs =>
    rw [List.splitOnP_eq_singleton hcs, List.map_singleton,
      List.splitOnP_eq_singleton ((recased_lowerText cs).separator_free hcs)]
  | append before ch rest hsep hbefore hrest =>
    rw [lowerText_append hsep, List.splitOnP_append_cons _ _ hsep,
      List.splitOnP_append_cons _ _ hsep, List.map_append, hbefore, hrest]

/-! ### The loop -/

lemma capitalizeEach_append (h : isCaseSeparator ch = true) (start : Bool)
    (before rest : List Char) :
    capitalizeEach caseSeparators start (before ++ ch :: rest) =
      capitalizeEach caseSeparators start before ++
        ch :: capitalizeEach caseSeparators true rest := by
  induction before generalizing start with
  | nil => exact if_pos h
  | cons x before ih =>
    rw [List.cons_append, capitalizeEach, capitalizeEach, ih, ih]
    split_ifs <;> simp

lemma capitalizeEach_piece (h : ∀ ch ∈ cs, isCaseSeparator ch = false) :
    capitalizeEach caseSeparators true cs = capitalized cs := by
  have hsmall : ∀ rest : List Char, (∀ ch ∈ rest, isCaseSeparator ch = false) →
      capitalizeEach caseSeparators false rest = rest.flatMap lower := by
    intro rest hrest
    induction rest with
    | nil => rfl
    | cons ch rest ih =>
      obtain ⟨hch, hrest⟩ := List.forall_mem_cons.1 hrest
      rw [isCaseSeparator] at hch
      rw [capitalizeEach, hch, if_neg Bool.false_ne_true, if_neg Bool.false_ne_true, ih hrest,
        List.flatMap_cons]
  cases cs with
  | nil => rfl
  | cons ch rest =>
    obtain ⟨hch, hrest⟩ := List.forall_mem_cons.1 h
    rw [isCaseSeparator] at hch
    rw [capitalizeEach, hch, if_neg Bool.false_ne_true, if_pos rfl, hsmall rest hrest, capitalized]

/-- Once the separators are dropped, the loop leaves the capitalized pieces. -/
lemma filter_capitalizeEach (cs : List Char) :
    (capitalizeEach caseSeparators true cs).filter (!isCaseSeparator ·) =
      (cs.splitOnP isCaseSeparator).flatMap capitalized := by
  induction cs using separated_induction isCaseSeparator with
  | piece cs hcs =>
    have hfree := (recased_capitalizeEach caseSeparators true cs).separator_free hcs
    rw [List.filter_eq_self.2 (by simpa using hfree), capitalizeEach_piece hcs,
      List.splitOnP_eq_singleton hcs, List.flatMap_singleton]
  | append before ch rest hsep hbefore hrest =>
    rw [capitalizeEach_append hsep, List.filter_append, hbefore,
      List.filter_cons_of_neg (by simp [hsep]), hrest, List.splitOnP_append_cons _ _ hsep,
      List.flatMap_append]

end

/-! ### Names -/

lemma isTypeLike_iff (cs : List Char) : isTypeLike cs = true ↔ ReadsLikeType cs := by
  constructor
  · intro h
    unfold isTypeLike at h
    split at h
    · rename_i first second rest
      simp only [Bool.and_eq_true, Bool.or_eq_true, List.all_eq_true] at h
      obtain ⟨⟨hfirst, hsecond⟩, hrest⟩ := h
      have hbody : ∀ ch ∈ [second], ch.isLower = true ∨ ch.isDigit = true := by
        simpa using hsecond
      exact ⟨first, [second], rest, rfl, hfirst, List.cons_ne_nil _ _, hbody, hrest⟩
    · cases h
  · rintro ⟨first, body, rest, rfl, hfirst, hne, hbody, hrest⟩
    obtain ⟨second, body, rfl⟩ := List.exists_cons_of_ne_nil hne
    obtain ⟨hsecond, hbody⟩ := List.forall_mem_cons.1 hbody
    have halnum : ∀ ch ∈ body, ch.isAlphanum = true := by
      intro ch hch
      delta Char.isAlphanum Char.isAlpha
      rcases hbody ch hch with h | h
      · rw [h, Bool.or_true, Bool.true_or]
      · rw [h, Bool.or_true]
    have hall : (body ++ rest).all Char.isAlphanum = true := by
      rw [List.all_eq_true, List.forall_mem_append]
      exact ⟨halnum, hrest⟩
    simp only [isTypeLike, List.cons_append, hfirst, hall, Bool.true_and, Bool.and_true,
      Bool.or_eq_true, hsecond]

variable {raw other : String}

lemma enumCaseName_of_readsLikeType (h : ReadsLikeType raw.toList) : enumCaseName raw = raw :=
  if_pos ((isTypeLike_iff _).2 h)

lemma enumCaseName_of_not (h : ¬ReadsLikeType raw.toList) :
    enumCaseName raw =
      .ofList (((lowerText raw.toList).splitOnP isCaseSeparator).flatMap capitalized) := by
  rw [← filter_capitalizeEach, enumCaseName, if_neg (mt (isTypeLike_iff _).1 h)]
  rfl

/-- Only the words of a value matter, each in its own small form. -/
lemma flatMap_capitalized (cs : List Char) :
    ((lowerText cs).splitOnP isCaseSeparator).flatMap capitalized =
      (caseWords cs).flatMap fun word => capitalized (lowerText word) := by
  rw [splitOnP_lowerText, List.flatMap_map, caseWords]
  induction cs.splitOnP isCaseSeparator with
  | nil => rfl
  | cons word words ih =>
    cases word with
    | nil => exact ih
    | cons => exact congrArg (_ ++ ·) ih

lemma separator_free_enumCaseName (raw : String) :
    ∀ ch ∈ (enumCaseName raw).toList, isCaseSeparator ch = false := by
  obtain ⟨small, hsmall, hcase⟩ := recased_enumCaseName raw
  refine hcase.separator_free (hsmall.separator_free fun ch hch => ?_)
  rw [withoutSeparators, String.toList_ofList, List.mem_filter] at hch
  simpa [isCaseSeparator] using hch.2

lemma map_toLower_enumCaseName (h : IsAscii raw.toList) :
    (enumCaseName raw).toList.map Char.toLower =
      (withoutSeparators raw).toList.map Char.toLower := by
  obtain ⟨small, hsmall, hcase⟩ := recased_enumCaseName raw
  have hdropped : IsAscii (withoutSeparators raw).toList := by
    rw [withoutSeparators, String.toList_ofList]
    exact fun ch hch => h ch (List.mem_filter.1 hch).1
  obtain ⟨hascii, hsame⟩ := hsmall.ascii hdropped
  exact (hcase.ascii hascii).2.trans hsame

/-- A value that reads like a type names its case; any other gives the capitalized pieces of its
small form. No separator is left. Of two such values that have the same words between their
separators the cases have the same name, and within ASCII a name is the value without separators but
for the case of its letters. -/
theorem enumCaseName_words (raw : String) :
    (ReadsLikeType raw.toList → enumCaseName raw = raw) ∧
      (¬ReadsLikeType raw.toList → enumCaseName raw =
        .ofList (((lowercase raw).toList.splitOnP isCaseSeparator).flatMap capitalized)) ∧
      (∀ ch ∈ (enumCaseName raw).toList, isCaseSeparator ch = false) ∧
      (∀ other, ¬ReadsLikeType raw.toList → ¬ReadsLikeType other.toList →
        caseWords raw.toList = caseWords other.toList → enumCaseName raw = enumCaseName other) ∧
      (IsAscii raw.toList → (enumCaseName raw).toList.map Char.toLower =
        (withoutSeparators raw).toList.map Char.toLower) := by
  refine ⟨enumCaseName_of_readsLikeType, fun h => ?_, separator_free_enumCaseName raw,
    fun other h h' hwords => ?_, map_toLower_enumCaseName⟩
  · rw [lowercase, String.toList_ofList, enumCaseName_of_not h]
  · rw [enumCaseName_of_not h, enumCaseName_of_not h', flatMap_capitalized, flatMap_capitalized,
      hwords]

/-- A sigma at the end of a word, whatever separators follow it, and a name that stays. -/
theorem enumCaseName_words_spaced :
    ¬ReadsLikeType "ΟΔΟΣ--Α".toList ∧ ¬ReadsLikeType "__ΟΔΟΣ Α_".toList ∧
      enumCaseName "ΟΔΟΣ--Α" = "ΟδοςΑ" ∧ enumCaseName "__ΟΔΟΣ Α_" = "ΟδοςΑ" ∧
      ReadsLikeType "Ok2Go".toList ∧ enumCaseName "Ok2Go" = "Ok2Go" := by
  have hdouble : ¬ReadsLikeType "ΟΔΟΣ--Α".toList := by
    rw [← isTypeLike_iff]
    decide +kernel
  have hspaced : ¬ReadsLikeType "__ΟΔΟΣ Α_".toList := by
    rw [← isTypeLike_iff]
    decide +kernel
  have hkept : ReadsLikeType "Ok2Go".toList := (isTypeLike_iff _).1 (by decide +kernel)
  obtain ⟨-, hpieces, -, hsame, -⟩ := enumCaseName_words "ΟΔΟΣ--Α"
  have hname : enumCaseName "ΟΔΟΣ--Α" = "ΟδοςΑ" := (hpieces hdouble).trans (by decide +kernel)
  refine ⟨hdouble, hspaced, hname, ?_, hkept, (enumCaseName_words _).1 hkept⟩
  rw [← hsame _ hdouble hspaced (by decide +kernel), hname]

end ClientGen.Proofs
