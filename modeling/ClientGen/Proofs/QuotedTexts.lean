import Mathlib.Tactic.Common
import ClientGen.Profile.Naming

/-!
# Quoted texts

The body of a quoted literal is read from left to right: a backslash stands for the quote or the
backslash behind it. An example is written on one line, with a backslash in front of every quote but
not of a backslash. So what the line stands for is the example only if that holds no backslash; a
line is read at all only if the example would have doubled its backslashes itself.
-/

namespace ClientGen.Proofs

open Unicode

/-- Stands in a quoted literal only behind a backslash. -/
def isQuoteMark (ch : Char) : Bool := ch == '"' || ch == '\\'

/-- Reads the body of a quoted literal. -/
def unquote? : List Char → Option (List Char)
  | [] => some []
  | '\\' :: ch :: rest => if isQuoteMark ch then (unquote? rest).map (ch :: ·) else none
  | ch :: rest => if isQuoteMark ch then none else (unquote? rest).map (ch :: ·)

/-- Each special character gets a backslash in front. -/
def escaped (special : Char → Bool) (cs : List Char) : List Char :=
  cs.flatMap fun ch => if special ch then ['\\', ch] else [ch]

def withoutBlanks (text : String) : List Char := text.toList.filter fun ch => !isBlank ch

variable {special : Char → Bool} {cs ds : List Char}

/-! ### Escaped texts -/

lemma escaped_cons (special : Char → Bool) (ch : Char) (cs : List Char) :
    escaped special (ch :: cs) =
      if special ch then '\\' :: ch :: escaped special cs else ch :: escaped special cs := by
  rw [escaped, List.flatMap_cons]
  split_ifs <;> rfl

lemma length_escaped (special : Char → Bool) (cs : List Char) :
    (escaped special cs).length = cs.length + cs.countP special := by
  induction cs with
  | nil => rfl
  | cons ch rest ih =>
    rw [escaped_cons, List.countP_cons]
    split_ifs <;> simp only [List.length_cons, ih] <;> omega

/-- Nothing but special characters is changed. -/
lemma escaped_eq_self_iff : escaped special cs = cs ↔ ∀ ch ∈ cs, special ch = false := by
  constructor
  · intro h
    have hlength := congrArg List.length h
    rw [length_escaped] at hlength
    have hnone : cs.countP special = 0 := by omega
    simpa using List.countP_eq_zero.1 hnone
  · intro h
    induction cs with
    | nil => rfl
    | cons ch rest ih =>
      rw [escaped_cons, h ch List.mem_cons_self, if_neg Bool.false_ne_true,
        ih fun x hx => h x (List.mem_cons_of_mem _ hx)]

/-! ### Reading -/

lemma unquote?_escaped (cs : List Char) : unquote? (escaped isQuoteMark cs) = some cs := by
  induction cs with
  | nil => rfl
  | cons ch rest ih =>
    rw [escaped_cons]
    split_ifs with hmark
    · rw [unquote?, if_pos hmark, ih, Option.map_some]
    · have hslash : ch ≠ '\\' := by
        rintro rfl
        exact hmark (by decide)
      rw [unquote?, if_neg hmark, ih, Option.map_some]
      exact fun _ _ h => absurd h hslash

lemma eq_escaped_of_unquote? (h : unquote? cs = some ds) : cs = escaped isQuoteMark ds := by
  fun_induction unquote? cs generalizing ds with
  | case1 =>
    obtain rfl := Option.some.inj h
    rfl
  | case2 ch rest hmark ih =>
    obtain ⟨es, hes, rfl⟩ := Option.map_eq_some_iff.1 h
    rw [escaped_cons, if_pos hmark, ← ih hes]
  | case3 => cases h
  | case4 => cases h
  | case5 ch rest _ hmark ih =>
    obtain ⟨es, hes, rfl⟩ := Option.map_eq_some_iff.1 h
    rw [escaped_cons, if_neg hmark, ← ih hes]

/-- A value has one body only: each quote and each backslash behind a backslash. -/
theorem unquote?_eq_some_iff : unquote? cs = some ds ↔ cs = escaped isQuoteMark ds :=
  ⟨eq_escaped_of_unquote?, fun h => h ▸ unquote?_escaped ds⟩

/-! ### Examples on one line -/

/-- Backslashes first, then quotes. -/
lemma escaped_isQuoteMark (cs : List Char) :
    escaped isQuoteMark cs = escaped (· == '"') (escaped (· == '\\') cs) := by
  induction cs with
  | nil => rfl
  | cons ch rest ih =>
    by_cases hslash : ch = '\\'
    · subst hslash
      simp [escaped_cons, isQuoteMark, ih]
    · by_cases hquote : ch = '"'
      · subst hquote
        simp [escaped_cons, isQuoteMark, ih]
      · simp [escaped_cons, isQuoteMark, ih, hslash, hquote]

lemma head?_escaped_quote (cs : List Char) : (escaped (· == '"') cs).head? ≠ some '"' := by
  cases cs with
  | nil => simp [escaped]
  | cons ch rest =>
    rw [escaped_cons]
    split_ifs with hquote
    · simp
    · simpa using hquote

/-- A backslash of the text itself is never followed by a quote. -/
lemma marked_ne_cons_escaped (ch : Char) (cs ds : List Char) :
    '\\' :: '"' :: cs ≠ ch :: escaped (· == '"') ds := by
  intro h
  obtain ⟨-, hrest⟩ := List.cons_eq_cons.1 h
  exact head?_escaped_quote ds (by rw [← hrest, List.head?_cons])

lemma escaped_quote_injective (h : escaped (· == '"') cs = escaped (· == '"') ds) : cs = ds := by
  induction cs generalizing ds with
  | nil =>
    cases ds with
    | nil => rfl
    | cons ch' rest' =>
      rw [escaped_cons] at h
      split_ifs at h <;> cases h
  | cons ch rest ih =>
    cases ds with
    | nil =>
      rw [escaped_cons] at h
      split_ifs at h <;> cases h
    | cons ch' rest' =>
      rw [escaped_cons, escaped_cons] at h
      split_ifs at h with hquote hquote' hquote'
      · obtain ⟨-, rfl, hrest⟩ := List.cons_eq_cons.1 h |>.imp_right List.cons_eq_cons.1
        rw [ih hrest]
      -- a quote on one side only
      · rw [beq_iff_eq.1 hquote] at h
        exact absurd h (marked_ne_cons_escaped _ _ _)
      · rw [beq_iff_eq.1 hquote'] at h
        exact absurd h.symm (marked_ne_cons_escaped _ _ _)
      · obtain ⟨rfl, hrest⟩ := List.cons_eq_cons.1 h
        rw [ih hrest]

/-- Neither a quote nor a backslash is a blank, so that it does not matter what is done first. -/
lemma toList_oneLine (text : String) :
    (oneLine text).toList = escaped (· == '"') (withoutBlanks text) := by
  rw [oneLine, String.toList_ofList, withoutBlanks]
  induction text.toList with
  | nil => rfl
  | cons ch rest ih =>
    rw [List.flatMap_cons, List.filter_append, ih, List.filter_cons, quoteEscaped]
    by_cases hquote : ch = '"'
    · subst hquote
      rfl
    · rw [if_neg (mt beq_iff_eq.1 hquote), List.filter_cons, List.filter_nil]
      split_ifs
      · rw [escaped_cons, if_neg (mt beq_iff_eq.1 hquote)]
        rfl
      · rfl

lemma isBlank_of_mem_escaped {special : Char → Bool} {ch : Char} (h : ∀ x ∈ cs, isBlank x = false)
    (hch : ch ∈ escaped special cs) : isBlank ch = false := by
  obtain ⟨x, hx, hmem⟩ := List.mem_flatMap.1 hch
  split_ifs at hmem
  · rcases List.mem_cons.1 hmem with rfl | hmem
    · decide
    · rw [List.mem_singleton.1 hmem]
      exact h x hx
  · rw [List.mem_singleton.1 hmem]
    exact h x hx

/-- An example on one line holds no blanks. It reads as a value just when the example without blanks
is that value with every backslash doubled. So it reads as the example itself just when there is no
backslash in it. -/
theorem oneLine_reading (text : String) :
    (∀ ch ∈ (oneLine text).toList, isBlank ch = false) ∧
      (∀ value, unquote? (oneLine text).toList = some value ↔
        withoutBlanks text = escaped (· == '\\') value) ∧
      (unquote? (oneLine text).toList = some (withoutBlanks text) ↔ '\\' ∉ text.toList) := by
  have hreads : ∀ value, unquote? (oneLine text).toList = some value ↔
      withoutBlanks text = escaped (· == '\\') value := by
    intro value
    rw [unquote?_eq_some_iff, toList_oneLine, escaped_isQuoteMark]
    exact ⟨escaped_quote_injective, congrArg _⟩
  refine ⟨?_, hreads, ?_⟩
  · rw [toList_oneLine]
    exact fun ch => isBlank_of_mem_escaped fun x hx => by simpa using (List.mem_filter.1 hx).2
  · rw [hreads, eq_comm, escaped_eq_self_iff]
    constructor
    · intro h hslash
      exact absurd (h _ (List.mem_filter.2 ⟨hslash, by decide⟩)) (by decide)
    · intro h ch hch
      rw [beq_eq_false_iff_ne]
      rintro rfl
      exact h (List.mem_filter.1 hch).1

/-- The quote in a text of an example in JSON is written with a backslash already. -/
example : unquote? (oneLine "\x7b\"say\": \"\\\"\"\x7d").toList = none := by decide

end ClientGen.Proofs
