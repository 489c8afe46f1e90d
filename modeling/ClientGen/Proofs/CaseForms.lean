import ClientGen.Identifier.EnumCase
import ClientGen.Proofs.Words

/-!
# Changes of case

Naming rules change the case of characters and drop characters. A character of ASCII that is no
letter, such as a digit or an underscore, has no case: it stays as it is, and no other character
turns into it. What is asked about such characters can therefore be asked of a text before its case
is changed.
-/

namespace ClientGen.Proofs

open Unicode Identifier

/-! ### Characters without case -/

/-- A character of ASCII that is no letter. -/
def IsCaseless (ch : Char) : Prop := ch.toNat < 0x80 ∧ ch.isAlpha = false

instance (ch : Char) : Decidable (IsCaseless ch) := inferInstanceAs (Decidable (_ ∧ _))

/-- Within ASCII, capital forms of characters beyond it are capital letters. -/
lemma letters_check :
    upperSpecial.all (fun e => e.2.all fun code =>
      0x80 ≤ (Char.ofNat code).toNat || (Char.ofNat code).isUpper) = true ∧
    asciiCapitals.all (fun code => (upper (Char.ofNat code)).all (·.isUpper)) = true := by
  decide +kernel

lemma upper_ascii_cases {ch x : Char} (hx : x ∈ upper ch) (hascii : x.toNat < 0x80) :
    (ch.toNat < 0x80 ∧ x = ch.toUpper) ∨ x.isUpper = true := by
  by_cases hch : ch.toNat < 0x80
  · rw [upper_of_ascii hch, List.mem_singleton] at hx
    exact .inl ⟨hch, hx⟩
  right
  obtain ⟨hspecial, hcapitals⟩ := letters_check
  rcases upper_of_not_ascii (Nat.not_lt.1 hch) with ⟨codes, hmem, heq⟩ | heq
  · rw [heq] at hx
    obtain ⟨code, hcode, rfl⟩ := List.mem_map.1 hx
    have hform := List.all_eq_true.1 (List.all_eq_true.1 hspecial _ hmem) code hcode
    rw [Bool.or_eq_true, decide_eq_true_eq] at hform
    exact hform.resolve_left (Nat.not_le.2 hascii)
  · rw [heq, List.mem_singleton] at hx
    -- the few characters beyond ASCII with a capital in it have a capital letter there
    have hcapital := mapped_upperRuns_ascii (Nat.not_lt.1 hch) (hx ▸ hascii)
    have hletters := List.all_eq_true.1 hcapitals _ hcapital
    rw [Char.ofNat_toNat, heq, List.all_eq_true] at hletters
    exact hletters x (by rw [hx]; exact List.mem_singleton_self _)

lemma eq_of_mem_upper_of_isCaseless {ch x : Char} (hx : x ∈ upper ch) (h : IsCaseless x) :
    x = ch := by
  rcases upper_ascii_cases hx h.1 with ⟨hascii, rfl⟩ | hupper
  · exact forall_ascii (P := fun ch => IsCaseless ch.toUpper → ch.toUpper = ch)
      (by decide +kernel) hascii h
  · have hletter : x.isAlpha = true := by
      delta Char.isAlpha
      rw [hupper, Bool.true_or]
    rw [h.2] at hletter
    cases hletter

/-- No capital form is a small letter of ASCII. -/
lemma isLower_of_mem_upper {ch x : Char} (hx : x ∈ upper ch) : x.isLower = false := by
  by_cases hascii : x.toNat < 0x80
  · rcases upper_ascii_cases hx hascii with ⟨hch, rfl⟩ | hupper
    · exact forall_ascii (P := fun ch => ch.toUpper.isLower = false) (by decide +kernel) hch
    · exact forall_ascii (P := fun x => x.isUpper = true → x.isLower = false) (by decide +kernel)
        hascii hupper
  · by_contra hlower
    rw [Bool.not_eq_false] at hlower
    refine hascii (toNat_lt_of_isAlphanum ?_)
    delta Char.isAlphanum Char.isAlpha
    rw [hlower, Bool.or_true, Bool.true_or]

/-- Only the dotted capital I and the Kelvin sign have a small form in ASCII from beyond it. -/
lemma lower_ascii_cases {ch x : Char} (hx : x ∈ lower ch) (hascii : x.toNat < 0x80) :
    (ch.toNat < 0x80 ∧ x = ch.toLower) ∨ x = 'i' ∨ x = 'k' := by
  by_cases hch : ch.toNat < 0x80
  · rw [lower_of_ascii hch, List.mem_singleton] at hx
    exact .inl ⟨hch, hx⟩
  by_cases hdotted : ch.toNat = dottedI
  · rw [lower_dottedI hdotted] at hx
    rcases List.mem_pair.1 hx with rfl | rfl
    · exact .inr (.inl rfl)
    · exact absurd hascii (by decide)
  · rw [lower_of_not_ascii (Nat.not_lt.1 hch) hdotted, List.mem_singleton] at hx
    have hk := (mapped_lowerRuns_ascii (Nat.not_lt.1 hch) (hx ▸ hascii)).2
    rw [← hx] at hk
    exact .inr (.inr (Char.toNat_inj.1 hk))

lemma eq_of_mem_lower_of_isCaseless {ch x : Char} (hx : x ∈ lower ch) (h : IsCaseless x) :
    x = ch := by
  rcases lower_ascii_cases hx h.1 with ⟨hascii, rfl⟩ | rfl | rfl
  · exact forall_ascii (P := fun ch => IsCaseless ch.toLower → ch.toLower = ch)
      (by decide +kernel) hascii h
  · exact absurd h (by decide)
  · exact absurd h (by decide)

lemma lower_ne_nil (ch : Char) : lower ch ≠ [] := by
  unfold lower
  split_ifs <;> exact List.cons_ne_nil _ _

lemma upper_of_isCaseless {ch : Char} (h : IsCaseless ch) : upper ch = [ch] := by
  rw [upper_of_ascii h.1, List.singleton_inj]
  exact forall_ascii (P := fun ch => IsCaseless ch → ch.toUpper = ch) (by decide +kernel) h.1 h

lemma lower_of_isCaseless {ch : Char} (h : IsCaseless ch) : lower ch = [ch] := by
  rw [lower_of_ascii h.1, List.singleton_inj]
  exact forall_ascii (P := fun ch => IsCaseless ch → ch.toLower = ch) (by decide +kernel) h.1 h

/-! ### Texts in another case -/

/-- What a change of case may make of a character. A capital sigma has a second small form. -/
inductive CaseForm (ch : Char) : List Char → Prop
  | same : CaseForm ch [ch]
  | upper : CaseForm ch (upper ch)
  | lower : CaseForm ch (lower ch)
  | finalSigma (h : ch.toNat = 0x3a3) : CaseForm ch [Char.ofNat 0x3c2]

namespace CaseForm

variable {ch x : Char} {form : List Char}

lemma eq_of_mem (h : CaseForm ch form) (hx : x ∈ form) (hcaseless : IsCaseless x) : x = ch := by
  cases h with
  | same => exact List.mem_singleton.1 hx
  | upper => exact eq_of_mem_upper_of_isCaseless hx hcaseless
  | lower => exact eq_of_mem_lower_of_isCaseless hx hcaseless
  | finalSigma =>
    obtain rfl := List.mem_singleton.1 hx
    exact absurd hcaseless (by decide)

lemma eq_singleton (h : CaseForm ch form) (hcaseless : IsCaseless ch) : form = [ch] := by
  cases h with
  | same => rfl
  | upper => exact upper_of_isCaseless hcaseless
  | lower => exact lower_of_isCaseless hcaseless
  | finalSigma hsigma =>
    have hascii := hcaseless.1
    omega

lemma ne_nil (h : CaseForm ch form) : form ≠ [] := by
  cases h with
  | same | finalSigma => exact List.cons_ne_nil _ _
  | upper => exact upper_ne_nil ch
  | lower => exact lower_ne_nil ch

/-- Within ASCII only the case of a letter changes. -/
lemma ascii (h : CaseForm ch form) (hch : ch.toNat < 0x80) :
    IsAscii form ∧ form.map Char.toLower = [ch.toLower] := by
  have hcase := asciiCase hch
  cases h with
  | same => exact ⟨List.forall_mem_singleton.2 hch, rfl⟩
  | upper =>
    rw [upper_of_ascii hch]
    exact ⟨List.forall_mem_singleton.2 hcase.upper_lt, congrArg (fun x => [x]) hcase.lower_upper⟩
  | lower =>
    rw [lower_of_ascii hch]
    exact ⟨List.forall_mem_singleton.2 hcase.lower_lt, congrArg (fun x => [x]) hcase.lower_lower⟩
  | finalSigma hsigma => omega

end CaseForm

/-- The second text is the first with the case of its characters changed, one by one. -/
inductive Recased : List Char → List Char → Prop
  | nil : Recased [] []
  | cons {ch : Char} {form cs ds : List Char} (head : CaseForm ch form) (tail : Recased cs ds) :
    Recased (ch :: cs) (form ++ ds)

namespace Recased

variable {x : Char} {as bs cs ds : List Char}

lemma refl (cs : List Char) : Recased cs cs := by
  induction cs with
  | nil => exact .nil
  | cons ch rest ih => exact .cons .same ih

lemma append (h : Recased as bs) (h' : Recased cs ds) : Recased (as ++ cs) (bs ++ ds) := by
  induction h with
  | nil => exact h'
  | cons head _ ih =>
    rw [List.cons_append, List.append_assoc]
    exact .cons head ih

lemma eq_nil_iff (h : Recased cs ds) : ds = [] ↔ cs = [] := by
  cases h with
  | nil => exact Iff.rfl
  | cons head => simp [head.ne_nil]

lemma mem_iff (h : Recased cs ds) (hx : IsCaseless x) : x ∈ ds ↔ x ∈ cs := by
  induction h with
  | nil => exact Iff.rfl
  | cons head _ ih =>
    rw [List.mem_append, List.mem_cons, ih]
    refine or_congr_left ⟨fun hmem => head.eq_of_mem hmem hx, ?_⟩
    rintro rfl
    rw [head.eq_singleton hx]
    exact List.mem_singleton_self x

lemma head?_iff (h : Recased cs ds) (hx : IsCaseless x) :
    ds.head? = some x ↔ cs.head? = some x := by
  cases h with
  | nil => exact Iff.rfl
  | cons head =>
    obtain ⟨y, ys, rfl⟩ := List.exists_cons_of_ne_nil head.ne_nil
    rw [List.cons_append, List.head?_cons, List.head?_cons, Option.some_inj, Option.some_inj]
    constructor
    · rintro rfl
      exact (head.eq_of_mem List.mem_cons_self hx).symm
    · rintro rfl
      exact (List.cons.inj (head.eq_singleton hx)).1

/-- Characters without case may be dropped before or after the change. -/
lemma filter {keeps : Char → Bool} (hkeeps : ∀ ch, keeps ch = false → IsCaseless ch)
    (h : Recased cs ds) : Recased (cs.filter keeps) (ds.filter keeps) := by
  induction h with
  | nil => exact .nil
  | @cons ch form cs ds head _ ih =>
    rw [List.filter_append]
    cases hch : keeps ch with
    | false =>
      have hform := head.eq_singleton (hkeeps ch hch)
      rw [hform, List.filter_cons_of_neg (by simp [hch]), List.filter_cons_of_neg (by simp [hch])]
      exact ih
    | true =>
      -- what is dropped has no case, so it would be the kept character itself
      have hform : form.filter keeps = form := by
        rw [List.filter_eq_self]
        intro x hx
        by_contra hdrop
        rw [Bool.not_eq_true] at hdrop
        rw [head.eq_of_mem hx (hkeeps x hdrop), hch] at hdrop
        cases hdrop
      rw [hform, List.filter_cons_of_pos hch]
      exact .cons head ih

lemma ascii (h : Recased cs ds) (hcs : IsAscii cs) :
    IsAscii ds ∧ ds.map Char.toLower = cs.map Char.toLower := by
  induction h with
  | nil => exact ⟨hcs, rfl⟩
  | cons head _ ih =>
    obtain ⟨hch, hrest⟩ := List.forall_mem_cons.1 hcs
    obtain ⟨hform, hsmall⟩ := head.ascii hch
    obtain ⟨htail, hsame⟩ := ih hrest
    exact ⟨isAscii_append.2 ⟨hform, htail⟩, by rw [List.map_append, hsmall, hsame]; rfl⟩

end Recased

/-! ### The rules of names -/

lemma recased_capitalize (cs : List Char) : Recased cs (capitalize cs) := by
  cases cs with
  | nil => exact .nil
  | cons ch rest => exact .cons .upper (.refl rest)

lemma recased_uncapitalize (cs : List Char) : Recased cs (uncapitalize cs) := by
  cases cs with
  | nil => exact .nil
  | cons ch rest => exact .cons .lower (.refl rest)

lemma recased_lowerFrom (before cs : List Char) : Recased cs (lowerFrom before cs) := by
  induction cs generalizing before with
  | nil => exact .nil
  | cons ch rest ih =>
    rw [lowerFrom]
    refine .cons ?_ (ih _)
    split
    · rename_i hsigma
      have hsigma : ch.toNat = 0x3a3 := beq_iff_eq.1 hsigma
      have hlower : lower ch = [Char.ofNat 0x3c3] := by
        rw [← Char.ofNat_toNat ch, hsigma]
        decide +kernel
      split
      · exact .finalSigma hsigma
      · exact hlower ▸ .lower
    · exact .lower

lemma recased_lowerText (cs : List Char) : Recased cs (lowerText cs) := recased_lowerFrom [] cs

lemma recased_capitalizeEach (separators : List Char) (start : Bool) (cs : List Char) :
    Recased cs (capitalizeEach separators start cs) := by
  induction cs generalizing start with
  | nil => exact .nil
  | cons ch rest ih =>
    rw [capitalizeEach]
    split
    · exact .cons .same (ih true)
    · refine .cons ?_ (ih false)
      split
      · exact .upper
      · exact .lower

lemma flatten_splitOnP (separates : Char → Bool) (cs : List Char) :
    (cs.splitOnP separates).flatten = cs.filter (!separates ·) := by
  induction cs with
  | nil => rfl
  | cons ch rest ih =>
    obtain ⟨word, words, hsplit⟩ :=
      List.exists_cons_of_ne_nil (List.splitOnP_ne_nil separates rest)
    rw [List.splitOnP_cons_eq_if_modifyHead]
    cases hch : separates ch with
    | true =>
      rw [if_pos rfl, List.flatten_cons, List.nil_append, ih,
        List.filter_cons_of_neg (by simp [hch])]
    | false =>
      rw [hsplit] at ih ⊢
      rw [if_neg Bool.false_ne_true, List.modifyHead_cons, List.flatten_cons, List.cons_append,
        ← List.flatten_cons, ih, List.filter_cons_of_pos (by simp [hch])]

/-- Joining words drops the separators and changes the case of first letters. -/
lemma recased_pascal (cs : List Char) :
    Recased (cs.filter (!isWordSeparator ·)) (pascal cs) := by
  have hwords : ∀ words : List (List Char), Recased words.flatten (words.flatMap capitalize) := by
    intro words
    induction words with
    | nil => exact .nil
    | cons word words ih => exact (recased_capitalize word).append ih
  rw [← flatten_splitOnP]
  exact hwords _

/-! ### Declared names -/

/-- Of a declared name the words keep the letters and digits. -/
lemma filter_legal (cs : List Char) :
    (legal cs).filter (!isWordSeparator ·) = cs.filter isAlphanumeric := by
  have hseparator : ∀ ch, isAlphanumeric ch = true → isWordSeparator ch = false := by
    intro ch hch
    by_contra hsep
    simp only [isWordSeparator, Bool.not_eq_false, Bool.or_eq_true, beq_iff_eq] at hsep
    rcases hsep with ((rfl | rfl) | rfl) | rfl <;> exact absurd hch (by decide)
  have hbracket : ∀ ch, isAlphanumeric ch = true → (ch == '[' || ch == ']') = false := by
    intro ch hch
    by_contra hbracket
    simp only [Bool.not_eq_false, Bool.or_eq_true, beq_iff_eq] at hbracket
    rcases hbracket with rfl | rfl <;> exact absurd hch (by decide)
  induction cs with
  | nil => rfl
  | cons ch rest ih =>
    have hunderscore : isWordSeparator '_' = true := by decide
    unfold legal at ih ⊢
    cases halnum : isAlphanumeric ch with
    | true =>
      rw [List.filter_cons_of_pos (by simp [hbracket ch halnum]), List.map_cons, halnum,
        Bool.true_or, if_pos rfl, List.filter_cons_of_pos (by simp [hseparator ch halnum]), ih,
        List.filter_cons_of_pos halnum]
    | false =>
      rw [List.filter_cons_of_neg (p := isAlphanumeric) (by simp [halnum]), ← ih]
      cases hb : (ch == '[' || ch == ']') with
      | true => rw [List.filter_cons_of_neg (by simp [hb])]
      | false =>
        rw [List.filter_cons_of_pos (by simp [hb]), List.map_cons, halnum, Bool.false_or]
        cases hsep : isWordSeparator ch with
        | true => rw [if_pos rfl, List.filter_cons_of_neg (by simp [hsep])]
        | false => rw [if_neg Bool.false_ne_true, List.filter_cons_of_neg (by simp [hunderscore])]

lemma recased_pascal_legal (cs : List Char) :
    Recased (cs.filter isAlphanumeric) (pascal (legal cs)) := by
  rw [← filter_legal]
  exact recased_pascal _

end ClientGen.Proofs
