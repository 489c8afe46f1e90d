import Mathlib.Data.List.Basic
import ClientGen.Identifier.Words

/-!
# Letters of ASCII under the case mappings

The case mappings of most characters beyond ASCII stay beyond ASCII. The exceptions are few: the
Kelvin sign has a small form in ASCII, the dotted capital I has one that begins there, and some
letters and ligatures have capitals there. Each fact about all characters is read off the tables by
one check of their runs.
-/

namespace ClientGen.Proofs

open Unicode

def IsAscii (cs : List Char) : Prop := ∀ c ∈ cs, c.toNat < 0x80

lemma isAscii_append {cs ds : List Char} : IsAscii (cs ++ ds) ↔ IsAscii cs ∧ IsAscii ds :=
  List.forall_mem_append

/-- A fact about ASCII is a fact about 128 characters. -/
lemma forall_ascii {P : Char → Prop} (h : ∀ n < 0x80, P (Char.ofNat n)) {c : Char}
    (hc : c.toNat < 0x80) : P c := by
  simpa using h c.toNat hc

lemma lower_of_ascii {c : Char} (hc : c.toNat < 0x80) : lower c = [c.toLower] := by
  simp [lower, hc]

lemma upper_of_ascii {c : Char} (hc : c.toNat < 0x80) : upper c = [c.toUpper] := by
  simp [upper, hc]

/-- What the case mappings do within ASCII. -/
structure AsciiCase (c : Char) : Prop where
  lower_lt : c.toLower.toNat < 0x80
  upper_lt : c.toUpper.toNat < 0x80
  lower_lower : c.toLower.toLower = c.toLower
  lower_upper : c.toUpper.toLower = c.toLower

lemma asciiCase {c : Char} (hc : c.toNat < 0x80) : AsciiCase c := by
  obtain ⟨hlower, hupper, hll, hul⟩ := forall_ascii (P := fun c => c.toLower.toNat < 0x80 ∧
    c.toUpper.toNat < 0x80 ∧ c.toLower.toLower = c.toLower ∧ c.toUpper.toLower = c.toLower)
    (by decide +kernel) hc
  exact ⟨hlower, hupper, hll, hul⟩

/-! ### Runs of the tables -/

/-- All the run's characters are mapped to characters. -/
def runIsProper (r : CaseRun) : Bool :=
  0 ≤ r.first + r.offset &&
    (r.last + r.offset < 0xd800 || (0xdfff < r.first + r.offset && r.last + r.offset < 0x110000))

/-- The run maps no character to this code point. -/
def runMisses (r : CaseRun) (code : Nat) : Bool :=
  !(0 ≤ code - r.offset && r.covers (code - r.offset).toNat)

lemma toNat_ofNat {n : Nat} (h : n.isValidChar) : (Char.ofNat n).toNat = n := by
  rw [Char.ofNat, dif_pos h]
  rfl

lemma toNat_ofNat_of_covers {r : CaseRun} (hr : runIsProper r) {n : Nat} (h : r.covers n) :
    ((Char.ofNat (n + r.offset).toNat).toNat : Int) = n + r.offset := by
  simp only [runIsProper, CaseRun.covers, Bool.and_eq_true, Bool.or_eq_true,
    decide_eq_true_eq] at hr h
  have hvalid : (n + r.offset : Int).toNat.isValidChar := by
    simp only [Nat.isValidChar]
    omega
  rw [toNat_ofNat hvalid]
  omega

/-- A character is mapped by a run that covers it, or to itself if none does. -/
lemma mapped_cases {runs : List CaseRun} (hruns : runs.all runIsProper) (c : Char) :
    (mapped runs c = c ∧ ∀ r ∈ runs, r.covers c.toNat = false) ∨
      ∃ r ∈ runs, r.covers c.toNat ∧ ((mapped runs c).toNat : Int) = c.toNat + r.offset := by
  unfold mapped
  cases h : runs.find? (·.covers c.toNat) with
  | none => exact .inl ⟨rfl, by simpa using List.find?_eq_none.1 h⟩
  | some r =>
    have hmem := List.mem_of_find?_eq_some h
    have hcov : r.covers c.toNat = true := by simpa using List.find?_some h
    exact .inr ⟨r, hmem, hcov, toNat_ofNat_of_covers (List.all_eq_true.1 hruns r hmem) hcov⟩

/-- Only a character that no run covers is mapped to a code point that all runs miss. -/
lemma mapped_of_misses {runs : List CaseRun} (hruns : runs.all runIsProper) {c : Char}
    (h : runs.all fun r => runMisses r (mapped runs c).toNat) :
    mapped runs c = c ∧ ∀ r ∈ runs, r.covers c.toNat = false := by
  rcases mapped_cases hruns c with hc | ⟨r, hr, hcov, hoff⟩
  · exact hc
  · have hmiss := List.all_eq_true.1 h r hr
    have hcode : ((mapped runs c).toNat : Int) - r.offset = c.toNat := by omega
    simp [runMisses, hcode, hcov] at hmiss

/-! ### What the tables say -/

/-- The Kelvin sign, whose small form is `k`. -/
def kelvin : Nat := 0x212a

/-- The dotted capital I, whose small form is `i` and a combining dot. -/
def dottedI : Nat := 0x130

/-- The letters and ligatures beyond ASCII whose capital form is in ASCII: sharp s, dotless i, long
s and the ligatures of f, i, l, s and t. -/
def asciiCapitals : List Nat :=
  [0xdf, 0x131, 0x17f, 0xfb00, 0xfb01, 0xfb02, 0xfb03, 0xfb04, 0xfb05, 0xfb06]

/-- Small forms stay beyond ASCII but for that of the Kelvin sign, and no run leads to the Kelvin
sign or to a letter of `asciiCapitals` other than sharp s. -/
lemma lowerRuns_check :
    lowerRuns.all runIsProper = true ∧
    lowerRuns.all (fun r => 0x80 ≤ r.first + r.offset ||
      (r.first == kelvin && r.last == kelvin && r.offset == -8383)) = true ∧
    lowerRuns.all (runMisses · kelvin) = true ∧
    lowerRuns.any (·.covers kelvin) = true ∧
    asciiCapitals.all (fun code => code == 0xdf || lowerRuns.all (runMisses · code)) = true := by
  decide +kernel

/-- Single capital forms stay beyond ASCII but for those of dotless i and long s, and no run leads to
the Kelvin sign or to a letter of `asciiCapitals`. -/
lemma upperRuns_check :
    upperRuns.all runIsProper = true ∧
    upperRuns.all (fun r => 0x80 ≤ r.first + r.offset ||
      (r.first == 0x131 && r.last == 0x131 && r.offset == -232) ||
      (r.first == 0x17f && r.last == 0x17f && r.offset == -300)) = true ∧
    (kelvin :: asciiCapitals).all (fun code => upperRuns.all (runMisses · code)) = true := by
  decide +kernel

/-- The capital forms of several characters are not empty, hold no letter of `asciiCapitals` and
leave ASCII, unless they are those of such a letter. -/
lemma upperSpecial_check :
    upperSpecial.all (fun e => !e.2.isEmpty) = true ∧
    upperSpecial.all (fun e => e.2.all fun code =>
      !(kelvin :: asciiCapitals).contains (Char.ofNat code).toNat) = true ∧
    upperSpecial.all (fun e => asciiCapitals.contains e.1 ||
      e.2.any fun code => 0x80 ≤ (Char.ofNat code).toNat) = true ∧
    asciiCapitals.all (fun code => (upper (Char.ofNat code)).all (·.toNat < 0x80)) = true := by
  decide +kernel

/-! ### Small forms -/

/-- Every character has one small form but the dotted capital I. -/
lemma lower_of_not_ascii {c : Char} (hc : 0x80 ≤ c.toNat) (hi : c.toNat ≠ dottedI) :
    lower c = [mapped lowerRuns c] := by
  have hascii : ¬c.toNat < 0x80 := by omega
  have hdot : (c.toNat == 0x130) = false := by simpa [dottedI] using hi
  simp [lower, hascii, hdot]

lemma lower_dottedI {c : Char} (hc : c.toNat = dottedI) : lower c = ['i', Char.ofNat 0x307] := by
  simp [lower, hc, dottedI]

/-- Beyond ASCII, only the Kelvin sign is mapped to a small form in ASCII. -/
lemma mapped_lowerRuns_ascii {c : Char} (hc : 0x80 ≤ c.toNat)
    (h : (mapped lowerRuns c).toNat < 0x80) :
    c.toNat = kelvin ∧ (mapped lowerRuns c).toNat = 0x6b := by
  obtain ⟨hproper, himages, -⟩ := lowerRuns_check
  rcases mapped_cases hproper c with ⟨hself, -⟩ | ⟨r, hr, hcov, hoff⟩
  · rw [hself] at h
    omega
  · have himage := List.all_eq_true.1 himages r hr
    simp only [Bool.or_eq_true, Bool.and_eq_true, decide_eq_true_eq, beq_iff_eq, kelvin,
      CaseRun.covers] at himage hcov ⊢
    omega

lemma mapped_lowerRuns_ne_kelvin (c : Char) : (mapped lowerRuns c).toNat ≠ kelvin := by
  intro h
  obtain ⟨hproper, -, hmiss, hkelvin, -⟩ := lowerRuns_check
  obtain ⟨hself, hcov⟩ := mapped_of_misses hproper (h ▸ hmiss)
  obtain ⟨r, hr, hk⟩ := List.any_eq_true.1 hkelvin
  rw [← h, hself, hcov r hr] at hk
  cases hk

lemma kelvin_of_isAscii_lower {c : Char} (hc : 0x80 ≤ c.toNat) (h : IsAscii (lower c)) :
    c.toNat = kelvin ∧ lower c = ['k'] := by
  by_cases hi : c.toNat = dottedI
  · rw [lower_dottedI hi] at h
    exact absurd (h (Char.ofNat 0x307) (by simp)) (by decide)
  · rw [lower_of_not_ascii hc hi] at h ⊢
    obtain ⟨hkelvin, hk⟩ := mapped_lowerRuns_ascii hc (h _ (by simp))
    refine ⟨hkelvin, ?_⟩
    rw [← Char.ofNat_toNat (mapped lowerRuns c), hk]

lemma ne_kelvin_of_mem_lower {c d : Char} (hd : d ∈ lower c) : d.toNat ≠ kelvin := by
  by_cases hc : c.toNat < 0x80
  · rw [lower_of_ascii hc, List.mem_singleton] at hd
    subst hd
    have hsmall := (asciiCase hc).lower_lt
    rw [kelvin]
    omega
  · by_cases hi : c.toNat = dottedI
    · rw [lower_dottedI hi] at hd
      rcases List.mem_pair.1 hd with rfl | rfl <;> decide
    · rw [lower_of_not_ascii (by omega) hi, List.mem_singleton] at hd
      exact hd ▸ mapped_lowerRuns_ne_kelvin c

/-! ### Capital forms -/

lemma upper_of_not_ascii {c : Char} (hc : 0x80 ≤ c.toNat) :
    (∃ codes, (c.toNat, codes) ∈ upperSpecial ∧ upper c = codes.map Char.ofNat) ∨
      upper c = [mapped upperRuns c] := by
  have hascii : ¬c.toNat < 0x80 := by omega
  unfold upper
  rw [if_neg hascii]
  cases h : upperSpecial.find? (·.1 == c.toNat) with
  | none => exact .inr rfl
  | some e =>
    obtain ⟨code, codes⟩ := e
    have hcode : code = c.toNat := by simpa using List.find?_some h
    exact .inl ⟨codes, hcode ▸ List.mem_of_find?_eq_some h, rfl⟩

/-- Beyond ASCII, only dotless i and long s are mapped to one capital in ASCII. -/
lemma mapped_upperRuns_ascii {c : Char} (hc : 0x80 ≤ c.toNat)
    (h : (mapped upperRuns c).toNat < 0x80) :
    c.toNat ∈ asciiCapitals := by
  obtain ⟨hproper, himages, -⟩ := upperRuns_check
  rcases mapped_cases hproper c with ⟨hself, -⟩ | ⟨r, hr, hcov, hoff⟩
  · rw [hself] at h
    omega
  · have himage := List.all_eq_true.1 himages r hr
    simp only [Bool.or_eq_true, Bool.and_eq_true, decide_eq_true_eq, beq_iff_eq,
      CaseRun.covers] at himage hcov
    have hcode : c.toNat = 0x131 ∨ c.toNat = 0x17f := by omega
    rcases hcode with hcode | hcode
    · rw [hcode]
      decide
    · rw [hcode]
      decide

lemma mem_asciiCapitals_of_isAscii_upper {c : Char} (hc : 0x80 ≤ c.toNat)
    (h : IsAscii (upper c)) : c.toNat ∈ asciiCapitals := by
  rcases upper_of_not_ascii hc with ⟨codes, hmem, heq⟩ | heq
  · have hcheck := List.all_eq_true.1 upperSpecial_check.2.2.1 _ hmem
    simp only [Bool.or_eq_true, List.contains_iff_mem, List.any_eq_true, decide_eq_true_eq] at hcheck
    rcases hcheck with hcheck | ⟨code, hcode, hbig⟩
    · exact hcheck
    · have hsmall := h (Char.ofNat code) (heq ▸ List.mem_map.2 ⟨code, hcode, rfl⟩)
      omega
  · exact mapped_upperRuns_ascii hc (h _ (by simp [heq]))

/-- No capital form holds the Kelvin sign, or a letter whose own capital is in ASCII, but for the
Kelvin sign itself. -/
lemma eq_of_mem_upper {c d : Char} (hd : d ∈ upper c) (h : d.toNat ∈ kelvin :: asciiCapitals) :
    d = c ∧ upper c = [c] := by
  have hbig : 0x80 ≤ d.toNat := by
    have hall : (kelvin :: asciiCapitals).all (0x80 ≤ ·) = true := by decide
    simpa using List.all_eq_true.1 hall _ h
  have hc : 0x80 ≤ c.toNat := by
    by_contra hlt
    have hascii : c.toNat < 0x80 := by omega
    have hsmall := (asciiCase hascii).upper_lt
    rw [upper_of_ascii hascii, List.mem_singleton] at hd
    rw [hd] at hbig
    omega
  rcases upper_of_not_ascii hc with ⟨codes, hmem, heq⟩ | heq
  · rw [heq] at hd
    obtain ⟨code, hcode, rfl⟩ := List.mem_map.1 hd
    have hcheck := List.all_eq_true.1 (List.all_eq_true.1 upperSpecial_check.2.1 _ hmem) code hcode
    simp only [Bool.not_eq_true', List.contains_eq_mem, decide_eq_false_iff_not] at hcheck
    exact absurd h hcheck
  · rw [heq, List.mem_singleton] at hd
    obtain ⟨hproper, -, hmiss⟩ := upperRuns_check
    have hself := (mapped_of_misses hproper (hd ▸ List.all_eq_true.1 hmiss _ h)).1
    exact ⟨hd.trans hself, heq.trans (by rw [hself])⟩

lemma not_mem_asciiCapitals_of_mem_upper {c d : Char} (hd : d ∈ upper c) :
    d.toNat ∉ asciiCapitals := by
  intro h
  obtain ⟨rfl, hself⟩ := eq_of_mem_upper hd (List.mem_cons_of_mem _ h)
  have hall := List.all_eq_true.1 upperSpecial_check.2.2.2 _ h
  rw [Char.ofNat_toNat, hself] at hall
  have hbig : asciiCapitals.all (0x80 ≤ ·) = true := by decide
  have hd := List.all_eq_true.1 hbig _ h
  simp only [List.all_cons, List.all_nil, Bool.and_true, decide_eq_true_eq] at hall hd
  omega

lemma upper_ne_nil (c : Char) : upper c ≠ [] := by
  by_cases hc : c.toNat < 0x80
  · simp [upper_of_ascii hc]
  · rcases upper_of_not_ascii (c := c) (by omega) with ⟨codes, hmem, heq⟩ | heq
    · have hne := List.all_eq_true.1 upperSpecial_check.1 _ hmem
      simpa [heq] using hne
    · simp [heq]

/-- A small form whose capital is in ASCII is sharp s or the character itself. -/
lemma eq_of_mem_lower_of_mem_asciiCapitals {c d : Char} (hc : 0x80 ≤ c.toNat) (hd : d ∈ lower c)
    (h : d.toNat ∈ asciiCapitals) : d.toNat = 0xdf ∨ d = c := by
  by_cases hi : c.toNat = dottedI
  · rw [lower_dottedI hi] at hd
    rcases List.mem_pair.1 hd with rfl | rfl <;> exact absurd h (by decide)
  · rw [lower_of_not_ascii hc hi, List.mem_singleton] at hd
    by_cases hsharp : d.toNat = 0xdf
    · exact .inl hsharp
    · obtain ⟨hproper, -, -, -, hmiss⟩ := lowerRuns_check
      have hcode := List.all_eq_true.1 hmiss _ h
      rw [beq_false_of_ne hsharp, Bool.false_or] at hcode
      exact .inr (hd.trans (mapped_of_misses hproper (hd ▸ hcode)).1)

end ClientGen.Proofs
