import ClientGen.Identifier.Reserved
import ClientGen.Profile.Naming
import ClientGen.Proofs.Words

/-!
# Spelling of names

A reserved word is compared in small letters, and all reserved words are in ASCII. So it only matters
how a name reads in small letters, and texts that leave ASCII need not be told apart. Joining the
words of a text in camel case, and capitalizing the result, does not change how it reads.
-/

namespace ClientGen.Proofs

open Unicode Identifier

/-- The same text, or two texts that both leave ASCII. -/
def AsciiEq (cs ds : List Char) : Prop := IsAscii cs ∨ IsAscii ds → cs = ds

namespace AsciiEq

variable {as bs cs ds : List Char}

lemma refl (cs : List Char) : AsciiEq cs cs := fun _ => rfl

lemma trans (h : AsciiEq as bs) (h' : AsciiEq bs cs) : AsciiEq as cs := by
  rintro (ha | hc)
  · have hab := h (.inl ha)
    exact hab.trans (h' (.inl (hab ▸ ha)))
  · have hbc := h' (.inr hc)
    exact (h (.inr (hbc ▸ hc))).trans hbc

lemma append (h : AsciiEq as bs) (h' : AsciiEq cs ds) : AsciiEq (as ++ cs) (bs ++ ds) := by
  rintro (ha | ha)
  · obtain ⟨has, hcs⟩ := isAscii_append.1 ha
    rw [h (.inl has), h' (.inl hcs)]
  · obtain ⟨hbs, hds⟩ := isAscii_append.1 ha
    rw [h (.inr hbs), h' (.inr hds)]

lemma of_not_isAscii (hc : ¬IsAscii cs) (hd : ¬IsAscii ds) : AsciiEq cs ds :=
  fun h => (h.elim hc hd).elim

end AsciiEq

lemma not_isAscii_of_mem {cs : List Char} {c : Char} (hc : c ∈ cs) (h : 0x80 ≤ c.toNat) :
    ¬IsAscii cs := fun ha => absurd (ha c hc) (by omega)

/-! ### Small letters -/

/-- Small letters of ASCII stay as they are. -/
lemma lower_lower_of_ascii {c : Char} (hc : c.toNat < 0x80) :
    (lower c).flatMap lower = lower c := by
  have h := asciiCase hc
  rw [lower_of_ascii hc, List.flatMap_singleton, lower_of_ascii h.lower_lt, h.lower_lower]

/-- A text beyond ASCII stays there in small letters, unless it leaves ASCII by a Kelvin sign only. -/
lemma not_isAscii_flatMap_lower {cs : List Char} {d : Char} (hd : d ∈ cs) (hbig : 0x80 ≤ d.toNat)
    (hk : d.toNat ≠ kelvin) : ¬IsAscii (cs.flatMap lower) := by
  intro hall
  have hlower : IsAscii (lower d) := fun x hx => hall x (List.mem_flatMap.2 ⟨d, hd, hx⟩)
  exact hk (kelvin_of_isAscii_lower hbig hlower).1

lemma lower_lower_asciiEq (c : Char) : AsciiEq ((lower c).flatMap lower) (lower c) := by
  by_cases hc : c.toNat < 0x80
  · rw [lower_lower_of_ascii hc]
    exact .refl _
  by_cases ha : IsAscii (lower c)
  · rw [(kelvin_of_isAscii_lower (Nat.not_lt.1 hc) ha).2]
    exact .refl _
  · refine .of_not_isAscii ?_ ha
    simp only [IsAscii, not_forall] at ha
    obtain ⟨d, hd, hbig⟩ := ha
    exact not_isAscii_flatMap_lower hd (Nat.not_lt.1 hbig) (ne_kelvin_of_mem_lower hd)

/-- A capital sigma has two small forms, both beyond ASCII; any other character has those that it
has alone. -/
lemma lowerFrom_asciiEq (before cs : List Char) : AsciiEq (lowerFrom before cs) (cs.flatMap lower) := by
  induction cs generalizing before with
  | nil => exact .refl _
  | cons c rest ih =>
    rw [lowerFrom, List.flatMap_cons]
    refine .append ?_ (ih _)
    split
    · rename_i hsigma
      have hsigma : c.toNat = 0x3a3 := beq_iff_eq.1 hsigma
      refine .of_not_isAscii ?_ fun ha => ?_
      · split
        · exact not_isAscii_of_mem (List.mem_singleton_self _) (by decide)
        · exact not_isAscii_of_mem (List.mem_singleton_self _) (by decide)
      · have hk := (kelvin_of_isAscii_lower (by omega) ha).1
        rw [hsigma] at hk
        exact absurd hk (by decide)
    · exact .refl _

lemma lowerText_asciiEq (cs : List Char) : AsciiEq (lowerText cs) (cs.flatMap lower) :=
  lowerFrom_asciiEq [] cs

lemma uncapitalize_asciiEq (cs : List Char) :
    AsciiEq ((uncapitalize cs).flatMap lower) (cs.flatMap lower) := by
  cases cs with
  | nil => exact .refl _
  | cons c rest =>
    rw [uncapitalize, List.flatMap_append, List.flatMap_cons]
    exact (lower_lower_asciiEq c).append (.refl _)

/-! ### Joined words -/

/-- How a text reads in small letters once its words are joined. The first letter of a word is read
by way of its capital form. -/
def spelling (cs : List Char) : List Char :=
  ((legal cs).splitOnP isWordSeparator).flatMap fun word => (capitalize word).flatMap lower

lemma spelling_eq (cs : List Char) : spelling cs = (pascal (legal cs)).flatMap lower := by
  rw [spelling, pascal, List.flatMap_assoc]

lemma lowerText_camel_asciiEq (cs : List Char) :
    AsciiEq (lowerText (camel (legal cs))) (spelling cs) := by
  rw [spelling_eq, camel]
  exact (lowerText_asciiEq _).trans (uncapitalize_asciiEq _)

/-- Pascal case begins with a capital form. -/
lemma exists_mem_upper_of_pascal {cs rest : List Char} {c : Char} (h : pascal cs = c :: rest) :
    ∃ first, c ∈ upper first := by
  have hwords : ∀ words : List (List Char), words.flatMap capitalize = c :: rest →
      ∃ first, c ∈ upper first := by
    intro words
    induction words with
    | nil => simp
    | cons word words ih =>
      intro hw
      rw [List.flatMap_cons] at hw
      cases word with
      | nil => exact ih hw
      | cons first tail =>
        obtain ⟨u, us, hu⟩ := List.exists_cons_of_ne_nil (upper_ne_nil first)
        simp only [capitalize, hu, List.cons_append, List.cons.injEq] at hw
        exact ⟨first, by simp [hu, hw.1]⟩
  exact hwords _ h

/-- The capital form of a small letter beyond ASCII stays there in small letters, but for that of a
sharp s. -/
lemma lower_upper_of_mem_lower {c d : Char} (hc : 0x80 ≤ c.toNat) (hcap : c.toNat ∉ asciiCapitals)
    (hd : d ∈ lower c) (hbig : 0x80 ≤ d.toNat) :
    ¬IsAscii ((upper d).flatMap lower) ∨ (upper d).flatMap lower = ['s', 's'] := by
  by_cases hupper : IsAscii (upper d)
  · right
    have hdcap := mem_asciiCapitals_of_isAscii_upper hbig hupper
    rcases eq_of_mem_lower_of_mem_asciiCapitals hc hd hdcap with hsharp | rfl
    · have hdsharp : d = Char.ofNat 0xdf := by rw [← Char.ofNat_toNat d, hsharp]
      rw [hdsharp]
      decide
    · exact absurd hdcap hcap
  · left
    simp only [IsAscii, not_forall] at hupper
    obtain ⟨e, he, hbig⟩ := hupper
    refine not_isAscii_flatMap_lower he (Nat.not_lt.1 hbig) fun hk => ?_
    -- Only the Kelvin sign has a capital form with a Kelvin sign in it, and it is no small letter.
    obtain ⟨rfl, -⟩ := eq_of_mem_upper he (by simp [hk])
    exact ne_kelvin_of_mem_lower hd hk

/-- A capital in place of a small first letter reads the same, but for the sharp s. -/
lemma capitalize_uncapitalize_asciiEq {c : Char} (rest : List Char)
    (hc : c.toNat ∉ asciiCapitals) :
    AsciiEq ((capitalize (uncapitalize (c :: rest))).flatMap lower) ((c :: rest).flatMap lower) ∨
      ¬IsAscii ((c :: rest).flatMap lower) ∧
        ∃ tail, (capitalize (uncapitalize (c :: rest))).flatMap lower = 's' :: 's' :: tail := by
  rw [uncapitalize, List.flatMap_cons]
  by_cases hsmall : c.toNat < 0x80
  · have h := asciiCase hsmall
    have hlower := asciiCase h.lower_lt
    left
    rw [lower_of_ascii hsmall, List.singleton_append, capitalize, upper_of_ascii h.lower_lt,
      List.singleton_append, List.flatMap_cons, lower_of_ascii hlower.upper_lt,
      hlower.lower_upper, h.lower_lower]
    exact .refl _
  by_cases hi : c.toNat = dottedI
  · left
    rw [lower_dottedI hi]
    refine .of_not_isAscii ?_ (not_isAscii_of_mem (c := Char.ofNat 0x307) (by simp) (by decide))
    exact not_isAscii_flatMap_lower (d := Char.ofNat 0x307) (by simp [capitalize]) (by decide)
      (by decide)
  have hlower := lower_of_not_ascii (c := c) (by omega) hi
  generalize mapped lowerRuns c = d at hlower
  have hmem : d ∈ lower c := by simp [hlower]
  rw [hlower, List.singleton_append, capitalize, List.flatMap_append]
  by_cases hdsmall : d.toNat < 0x80
  · have hascii : IsAscii (lower c) := by
      rw [hlower]
      intro x hx
      rwa [List.mem_singleton.1 hx]
    have hk := (kelvin_of_isAscii_lower (Nat.not_lt.1 hsmall) hascii).2
    rw [hlower, List.singleton_inj] at hk
    have hkk : (upper 'k').flatMap lower = ['k'] := by decide
    left
    rw [hk, hkk]
    exact .refl _
  have hbig : 0x80 ≤ d.toNat := Nat.not_lt.1 hdsmall
  have hspell : ¬IsAscii ([d] ++ rest.flatMap lower) := not_isAscii_of_mem (c := d) (by simp) hbig
  rcases lower_upper_of_mem_lower (Nat.not_lt.1 hsmall) hc hmem hbig with hupper | hss
  · left
    refine .append (.of_not_isAscii hupper ?_) (.refl _)
    exact not_isAscii_of_mem (c := d) (by simp) hbig
  · rw [hss]
    exact .inr ⟨hspell, _, rfl⟩

/-! ### Letters and digits of ASCII -/

/-- An id of ASCII letters and digits reads as it stands. -/
lemma spelling_of_isAlphanum {cs : List Char} (h : ∀ c ∈ cs, c.isAlphanum = true) :
    spelling cs = lowerText cs := by
  have hsplit : cs.splitOnP isWordSeparator = [cs] :=
    List.splitOnP_eq_singleton fun c hc => (separators_of_isAlphanum (h c hc)).2
  have hcap : (capitalize cs).flatMap lower = cs.flatMap lower := by
    cases cs with
    | nil => rfl
    | cons c rest =>
      have hc := toNat_lt_of_isAlphanum (h c (by simp))
      have hcase := asciiCase hc
      rw [capitalize, upper_of_ascii hc, List.singleton_append, List.flatMap_cons,
        List.flatMap_cons, lower_of_ascii hcase.upper_lt, hcase.lower_upper, lower_of_ascii hc]
  have hascii : IsAscii (cs.flatMap lower) := by
    intro x hx
    obtain ⟨c, hc, hxc⟩ := List.mem_flatMap.1 hx
    have hc := toNat_lt_of_isAlphanum (h c hc)
    rw [lower_of_ascii hc, List.mem_singleton] at hxc
    rw [hxc]
    exact (asciiCase hc).lower_lt
  rw [spelling, legal_eq_self fun c hc => .inl (h c hc), hsplit, List.flatMap_singleton, hcap]
  exact (lowerText_asciiEq cs (.inr hascii)).symm

end ClientGen.Proofs
