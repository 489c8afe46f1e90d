import Mathlib.Data.List.Nodup
import ClientGen.Proofs.Grouping

/-!
# Names of groups

A group is named for its segment, or by the next number if the segment names nothing. Numbers are
taken in the order in which such segments first appear, one for each. A number is part of no other
group's name, so two groups share a name just when two segments that name something do.
-/

namespace ClientGen.Proofs

variable {p : Profile} {t : Target} {d : Document} {c : Config}

/-- The name of a group that is opened after so many numbers. -/
def anonymousName (issued : Nat) : String := "AnonymousAPI" ++ toString (issued + 1)

/-- The class names of a table under the segments. -/
def classNames (table : GroupTable) : Entries String :=
  table.groups.map fun e => (e.1, e.2.className)

/-- Names as they are handed out: from a segment, or the numbers so far in their order. -/
structure Named (p : Profile) (t : Target) (names : Entries String) (issued : Nat) : Prop where
  named : ∀ e ∈ names, isNameable e.1 = true → e.2 = (p.apiName t e.1 {}).1
  numbered : (names.filter fun e => !isNameable e.1).map (·.2) =
    (List.range issued).map anonymousName

/-! ### Opening a group -/

lemma apiName_builtin (hp : p ∈ Registry.builtin.profiles) (t : Target) :
    p.apiName t = ClientGen.apiName := by
  rcases mem_builtin_iff.1 hp with rfl | rfl | rfl | rfl <;> rfl

lemma ne_empty_of_isNameable {segment : String} (h : isNameable segment = true) :
    segment.isEmpty = false := by
  unfold isNameable at h
  simpa using (Bool.and_eq_true_iff.1 h).1

lemma openGroup_nameable (hp : p ∈ Registry.builtin.profiles) {segment : String}
    (h : isNameable segment = true) (anonymous : AnonymousNames) :
    openGroup p t segment anonymous =
      ({ baseName := segment, className := (p.apiName t segment {}).1 }, anonymous) := by
  simp only [openGroup, apiName_builtin hp, h, if_true, apiName, ne_empty_of_isNameable h,
    Bool.false_eq_true, if_false]

lemma openGroup_anonymous (hp : p ∈ Registry.builtin.profiles) {segment : String}
    (h : isNameable segment = false) (anonymous : AnonymousNames) :
    openGroup p t segment anonymous =
      ({ baseName := "", className := anonymousName anonymous.issued },
        ⟨anonymous.issued + 1⟩) := by
  simp only [openGroup, apiName_builtin hp, h, Bool.false_eq_true, if_false, apiName]
  rfl

/-- One more segment gets its name. -/
lemma Named.openGroup (hp : p ∈ Registry.builtin.profiles) {names : Entries String}
    {anonymous : AnonymousNames} (h : Named p t names anonymous.issued) (segment : String) :
    Named p t (names ++ [(segment, (openGroup p t segment anonymous).1.className)])
      (openGroup p t segment anonymous).2.issued := by
  cases hsegment : isNameable segment with
  | true =>
    rw [openGroup_nameable hp hsegment]
    constructor
    · intro e he hname
      rcases List.mem_append.1 he with he | he
      · exact h.named e he hname
      · obtain rfl := List.mem_singleton.1 he
        rfl
    · rw [List.filter_append, List.map_append, h.numbered]
      simp [hsegment]
  | false =>
    rw [openGroup_anonymous hp hsegment]
    constructor
    · intro e he hname
      rcases List.mem_append.1 he with he | he
      · exact h.named e he hname
      · obtain rfl := List.mem_singleton.1 he
        rw [hsegment] at hname
        cases hname
    · rw [List.filter_append, List.map_append, h.numbered, List.range_succ, List.map_append]
      simp [hsegment]

/-! ### The table of groups -/

/-- An operation of a known segment names nothing. -/
lemma classNames_add (table : GroupTable) (o : Operation) :
    (classNames (table.add p t o), (table.add p t o).anonymous) =
      match table.groups.get? o.segment with
      | some _ => (classNames table, table.anonymous)
      | none =>
        (classNames table ++
            [(o.segment, (openGroup p t o.segment table.anonymous).1.className)],
          (openGroup p t o.segment table.anonymous).2) := by
  cases hget : table.groups.get? o.segment with
  | some g =>
    simp only [classNames, GroupTable.add, GroupTable.group, hget]
    rw [map_put_of_get? hget]
    rfl
  | none =>
    simp only [classNames, GroupTable.add, GroupTable.group, hget]
    rw [put_of_get?_none hget, List.map_append]
    rfl

theorem named_groupOperations (hp : p ∈ Registry.builtin.profiles) (operations : List Operation) :
    Named p t (classNames (groupOperations p t operations {}))
      (groupOperations p t operations {}).anonymous.issued := by
  unfold groupOperations
  induction operations using List.reverseRec with
  | nil => exact ⟨by simp [classNames], rfl⟩
  | append_singleton rest o ih =>
    rw [List.foldl_append]
    have hadd := classNames_add (p := p) (t := t) (rest.foldl (.add p t) { anonymous := {} }) o
    split at hadd
    · obtain ⟨hnames, hanonymous⟩ := Prod.mk.inj hadd
      rw [List.foldl_cons, List.foldl_nil, hnames, hanonymous]
      exact ih
    · obtain ⟨hnames, hanonymous⟩ := Prod.mk.inj hadd
      rw [List.foldl_cons, List.foldl_nil, hnames, hanonymous]
      exact ih.openGroup hp o.segment

/-! ### Names that two groups share -/

lemma anonymousName_injective : Function.Injective anonymousName := by
  intro i j h
  have hdigits : Nat.toDigits 10 (i + 1) = Nat.toDigits 10 (j + 1) := by
    have hlists := congrArg String.toList ((String.append_right_inj _).1 h)
    simpa only [Nat.toString_eq_repr, Nat.toList_repr] using hlists
  have hnumbers := congrArg (Nat.ofDigitChars 10 · 0) hdigits
  simpa using hnumbers

/-- A number ends in a digit, a name from a segment in a letter. -/
lemma anonymousName_ne (hp : p ∈ Registry.builtin.profiles) {segment : String}
    (h : isNameable segment = true) (issued : Nat) :
    (p.apiName t segment {}).1 ≠ anonymousName issued := by
  intro heq
  have hletter : (p.apiName t segment {}).1.toList.getLast? = some 'I' := by
    simp only [apiName_builtin hp, apiName, ne_empty_of_isNameable h, Bool.false_eq_true, if_false,
      String.toList_append]
    simp
  have hdigits : (anonymousName issued).toList =
      "AnonymousAPI".toList ++ Nat.toDigits 10 (issued + 1) := by
    rw [anonymousName, String.toList_append, Nat.toString_eq_repr, Nat.toList_repr]
  have hlast : 'I' ∈ Nat.toDigits 10 (issued + 1) := by
    rw [heq, hdigits, List.getLast?_append_of_ne_nil _ Nat.toDigits_ne_nil] at hletter
    exact List.mem_of_getLast? hletter
  exact absurd (Nat.isDigit_of_mem_toDigits (by decide) (by decide) hlast) (by decide)

section

variable {names : Entries String} {issued : Nat}

lemma Named.perm (h : Named p t names issued) :
    (((names.keys.filter isNameable).map fun segment => (p.apiName t segment {}).1) ++
      (List.range issued).map anonymousName).Perm (names.map (·.2)) := by
  have hnamed : (names.keys.filter isNameable).map (fun segment => (p.apiName t segment {}).1) =
      (names.filter fun e => isNameable e.1).map (·.2) := by
    rw [Entries.keys, List.filter_map, List.map_map]
    refine List.map_congr_left fun e he => ?_
    obtain ⟨hmem, hname⟩ := List.mem_filter.1 he
    exact (h.named e hmem hname).symm
  rw [hnamed, ← h.numbered, ← List.map_append]
  exact (List.filter_append_perm _ names).map _

lemma Named.nodup_iff (hp : p ∈ Registry.builtin.profiles) (h : Named p t names issued) :
    (names.map (·.2)).Nodup ↔
      ((names.keys.filter isNameable).map fun segment => (p.apiName t segment {}).1).Nodup := by
  rw [← h.perm.nodup_iff, List.nodup_append]
  constructor
  · exact And.left
  · intro hnodup
    refine ⟨hnodup, List.nodup_range.map anonymousName_injective, ?_⟩
    intro x hx y hy
    obtain ⟨segment, hsegment, rfl⟩ := List.mem_map.1 hx
    obtain ⟨number, -, rfl⟩ := List.mem_map.1 hy
    exact anonymousName_ne hp (List.mem_filter.1 hsegment).2 number

end

/-- Finishing a group keeps its name. -/
lemma groupNames_finishedApi (hp : p ∈ Registry.builtin.profiles) :
    (finishedApi p t d).groups.map (·.className) =
      (classNames (groupOperations p t (d.sites.map (.build p t)) {})).map (·.2) := by
  rw [finishedApi_groups hp, classNames, List.map_map, List.map_map]
  rfl

/-- The groups of a finished run have distinct class names just when the segments that name
something give distinct names. -/
theorem nodup_groupNames_iff (hp : p ∈ Registry.builtin.profiles) :
    ((finishedApi p t d).groups.map (·.className)).Nodup ↔
      (((d.sites.map fun site => resourceSegment site.path).eraseDups.filter isNameable).map
        fun segment => (p.apiName t segment {}).1).Nodup := by
  have hnames := named_groupOperations (t := t) hp (d.sites.map (.build p t))
  have hkeys : (classNames (groupOperations p t (d.sites.map (.build p t)) {})).keys =
      (d.sites.map fun site => resourceSegment site.path).eraseDups := by
    have hgrouped := (grouped_built (p := p) (t := t) (d := d)).keys
    rw [List.map_map] at hgrouped
    rw [Entries.keys, classNames, List.map_map]
    exact hgrouped
  rw [groupNames_finishedApi hp, hnames.nodup_iff hp, hkeys]

end ClientGen.Proofs
