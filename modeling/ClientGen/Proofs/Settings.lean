import Mathlib.Data.List.Find
import Mathlib.Data.List.Induction
import Mathlib.Tactic.Common
import ClientGen.Proofs.Entries
import ClientGen.Settings

/-!
# Settings of declared options

Options are declared under distinct names, so each has its own value in the settings: a flag is a
boolean and a text is a string, whatever a config holds under that name.
-/

namespace ClientGen.Proofs

variable {options : List ConfigOption} {c : Config} {o : ConfigOption}

lemma get?_set_self (s : Settings) (key : String) (value : Json) :
    (s.set key value).get? key = some value :=
  Entries.get?_put_self ..

lemma get?_set_of_ne (s : Settings) {key other : String} (value : Json) (h : other ≠ key) :
    (s.set key value).get? other = s.get? other :=
  Entries.get?_put_of_ne _ _ h

lemma declared_append (rest : List ConfigOption) (o : ConfigOption) :
    Settings.declared (rest ++ [o]) c =
      (Settings.declared rest c).set o.name (o.default.resolve (c.get? o.name)) := by
  rw [Settings.declared, List.foldl_append]
  rfl

lemma get?_declared (hnames : (options.map (·.name)).Nodup) (ho : o ∈ options) :
    (Settings.declared options c).get? o.name = some (o.default.resolve (c.get? o.name)) := by
  induction options using List.reverseRec with
  | nil => cases ho
  | append_singleton rest last ih =>
    rw [List.map_append, List.nodup_append] at hnames
    obtain ⟨hrest, -, hlast⟩ := hnames
    rw [declared_append]
    rcases List.mem_append.1 ho with ho | ho
    · have hne : o.name ≠ last.name :=
        hlast _ (List.mem_map_of_mem ho) _ (List.mem_singleton_self _)
      rw [get?_set_of_ne _ _ hne, ih hrest ho]
    · obtain rfl := List.mem_singleton.1 ho
      exact get?_set_self ..

/-- Options that are not declared come after the declared ones and hide none of them. -/
theorem get?_resolve (hnames : (options.map (·.name)).Nodup) (ho : o ∈ options) :
    (Settings.resolve options c).get? o.name = some (o.default.resolve (c.get? o.name)) := by
  have hdeclared := get?_declared (c := c) hnames ho
  unfold Settings.get? Entries.get? at hdeclared ⊢
  rw [Settings.resolve, Settings.addOthers, List.find?_append]
  cases hfind : (Settings.declared options c).values.find? (·.1 == o.name) with
  | none =>
    rw [hfind] at hdeclared
    cases hdeclared
  | some e =>
    rw [hfind] at hdeclared
    exact hdeclared

theorem string?_resolve (hnames : (options.map (·.name)).Nodup) (ho : o ∈ options) {s : String}
    (htext : o.default = .text s) :
    (Settings.resolve options c).string? o.name = some (((c.get? o.name).map Json.text).getD s) := by
  rw [Settings.string?, get?_resolve hnames ho, htext]
  rfl

/-! ### Settings of other keys -/

lemma mem_keys_declared {key : String} :
    key ∈ (Settings.declared options c).values.keys ↔ key ∈ options.map (·.name) := by
  induction options using List.reverseRec with
  | nil => simp [Settings.declared, Entries.keys]
  | append_singleton rest last ih =>
    have hkeys : (Settings.declared (rest ++ [last]) c).values.keys =
        ((Settings.declared rest c).values.put last.name
          (last.default.resolve (c.get? last.name))).keys := by
      rw [declared_append]
      rfl
    rw [hkeys, Entries.keys_put, List.map_append, List.mem_append, ← ih]
    split_ifs with hknown
    · simp only [List.map_cons, List.map_nil, List.mem_singleton]
      exact ⟨.inl, fun h => h.elim id fun heq => heq ▸ hknown⟩
    · rw [List.mem_append]
      simp

lemma hasKey_declared {key : String} :
    (Settings.declared options c).values.hasKey key = true ↔ key ∈ options.map (·.name) := by
  rw [← mem_keys_declared (c := c), Entries.hasKey, List.any_eq_true, Entries.keys, List.mem_map]
  simp only [beq_iff_eq]

/-- A key that no option declares has the value of the config. -/
theorem get?_resolve_of_notMem {key : String} (h : key ∉ options.map (·.name)) :
    (Settings.resolve options c).get? key = c.get? key := by
  have hfree : (Settings.declared options c).values.hasKey key = false :=
    Bool.eq_false_iff.2 (mt hasKey_declared.1 h)
  have hnone : (Settings.declared options c).values.find? (·.1 == key) = none :=
    List.find?_eq_none.2 (List.any_eq_false.1 hfree)
  have hothers : (c.values.filter fun e => !(Settings.declared options c).values.hasKey e.1).find?
      (·.1 == key) = c.values.find? (·.1 == key) := by
    rw [List.find?_filter]
    refine List.find?_congr fun e _ => ?_
    cases heq : e.1 == key with
    | true => simp [beq_iff_eq.1 heq, hfree]
    | false => simp
  unfold Settings.get? Config.get? Entries.get?
  rw [Settings.resolve, Settings.addOthers, List.find?_append, hnone, Option.none_or, hothers]

theorem mem_keys_resolve {key : String} :
    key ∈ (Settings.resolve options c).values.keys ↔
      key ∈ options.map (·.name) ∨ key ∈ c.values.keys := by
  have hkeys : (Settings.resolve options c).values.keys =
      (Settings.declared options c).values.keys ++
        (c.values.filter fun e => !(Settings.declared options c).values.hasKey e.1).map (·.1) :=
    List.map_append
  rw [hkeys, List.mem_append, mem_keys_declared]
  by_cases hknown : key ∈ options.map (·.name)
  · exact iff_of_true (.inl hknown) (.inl hknown)
  · rw [or_iff_right hknown, or_iff_right hknown, Entries.keys, List.mem_map, List.mem_map]
    constructor
    · rintro ⟨e, he, rfl⟩
      exact ⟨e, (List.mem_filter.1 he).1, rfl⟩
    · rintro ⟨e, he, rfl⟩
      exact ⟨e, List.mem_filter.2 ⟨he, by simpa using mt hasKey_declared.1 hknown⟩, rfl⟩

end ClientGen.Proofs
