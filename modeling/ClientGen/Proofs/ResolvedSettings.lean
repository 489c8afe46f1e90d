import ClientGen.Profile.LoopBack
import ClientGen.Proofs.Settings

/-!
# Resolved settings

The settings of a config list the declared options in their order, each with a value of its own
kind, and then whatever else the config holds, as it is. So they are a config that resolves to
itself. An option that a later config supplies is resolved from that config alone, and any other as
if there were no later config.
-/

namespace ClientGen.Proofs

variable {options : List ConfigOption} {c : Config} {o : ConfigOption} {key : String}

/-- The names that a list of options declares. -/
def optionNames (options : List ConfigOption) : List String := options.map (·.name)

/-- Settings taken for the config of another run. -/
def configOf (s : Settings) : Config := ⟨s.values, s.distinct⟩

lemma values_configOf (s : Settings) : (configOf s).values = s.values := rfl

lemma settings_ext {s s' : Settings} (h : s.values = s'.values) : s = s' := by
  cases s
  cases s'
  congr

/-- What the settings of a config are: which keys they list in which order, and what they hold under
the name of a flag, the name of a text, and any other key. -/
structure SettingsOf (options : List ConfigOption) (c : Config) (s : Settings) : Prop where
  keys : s.values.keys = optionNames options ++ c.values.keys.filter (· ∉ optionNames options)
  distinct : s.values.keys.Nodup
  flag : ∀ o ∈ options, ∀ default, o.default = .flag default →
    ∃ on, s.get? o.name = some (.bool on) ∧ (c.get? o.name = none → on = default) ∧
      ∀ v, c.get? o.name = some v → (on = true ↔ v = .bool true ∨ v = .str "true")
  text : ∀ o ∈ options, ∀ default, o.default = .text default →
    ∃ shown, s.get? o.name = some (.str shown) ∧ (c.get? o.name = none → shown = default) ∧
      ∀ v, c.get? o.name = some v → shown = v.text
  passed : ∀ key, key ∉ optionNames options → s.get? key = c.get? key

/-! ### The entries of settings -/

/-- The entries of the declared options. -/
def declaredEntries (options : List ConfigOption) (c : Config) : Entries Json :=
  options.map fun o => (o.name, o.default.resolve (c.get? o.name))

lemma keys_declaredEntries : (declaredEntries options c).keys = optionNames options := List.map_map

lemma values_declared (hnames : (optionNames options).Nodup) :
    (Settings.declared options c).values = declaredEntries options c := by
  induction options using List.reverseRec with
  | nil => rfl
  | append_singleton rest last ih =>
    rw [optionNames, List.map_append, List.nodup_append] at hnames
    obtain ⟨hrest, -, hlast⟩ := hnames
    have hnew : (Settings.declared rest c).values.get? last.name = none := by
      rw [get?_eq_none_iff, mem_keys_declared]
      exact fun hmem => hlast _ hmem _ (List.mem_singleton_self _) rfl
    calc (Settings.declared (rest ++ [last]) c).values
        = (Settings.declared rest c).values.put last.name
            (last.default.resolve (c.get? last.name)) := by rw [declared_append]; rfl
      _ = declaredEntries rest c ++ [(last.name, last.default.resolve (c.get? last.name))] := by
          rw [put_of_get?_none hnew, ih hrest]
      _ = declaredEntries (rest ++ [last]) c := by
          rw [declaredEntries, declaredEntries, List.map_append]
          rfl

lemma values_resolve (hnames : (optionNames options).Nodup) :
    (Settings.resolve options c).values =
      declaredEntries options c ++ c.values.filter (·.1 ∉ optionNames options) := by
  have hother : (fun e : String × Json => !(Settings.declared options c).values.hasKey e.1) =
      fun e => decide (e.1 ∉ optionNames options) := by
    funext e
    rw [Bool.eq_iff_iff, Bool.not_eq_true', ← Bool.not_eq_true, hasKey_declared, decide_eq_true_eq]
    rfl
  have hvalues : (Settings.resolve options c).values = (Settings.declared options c).values ++
      c.values.filter fun e => !(Settings.declared options c).values.hasKey e.1 := rfl
  rw [hvalues, hother, values_declared hnames]

lemma keys_resolve (hnames : (optionNames options).Nodup) :
    (Settings.resolve options c).values.keys =
      optionNames options ++ c.values.keys.filter (· ∉ optionNames options) := by
  rw [values_resolve hnames, Entries.keys, List.map_append, Entries.keys, List.filter_map]
  exact congrArg (· ++ _) keys_declaredEntries

/-! ### Values -/

/-- A flag is on if it is supplied as true in either way. -/
lemma isTrue_iff (v : Json) : isTrue v = true ↔ v = .bool true ∨ v = .str "true" := by
  cases v with
  | bool b => simp [isTrue]
  | str s => simp [isTrue]
  | null | num | arr | obj => simp [isTrue]

/-- A value that an option has taken is one that it takes as it is. -/
lemma resolve_resolve (default : OptionDefault) (supplied : Option Json) :
    default.resolve (some (default.resolve supplied)) = default.resolve supplied := by
  cases default <;> rfl

lemma get?_merge (a b : Config) (key : String) :
    (a.merge b).get? key = (b.get? key).or (a.get? key) :=
  get?_putAll b.distinct key

lemma settingsOf_resolve (hnames : (optionNames options).Nodup) (c : Config) :
    SettingsOf options c (.resolve options c) where
  keys := keys_resolve hnames
  distinct := (Settings.resolve options c).distinct
  flag := by
    intro o ho default hdefault
    refine ⟨((c.get? o.name).map isTrue).getD default, ?_, fun hnone => ?_, fun v hv => ?_⟩
    · rw [get?_resolve hnames ho, hdefault, OptionDefault.resolve]
    · rw [hnone, Option.map_none, Option.getD_none]
    · rw [hv, Option.map_some, Option.getD_some, isTrue_iff]
  text := by
    intro o ho default hdefault
    refine ⟨((c.get? o.name).map Json.text).getD default, ?_, fun hnone => ?_, fun v hv => ?_⟩
    · rw [get?_resolve hnames ho, hdefault, OptionDefault.resolve]
    · rw [hnone, Option.map_none, Option.getD_none]
    · rw [hv, Option.map_some, Option.getD_some]
  passed := fun key hkey => get?_resolve_of_notMem hkey

/-- Resolved once, settings stay as they are. -/
lemma resolve_configOf (hnames : (optionNames options).Nodup) (c : Config) :
    Settings.resolve options (configOf (.resolve options c)) = .resolve options c := by
  have hdeclared : declaredEntries options (configOf (.resolve options c)) =
      declaredEntries options c := by
    refine List.map_congr_left fun o ho => ?_
    have hget : (configOf (.resolve options c)).get? o.name =
        some (o.default.resolve (c.get? o.name)) := get?_resolve hnames ho
    rw [hget, resolve_resolve]
  have hothers : (configOf (.resolve options c)).values.filter (·.1 ∉ optionNames options) =
      c.values.filter (·.1 ∉ optionNames options) := by
    have hnone : (declaredEntries options c).filter (·.1 ∉ optionNames options) = [] := by
      rw [List.filter_eq_nil_iff]
      intro e he hout
      have hmem : e.1 ∈ (declaredEntries options c).keys := List.mem_map_of_mem he
      rw [keys_declaredEntries] at hmem
      exact of_decide_eq_true hout hmem
    rw [values_configOf, values_resolve hnames, List.filter_append, hnone, List.nil_append,
      List.filter_filter]
    simp only [Bool.and_self]
  apply settings_ext
  rw [values_resolve hnames, hdeclared, hothers, values_resolve hnames]

/-- A later config decides the keys that it supplies and no others. -/
lemma get?_resolve_merge (hnames : (optionNames options).Nodup) (a b : Config) (key : String) :
    (Settings.resolve options (a.merge b)).get? key =
      if (b.get? key).isSome then (Settings.resolve options b).get? key
      else (Settings.resolve options a).get? key := by
  have hmerged : (a.merge b).get? key =
      if (b.get? key).isSome then b.get? key else a.get? key := by
    rw [get?_merge]
    cases b.get? key <;> rfl
  by_cases hkey : key ∈ optionNames options
  · obtain ⟨o, ho, rfl⟩ := List.mem_map.1 hkey
    rw [get?_resolve hnames ho, get?_resolve hnames ho, get?_resolve hnames ho, hmerged]
    split_ifs <;> rfl
  · rw [get?_resolve_of_notMem hkey, get?_resolve_of_notMem hkey, get?_resolve_of_notMem hkey,
      hmerged]

/-- The settings of options with distinct names, for every config: what they are, that they resolve
to themselves, and that a later config decides just the keys that it supplies. -/
theorem settings_resolution (hnames : (optionNames options).Nodup) (c : Config) :
    SettingsOf options c (.resolve options c) ∧
      Settings.resolve options (configOf (.resolve options c)) = .resolve options c ∧
      ∀ a b : Config, ∀ key, (Settings.resolve options (a.merge b)).get? key =
        if (b.get? key).isSome then (Settings.resolve options b).get? key
        else (Settings.resolve options a).get? key :=
  ⟨settingsOf_resolve hnames c, resolve_configOf hnames c, get?_resolve_merge hnames⟩

/-- An option that is no option, a number for a text, and a word for a flag. -/
def handWritten : Config := .ofEntries
  [("podTag", .int 3), ("useRealm", .str "yes"), ("projectName", .num (.int 7))]

/-- Switches the flag on. -/
def withStore : Config := .ofEntries [("useRealm", .str "true")]

theorem settings_resolution_handWritten :
    (optionNames LoopBack.options).Nodup ∧
      (Settings.resolve LoopBack.options handWritten).values.keys =
        ["projectName", "projectLicense", "primaryKeyFieldName", "useRealm", "generateDataAPI",
          "podTag"] ∧
      (Settings.resolve LoopBack.options handWritten).get? "useRealm" = some (.bool false) ∧
      (Settings.resolve LoopBack.options (handWritten.merge withStore)).get? "useRealm" =
        some (.bool true) ∧
      (Settings.resolve LoopBack.options (handWritten.merge withStore)).get? "podTag" =
        some (.int 3) := by
  have hnames : (optionNames LoopBack.options).Nodup := by decide
  obtain ⟨hsettings, -, hmerge⟩ := settings_resolution hnames handWritten
  refine ⟨hnames, hsettings.keys.trans (by decide), rfl, (hmerge _ _ _).trans rfl,
    (hmerge _ _ _).trans ?_⟩
  exact hsettings.passed "podTag" (by decide)

end ClientGen.Proofs
