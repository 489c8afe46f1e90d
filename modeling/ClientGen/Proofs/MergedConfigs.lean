import Mathlib.Data.List.DropRight
import Mathlib.Data.List.Forall2
import ClientGen.Proofs.ResolvedSettings

/-!
# Merged configs

A config merged over another decides the keys that it holds, and a key keeps the place at which it
first came. So merging is associative, and the empty config is its unit. Pairs given as texts are
read one by one: two lists of them, read as one, give the two configs merged, and of all pairs that
are no option the first one is reported.
-/

namespace ClientGen.Proofs

open Unicode

/-! ### Merging -/

section

variable {a b : Config}

lemma config_ext (hkeys : a.values.keys = b.values.keys) (hget : ∀ key, a.get? key = b.get? key) :
    a = b := by
  have hvalues : a.values = b.values := entries_ext a.distinct hkeys hget
  cases a
  cases b
  congr

lemma keys_merge (a b : Config) :
    (a.merge b).values.keys = a.values.keys ++ b.values.keys.filter (· ∉ a.values.keys) :=
  keys_putAll b.distinct

lemma merge_assoc (a b c : Config) : (a.merge b).merge c = a.merge (b.merge c) := by
  apply config_ext
  · rw [keys_merge, keys_merge, keys_merge, keys_merge, List.append_assoc, List.filter_append,
      List.filter_filter]
    congr 2
    refine List.filter_congr fun key _ => ?_
    by_cases ha : key ∈ a.values.keys <;> by_cases hb : key ∈ b.values.keys <;> simp [ha, hb]
  · intro key
    rw [get?_merge, get?_merge, get?_merge, get?_merge, Option.or_assoc]

lemma empty_merge (a : Config) : (Config.ofEntries []).merge a = a := by
  apply config_ext
  · rw [keys_merge]
    exact List.filter_eq_self.2 fun _ _ => rfl
  · intro key
    rw [get?_merge]
    exact Option.or_none

lemma merge_self (a : Config) : a.merge a = a := by
  apply config_ext
  · have hnone : a.values.keys.filter (· ∉ a.values.keys) = [] :=
      List.filter_eq_nil_iff.2 fun key hkey hout => of_decide_eq_true hout hkey
    rw [keys_merge, hnone, List.append_nil]
  · intro key
    rw [get?_merge, Option.or_self]

/-- Options set one after the other are merged all at once. -/
lemma foldl_set (entries : Entries Json) (c : Config) :
    entries.foldl (fun c e => c.set e.1 e.2) c = c.merge (.ofEntries entries) := by
  induction entries generalizing c with
  | nil => rfl
  | cons e rest ih =>
    have hset : ∀ d : Config, d.set e.1 e.2 = d.merge (.ofEntries [e]) := fun _ => rfl
    have hentries : Config.ofEntries (e :: rest) = (Config.ofEntries [e]).merge (.ofEntries rest) :=
      ih _
    rw [List.foldl_cons, ih, hset, merge_assoc, hentries]

lemma ofEntries_append (own more : Entries Json) :
    Config.ofEntries (own ++ more) = (Config.ofEntries own).merge (.ofEntries more) := by
  rw [← foldl_set, Config.ofEntries, List.foldl_append]
  rfl

end

/-! ### Pairs -/

/-- Not empty, with no blank at either end. -/
structure IsTrimmed (cs : List Char) : Prop where
  ne_nil : cs ≠ []
  first : isBlank (cs.head ne_nil) = false
  last : isBlank (cs.getLast ne_nil) = false

/-- A pair read as an option: in front of the first equals sign stands the key, perhaps between
blanks, and the value is all that follows. -/
def ReadsAs (pair : String) (option : String × String) : Prop :=
  ∃ left right : List Char,
    pair.toList = left ++ option.1.toList ++ right ++ '=' :: option.2.toList ∧
      (∀ ch ∈ left ++ right, isBlank ch = true) ∧ IsTrimmed option.1.toList ∧
      '=' ∉ option.1.toList

/-- There is no equals sign in a pair, or nothing but blanks in front of the first one. -/
def IsUnread (pair : String) : Prop :=
  '=' ∉ pair.toList ∨
    ∃ key value : List Char, pair.toList = key ++ '=' :: value ∧ ∀ ch ∈ key, isBlank ch = true

/-- The first unread pair of a list. -/
def FirstUnread (pairs : List String) (pair : String) : Prop :=
  ∃ before after, pairs = before ++ pair :: after ∧ (∀ q ∈ before, ¬IsUnread q) ∧ IsUnread pair

/-- Options with texts for their values. -/
def textOptions (options : List (String × String)) : Entries Json :=
  options.map (Prod.map id Json.str)

variable {pair : String} {pairs xs ys : List String} {option : String × String}
  {options : List (String × String)}

lemma dropWhile_eq_self {cs : List Char} (hne : cs ≠ []) (h : isBlank (cs.head hne) = false)
    (rest : List Char) : (cs ++ rest).dropWhile isBlank = cs ++ rest := by
  obtain ⟨ch, ds, rfl⟩ := List.exists_cons_of_ne_nil hne
  exact List.dropWhile_cons_of_neg (by simpa using h)

lemma trim_of_isTrimmed {left name right : List Char} (h : IsTrimmed name)
    (hblank : ∀ ch ∈ left ++ right, isBlank ch = true) :
    trim (.ofList (left ++ name ++ right)) = .ofList name := by
  obtain ⟨hleft, hright⟩ := List.forall_mem_append.1 hblank
  have hlast : name.reverse.dropWhile isBlank = name.reverse := by
    have hne : name.reverse ≠ [] := by simpa using h.ne_nil
    have hhead : isBlank (name.reverse.head hne) = false := by simpa using h.last
    simpa using dropWhile_eq_self hne hhead []
  rw [trim, String.toList_ofList, List.append_assoc, List.dropWhile_append_of_pos hleft,
    dropWhile_eq_self h.ne_nil h.first, List.reverse_append,
    List.dropWhile_append_of_pos (by simpa using hright), hlast, List.reverse_reverse]

/-- What trimming leaves of a text that is not blank. -/
lemma exists_trimmed {cs : List Char} (h : cs.all isBlank = false) :
    ∃ left right, cs = left ++ (trim (.ofList cs)).toList ++ right ∧
      (∀ ch ∈ left ++ right, isBlank ch = true) ∧ IsTrimmed (trim (.ofList cs)).toList := by
  have hmiddle : cs.dropWhile isBlank ≠ [] := by
    rw [ne_eq, List.dropWhile_eq_nil_iff, ← List.all_eq_true, h]
    exact Bool.false_ne_true
  have htrim : (trim (.ofList cs)).toList = (cs.dropWhile isBlank).rdropWhile isBlank := by
    rw [trim, String.toList_ofList, String.toList_ofList]
    rfl
  have hname : (cs.dropWhile isBlank).rdropWhile isBlank ≠ [] := by
    rw [ne_eq, List.rdropWhile_eq_nil_iff]
    intro hall
    have hhead := List.head_dropWhile_not isBlank hmiddle
    rw [hall _ (List.head_mem hmiddle)] at hhead
    cases hhead
  rw [htrim]
  refine ⟨cs.takeWhile isBlank, (cs.dropWhile isBlank).rtakeWhile isBlank, ?_, ?_, hname, ?_, ?_⟩
  · rw [List.append_assoc, List.rdropWhile_append_rtakeWhile, List.takeWhile_append_dropWhile]
  · rw [List.forall_mem_append]
    exact ⟨fun ch => List.mem_takeWhile_imp, fun ch => List.mem_rtakeWhile_imp⟩
  · rw [(List.rdropWhile_prefix isBlank _).head hname]
    exact List.head_dropWhile_not isBlank hmiddle
  · simpa using List.rdropWhile_last_not isBlank _ hname

lemma equals_notMem_of_blank {cs : List Char} (h : ∀ ch ∈ cs, isBlank ch = true) : '=' ∉ cs :=
  fun hmem => absurd (h _ hmem) (by decide)

lemma splitPair?_eq {key value : List Char} (hpair : pair.toList = key ++ '=' :: value)
    (hkey : '=' ∉ key) :
    Config.splitPair? pair =
      if key.all isBlank then none else some (trim (.ofList key), .ofList value) := by
  have hpass : ∀ ch ∈ key, (ch != '=') = true :=
    fun ch hch => bne_iff_ne.2 (ne_of_mem_of_not_mem hch hkey)
  have htake : pair.toList.takeWhile (· != '=') = key := by
    rw [hpair, List.takeWhile_append_of_pos hpass]
    exact List.append_nil _
  have hdrop : pair.toList.dropWhile (· != '=') = '=' :: value := by
    rw [hpair, List.dropWhile_append_of_pos hpass]
    rfl
  simp only [Config.splitPair?, htake, hdrop]

lemma splitPair?_of_readsAs (h : ReadsAs pair option) : Config.splitPair? pair = some option := by
  obtain ⟨left, right, hpair, hblank, htrimmed, hequals⟩ := h
  obtain ⟨hleft, hright⟩ := List.forall_mem_append.1 hblank
  have hkey : '=' ∉ left ++ option.1.toList ++ right := by
    simp only [List.mem_append, not_or]
    exact ⟨⟨equals_notMem_of_blank hleft, hequals⟩, equals_notMem_of_blank hright⟩
  have hshown : (left ++ option.1.toList ++ right).all isBlank = false := by
    rw [List.all_eq_false]
    refine ⟨_, List.mem_append_left _ (List.mem_append_right _ (List.head_mem htrimmed.ne_nil)), ?_⟩
    rw [htrimmed.first]
    exact Bool.false_ne_true
  rw [splitPair?_eq hpair hkey, hshown, if_neg Bool.false_ne_true, trim_of_isTrimmed htrimmed hblank,
    String.ofList_toList, String.ofList_toList]

lemma splitPair?_of_isUnread (h : IsUnread pair) : Config.splitPair? pair = none := by
  rcases h with h | ⟨key, value, hpair, hblank⟩
  · have hdrop : pair.toList.dropWhile (· != '=') = [] := by
      rw [List.dropWhile_eq_nil_iff]
      exact fun ch hch => bne_iff_ne.2 (ne_of_mem_of_not_mem hch h)
    simp only [Config.splitPair?, hdrop]
  · rw [splitPair?_eq hpair (equals_notMem_of_blank hblank), if_pos (List.all_eq_true.2 hblank)]

lemma exists_readsAs (h : ¬IsUnread pair) : ∃ option, ReadsAs pair option := by
  obtain ⟨hequals, hshown⟩ := not_or.1 h
  obtain ⟨key, value, hpair, hkey⟩ := List.eq_append_cons_of_mem (not_not.1 hequals)
  have hall : key.all isBlank = false := by
    rw [Bool.eq_false_iff]
    exact fun hall => hshown ⟨key, value, hpair, List.all_eq_true.1 hall⟩
  obtain ⟨left, right, hsides, hblank, htrimmed⟩ := exists_trimmed hall
  refine ⟨(trim (.ofList key), .ofList value), left, right, ?_, hblank, htrimmed, fun hname => ?_⟩
  · rw [← hsides, String.toList_ofList, hpair]
  · rw [hsides] at hkey
    exact hkey (List.mem_append_left _ (List.mem_append_right _ hname))

/-- One pair more. -/
def setPair (c : Config) (pair : String) : Except Failure Config :=
  match Config.splitPair? pair with
  | some (key, value) => .ok (c.set key (.str value))
  | none => .error (.invalidOption pair)

lemma ofPairs_eq (pairs : List String) :
    Config.ofPairs pairs = pairs.foldlM setPair (.ofEntries []) := rfl

lemma setPair_of_readsAs (h : ReadsAs pair option) (c : Config) :
    setPair c pair = .ok (c.merge (.ofEntries (textOptions [option]))) := by
  rw [setPair, splitPair?_of_readsAs h]
  rfl

lemma setPair_of_isUnread (h : IsUnread pair) (c : Config) :
    setPair c pair = .error (.invalidOption pair) := by
  rw [setPair, splitPair?_of_isUnread h]

lemma foldlM_setPair (h : List.Forall₂ ReadsAs pairs options) (c : Config) :
    pairs.foldlM setPair c = .ok (c.merge (.ofEntries (textOptions options))) := by
  induction h generalizing c with
  | nil => rfl
  | @cons pair option rest options hpair _ ih =>
    have hoptions : textOptions (option :: options) = textOptions [option] ++ textOptions options :=
      rfl
    rw [List.foldlM_cons, setPair_of_readsAs hpair, hoptions, ofEntries_append, ← merge_assoc]
    exact ih _

lemma exists_options (h : ∀ q ∈ pairs, ¬IsUnread q) :
    ∃ options, List.Forall₂ ReadsAs pairs options := by
  induction pairs with
  | nil => exact ⟨[], .nil⟩
  | cons q rest ih =>
    obtain ⟨hq, hrest⟩ := List.forall_mem_cons.1 h
    obtain ⟨option, hoption⟩ := exists_readsAs hq
    obtain ⟨options, hoptions⟩ := ih hrest
    exact ⟨option :: options, .cons hoption hoptions⟩

/-- The pairs in front of the first unread one do not matter, nor do those behind it. -/
lemma FirstUnread.foldlM_setPair (h : FirstUnread pairs pair) (c : Config) :
    pairs.foldlM setPair c = .error (.invalidOption pair) := by
  obtain ⟨before, after, rfl, hbefore, hpair⟩ := h
  obtain ⟨options, hoptions⟩ := exists_options hbefore
  rw [List.foldlM_append, Proofs.foldlM_setPair hoptions]
  change List.foldlM setPair _ (pair :: after) = _
  rw [List.foldlM_cons, setPair_of_isUnread hpair]
  rfl

lemma forall_or_firstUnread (pairs : List String) :
    (∀ q ∈ pairs, ¬IsUnread q) ∨ ∃ pair, FirstUnread pairs pair := by
  induction pairs with
  | nil => exact .inl fun _ hq => absurd hq List.not_mem_nil
  | cons q rest ih =>
    by_cases hq : IsUnread q
    · exact .inr ⟨q, [], rest, rfl, fun _ hx => absurd hx List.not_mem_nil, hq⟩
    · rcases ih with hrest | ⟨pair, before, after, rfl, hbefore, hpair⟩
      · exact .inl (List.forall_mem_cons.2 ⟨hq, hrest⟩)
      · exact .inr ⟨pair, q :: before, after, rfl, List.forall_mem_cons.2 ⟨hq, hbefore⟩, hpair⟩

lemma ofPairs_of_readsAs (h : List.Forall₂ ReadsAs pairs options) :
    Config.ofPairs pairs = .ok (.ofEntries (textOptions options)) := by
  rw [ofPairs_eq, foldlM_setPair h, empty_merge]

/-- Pairs give a config just when each of them is an option, and then the config of all options. -/
lemma ofPairs_eq_ok_iff {c : Config} :
    Config.ofPairs pairs = .ok c ↔
      ∃ options, List.Forall₂ ReadsAs pairs options ∧ c = .ofEntries (textOptions options) := by
  constructor
  · intro h
    rcases forall_or_firstUnread pairs with hall | ⟨pair, hpair⟩
    · obtain ⟨options, hoptions⟩ := exists_options hall
      rw [ofPairs_of_readsAs hoptions] at h
      exact ⟨options, hoptions, (Except.ok.inj h).symm⟩
    · rw [ofPairs_eq, hpair.foldlM_setPair] at h
      cases h
  · rintro ⟨options, hoptions, rfl⟩
    exact ofPairs_of_readsAs hoptions

lemma ofPairs_append {a b : Config} (hxs : Config.ofPairs xs = .ok a)
    (hys : Config.ofPairs ys = .ok b) : Config.ofPairs (xs ++ ys) = .ok (a.merge b) := by
  obtain ⟨options, hoptions, rfl⟩ := ofPairs_eq_ok_iff.1 hys
  rw [ofPairs_eq, List.foldlM_append, ← ofPairs_eq, hxs]
  exact foldlM_setPair hoptions a

/-- Where one of two lists is refused, the first unread pair of both is reported. -/
lemma ofPairs_append_error {failure : Failure}
    (h : Config.ofPairs xs = .error failure ∨ Config.ofPairs ys = .error failure) :
    ∃ pair, FirstUnread (xs ++ ys) pair ∧
      Config.ofPairs (xs ++ ys) = .error (.invalidOption pair) := by
  rcases forall_or_firstUnread (xs ++ ys) with hall | ⟨pair, hpair⟩
  · obtain ⟨hxs, hys⟩ := List.forall_mem_append.1 hall
    obtain ⟨own, hown⟩ := exists_options hxs
    obtain ⟨more, hmore⟩ := exists_options hys
    rw [ofPairs_of_readsAs hown, ofPairs_of_readsAs hmore] at h
    rcases h with h | h <;> cases h
  · exact ⟨pair, hpair, hpair.foldlM_setPair _⟩

/-- Configs form a monoid under merging, in which every config is idempotent: the keys of the first
keep their places, the new ones follow, and the later config decides all that it holds. Pairs are
options just when each of them reads as one, and then they give the config of these options in
order. So two lists of them in a row give the two configs merged, and if one of the lists is refused
the first unread pair of both is reported. -/
theorem merged_configs :
    (∀ a b c : Config, (a.merge b).merge c = a.merge (b.merge c)) ∧
      (∀ a : Config, (Config.ofEntries []).merge a = a ∧ a.merge (.ofEntries []) = a ∧
        a.merge a = a) ∧
      (∀ a b : Config,
        (a.merge b).values.keys =
          a.values.keys ++ b.values.keys.filter (· ∉ a.values.keys) ∧
        ∀ key, (a.merge b).get? key =
          if (b.get? key).isSome then b.get? key else a.get? key) ∧
      (∀ pairs c, Config.ofPairs pairs = .ok c ↔
        ∃ options, List.Forall₂ ReadsAs pairs options ∧ c = .ofEntries (textOptions options)) ∧
      (∀ xs ys a b, Config.ofPairs xs = .ok a → Config.ofPairs ys = .ok b →
        Config.ofPairs (xs ++ ys) = .ok (a.merge b)) ∧
      ∀ xs ys failure, Config.ofPairs xs = .error failure ∨ Config.ofPairs ys = .error failure →
        ∃ pair, FirstUnread (xs ++ ys) pair ∧
          Config.ofPairs (xs ++ ys) = .error (.invalidOption pair) := by
  refine ⟨merge_assoc, fun a => ⟨empty_merge a, rfl, merge_self a⟩, fun a b => ⟨keys_merge a b, ?_⟩,
    fun _ _ => ofPairs_eq_ok_iff, fun _ _ _ _ => ofPairs_append, fun _ _ _ => ofPairs_append_error⟩
  intro key
  rw [get?_merge]
  cases b.get? key <;> rfl

def givenPairs : List String := ["podTag=3", "\t projectName =Pets = Kit"]

def laterPairs : List String := ["useRealm=", "podTag=4"]

/-- The second one has a key of blanks. -/
def faultyPairs : List String := ["useRealm", " =true"]

theorem merged_configs_givenPairs :
    ∃ a b, Config.ofPairs givenPairs = .ok a ∧ Config.ofPairs laterPairs = .ok b ∧
      Config.ofPairs (givenPairs ++ laterPairs) = .ok (a.merge b) ∧
      (a.merge b).values.keys = ["podTag", "projectName", "useRealm"] ∧
      (a.merge b).get? "podTag" = some (.str "4") ∧
      (a.merge b).get? "projectName" = some (.str "Pets = Kit") ∧
      FirstUnread (givenPairs ++ faultyPairs) "useRealm" := by
  have hgiven : Config.ofPairs givenPairs =
      .ok (.ofEntries [("podTag", .str "3"), ("projectName", .str "Pets = Kit")]) := by rfl
  have hlater : Config.ofPairs laterPairs =
      .ok (.ofEntries [("useRealm", .str ""), ("podTag", .str "4")]) := rfl
  have hfaulty : Config.ofPairs faultyPairs = .error (.invalidOption "useRealm") := rfl
  have hboth : Config.ofPairs (givenPairs ++ faultyPairs) =
      .error (.invalidOption "useRealm") := rfl
  obtain ⟨-, -, hmerged, -, happend, herror⟩ := merged_configs
  obtain ⟨hkeys, hget⟩ := hmerged
    (.ofEntries [("podTag", .str "3"), ("projectName", .str "Pets = Kit")])
    (.ofEntries [("useRealm", .str ""), ("podTag", .str "4")])
  refine ⟨_, _, hgiven, hlater, happend _ _ _ _ hgiven hlater, hkeys.trans (by decide),
    (hget _).trans rfl, (hget _).trans rfl, ?_⟩
  obtain ⟨pair, hpair, hreported⟩ := herror givenPairs faultyPairs _ (.inr hfaulty)
  rw [hboth] at hreported
  cases hreported
  exact hpair

end ClientGen.Proofs
