import Mathlib.Data.List.Induction
import Mathlib.Data.List.Nodup
import ClientGen.Manifest

/-!
# Histories of manifests

A manifest is what a history of additions and removals leaves. An entry is listed while its last
addition is later than its last removal, and its place among the others is that of the addition
which made it present: another addition of it moves nothing, an addition after a removal moves it to
the end.
-/

namespace ClientGen.Proofs

inductive ManifestChange
  | add (e : ManifestEntry)
  | remove (e : ManifestEntry)

def ManifestChange.apply (m : Manifest) : ManifestChange → Manifest
  | .add e => m.add e
  | .remove e => m.remove e

/-- A manifest collected from a list and then changed step by step. -/
def manifestAfter (initial : List ManifestEntry) (changes : List ManifestChange) : Manifest :=
  changes.foldl ManifestChange.apply (.ofList initial)

/-- The changes in order, where each entry of the list in front counts as added. -/
def historyOf (initial : List ManifestEntry) (changes : List ManifestChange) :
    List ManifestChange :=
  initial.map .add ++ changes

/-- Some addition of an entry is later than all its removals. -/
def LastAdded (history : List ManifestChange) (e : ManifestEntry) : Prop :=
  ∃ i : Nat, history[i]? = some (.add e) ∧ ∀ j : Nat, history[j]? = some (.remove e) → j < i

/-- The change at which an entry became present for the last time: it was absent before, is added
there and not removed since. -/
structure EnteredAt (history : List ManifestChange) (e : ManifestEntry) (i : Nat) : Prop where
  added : history[i]? = some (.add e)
  kept : ∀ j : Nat, history[j]? = some (.remove e) → j < i
  absent : ¬LastAdded (history.take i) e

/-- What a manifest has to do with the changes that led to it. -/
structure Records (history : List ManifestChange) (m : Manifest) : Prop where
  distinct : m.entries.Nodup
  listed : ∀ e, e ∈ m.entries ↔ LastAdded history e
  ordered : m.entries.Pairwise fun e f =>
    ∃ i j, i < j ∧ EnteredAt history e i ∧ EnteredAt history f j

/-- What one more change does to a manifest: adding what is listed moves nothing, adding what was just
removed puts it last, and a removal tells whether the entry was listed and leaves those around it. -/
structure Responds (m : Manifest) (e : ManifestEntry) : Prop where
  again : e ∈ m.entries → m.add e = m
  moved : ((m.remove e).add e).entries = (m.remove e).entries ++ [e]
  told : m.removes e = true ↔ e ∈ m.entries
  missing : e ∉ m.entries → m.remove e = m
  others : ∀ before after, m.entries = before ++ e :: after →
    (m.remove e).entries = before ++ after

variable {history : List ManifestChange} {c d : ManifestChange} {m : Manifest}
  {e x : ManifestEntry} {i j : Nat}

/-! ### One change more -/

lemma getElem?_concat_eq_some :
    (history ++ [c])[i]? = some d ↔ history[i]? = some d ∨ i = history.length ∧ c = d := by
  by_cases hi : i < history.length
  · rw [List.getElem?_append_left hi]
    exact ⟨.inl, fun h => h.resolve_right fun hlast => Nat.ne_of_lt hi hlast.1⟩
  · rw [List.getElem?_append_right (Nat.not_lt.1 hi), List.getElem?_singleton,
      List.getElem?_eq_none (Nat.not_lt.1 hi)]
    have hlast : i - history.length = 0 ↔ i = history.length := by omega
    simp [hlast]

lemma lastAdded_add_iff :
    LastAdded (history ++ [.add e]) x ↔ x = e ∨ LastAdded history x := by
  simp only [LastAdded, getElem?_concat_eq_some, ManifestChange.add.injEq, reduceCtorEq, and_false,
    or_false]
  constructor
  · rintro ⟨i, hi | ⟨-, rfl⟩, hkept⟩
    · exact .inr ⟨i, hi, hkept⟩
    · exact .inl rfl
  · rintro (rfl | ⟨i, hi, hkept⟩)
    · exact ⟨history.length, .inr ⟨rfl, rfl⟩, fun j hj => (List.getElem?_eq_some_iff.1 hj).1⟩
    · exact ⟨i, .inl hi, hkept⟩

lemma lastAdded_remove_iff :
    LastAdded (history ++ [.remove e]) x ↔ x ≠ e ∧ LastAdded history x := by
  simp only [LastAdded, getElem?_concat_eq_some, ManifestChange.remove.injEq, reduceCtorEq,
    and_false, or_false]
  constructor
  · rintro ⟨i, hi, hkept⟩
    refine ⟨?_, i, hi, fun j hj => hkept j (.inl hj)⟩
    rintro rfl
    have hlast := hkept history.length (.inr ⟨rfl, rfl⟩)
    have hbound := (List.getElem?_eq_some_iff.1 hi).1
    omega
  · rintro ⟨hne, i, hi, hkept⟩
    refine ⟨i, hi, fun j hj => ?_⟩
    rcases hj with hj | ⟨-, rfl⟩
    · exact hkept j hj
    · exact absurd rfl hne

lemma EnteredAt.lt_length (h : EnteredAt history x i) : i < history.length :=
  (List.getElem?_eq_some_iff.1 h.added).1

/-- No change but the removal of an entry sees to its place. -/
lemma EnteredAt.concat (h : EnteredAt history x i) (hc : c ≠ .remove x) :
    EnteredAt (history ++ [c]) x i where
  added := getElem?_concat_eq_some.2 (.inl h.added)
  kept := by
    intro j hj
    rcases getElem?_concat_eq_some.1 hj with hj | ⟨-, rfl⟩
    · exact h.kept j hj
    · exact absurd rfl hc
  absent := by
    rw [List.take_append_of_le_length (Nat.le_of_lt h.lt_length)]
    exact h.absent

lemma enteredAt_length (h : ¬LastAdded history e) :
    EnteredAt (history ++ [.add e]) e history.length where
  added := getElem?_concat_eq_some.2 (.inr ⟨rfl, rfl⟩)
  kept := by
    intro j hj
    rcases getElem?_concat_eq_some.1 hj with hj | ⟨-, hother⟩
    · exact (List.getElem?_eq_some_iff.1 hj).1
    · cases hother
  absent := by rwa [List.take_left]

lemma LastAdded.exists_enteredAt (h : LastAdded history x) : ∃ i, EnteredAt history x i := by
  induction history using List.reverseRec with
  | nil =>
    obtain ⟨i, hi, -⟩ := h
    cases hi
  | append_singleton history c ih =>
    cases c with
    | add e =>
      by_cases hx : LastAdded history x
      · obtain ⟨i, hi⟩ := ih hx
        exact ⟨i, hi.concat nofun⟩
      · obtain rfl := (lastAdded_add_iff.1 h).resolve_right hx
        exact ⟨_, enteredAt_length hx⟩
    | remove e =>
      obtain ⟨hne, hx⟩ := lastAdded_remove_iff.1 h
      obtain ⟨i, hi⟩ := ih hx
      refine ⟨i, hi.concat fun heq => hne ?_⟩
      cases heq
      rfl

/-- An entry cannot become present while it is. -/
lemma EnteredAt.not_before (hi : EnteredAt history x i) (hj : EnteredAt history x j) : ¬i < j := by
  intro hlt
  refine hj.absent ⟨i, ?_, fun k hk => ?_⟩
  · rw [List.getElem?_take_of_lt hlt]
    exact hi.added
  · rw [List.getElem?_take] at hk
    split_ifs at hk
    exact hi.kept k hk

lemma EnteredAt.eq (hi : EnteredAt history x i) (hj : EnteredAt history x j) : i = j :=
  Nat.le_antisymm (Nat.not_lt.1 (hj.not_before hi)) (Nat.not_lt.1 (hi.not_before hj))

/-! ### What the operations do -/

lemma notMem_remove (m : Manifest) (e : ManifestEntry) : e ∉ (m.remove e).entries :=
  fun h => (Manifest.mem_remove.1 h).2 rfl

/-- The entries around a removed one stay as they are. -/
lemma entries_remove {before after : List ManifestEntry} (hm : m.entries.Nodup)
    (h : m.entries = before ++ e :: after) : (m.remove e).entries = before ++ after := by
  have hout : e ∉ before ++ after := by
    rw [h, List.nodup_middle] at hm
    exact (List.nodup_cons.1 hm).1
  rw [Manifest.remove, h, List.filter_append, List.filter_cons_of_neg (by simp), ← List.filter_append]
  exact congrArg Manifest.entries (Manifest.remove_of_notMem (m := ⟨before ++ after⟩) hout)

lemma removes_iff (m : Manifest) (e : ManifestEntry) : m.removes e = true ↔ e ∈ m.entries := by
  rw [Manifest.removes, bne_iff_ne, ne_eq, Manifest.remove, List.length_filter_eq_length_iff]
  simp

/-! ### Histories -/

lemma Records.add (h : Records history m) (e : ManifestEntry) :
    Records (history ++ [.add e]) (m.add e) := by
  have hlisted : ∀ x, x ∈ (m.add e).entries ↔ LastAdded (history ++ [.add e]) x := by
    intro x
    rw [Manifest.mem_add, h.listed, lastAdded_add_iff, or_comm]
  have hordered : m.entries.Pairwise fun x y =>
      ∃ i j, i < j ∧ EnteredAt (history ++ [.add e]) x i ∧ EnteredAt (history ++ [.add e]) y j :=
    h.ordered.imp fun ⟨i, j, hlt, hi, hj⟩ => ⟨i, j, hlt, hi.concat nofun, hj.concat nofun⟩
  by_cases he : e ∈ m.entries
  · rw [Manifest.add_of_mem he] at hlisted ⊢
    exact ⟨h.distinct, hlisted, hordered⟩
  · have hentries := Manifest.entries_add_of_notMem he
    refine ⟨?_, hlisted, ?_⟩
    · rw [hentries, List.nodup_append]
      refine ⟨h.distinct, List.nodup_singleton e, ?_⟩
      rintro x hx y hy rfl
      exact he (List.mem_singleton.1 hy ▸ hx)
    · rw [hentries, List.pairwise_append]
      refine ⟨hordered, List.pairwise_singleton _ _, fun x hx y hy => ?_⟩
      obtain rfl := List.mem_singleton.1 hy
      obtain ⟨i, hi⟩ := ((h.listed x).1 hx).exists_enteredAt
      exact ⟨i, _, hi.lt_length, hi.concat nofun, enteredAt_length (mt (h.listed y).2 he)⟩

lemma Records.remove (h : Records history m) (e : ManifestEntry) :
    Records (history ++ [.remove e]) (m.remove e) where
  distinct := h.distinct.filter _
  listed := by
    intro x
    rw [Manifest.mem_remove, h.listed, lastAdded_remove_iff, and_comm]
  ordered := by
    have hne : ∀ x ∈ (m.remove e).entries, ManifestChange.remove e ≠ .remove x := by
      rintro x hx heq
      cases heq
      exact notMem_remove m e hx
    refine (h.ordered.filter _).imp_of_mem fun hx hy ⟨i, j, hlt, hi, hj⟩ => ?_
    exact ⟨i, j, hlt, hi.concat (hne _ hx), hj.concat (hne _ hy)⟩

lemma Records.step (h : Records history m) (c : ManifestChange) :
    Records (history ++ [c]) (c.apply m) := by
  cases c with
  | add e => exact h.add e
  | remove e => exact h.remove e

lemma records_foldl (history : List ManifestChange) :
    Records history (history.foldl ManifestChange.apply {}) := by
  induction history using List.reverseRec with
  | nil =>
    refine ⟨List.nodup_nil, fun e => iff_of_false List.not_mem_nil ?_, .nil⟩
    rintro ⟨i, hi, -⟩
    cases hi
  | append_singleton history c ih =>
    rw [List.foldl_append]
    exact ih.step c

lemma manifestAfter_eq (initial : List ManifestEntry) (changes : List ManifestChange) :
    manifestAfter initial changes = (historyOf initial changes).foldl ManifestChange.apply {} := by
  rw [historyOf, List.foldl_append, List.foldl_map]
  rfl

/-- After every history of a manifest each of its entries is listed once: listed are those whose last
addition is later than their last removal, in the order of the changes at which they became present,
and there is one such change for each. -/
theorem manifest_of_history (initial : List ManifestEntry) (changes : List ManifestChange) :
    Records (historyOf initial changes) (manifestAfter initial changes) ∧
      (∀ e i j, EnteredAt (historyOf initial changes) e i →
        EnteredAt (historyOf initial changes) e j → i = j) ∧
      ∀ e, Responds (manifestAfter initial changes) e := by
  have hrecords : Records (historyOf initial changes) (manifestAfter initial changes) := by
    rw [manifestAfter_eq]
    exact records_foldl _
  refine ⟨hrecords, fun _ _ _ => EnteredAt.eq, fun e => ?_⟩
  exact {
    again := Manifest.add_of_mem
    moved := Manifest.entries_add_of_notMem (notMem_remove _ e)
    told := removes_iff _ e
    missing := Manifest.remove_of_notMem
    others := fun _ _ => entries_remove hrecords.distinct }

def modelsFile : ManifestEntry := ⟨"Models.tera", "Classes", "Models.swift"⟩

def apisFile : ManifestEntry := ⟨"APIs.tera", "Classes", "APIs.swift"⟩

/-- Writes the same file as `modelsFile`. -/
def otherModelsFile : ManifestEntry := { modelsFile with template := "MoyaModels.tera" }

def swappedModels : List ManifestChange :=
  [.remove modelsFile, .add otherModelsFile, .add apisFile, .add modelsFile]

theorem manifest_of_history_swappedModels :
    (manifestAfter [modelsFile, apisFile] swappedModels).entries =
        [apisFile, otherModelsFile, modelsFile] ∧
      (∀ i, EnteredAt (historyOf [modelsFile, apisFile] swappedModels) modelsFile i ↔ i = 5) ∧
      (manifestAfter [modelsFile, apisFile] swappedModels).add apisFile =
        manifestAfter [modelsFile, apisFile] swappedModels ∧
      ((manifestAfter [modelsFile, apisFile] swappedModels).remove otherModelsFile).entries =
        [apisFile, modelsFile] ∧
      (manifestAfter [modelsFile] swappedModels).remove ⟨"", "Classes", "APIs.swift"⟩ =
        manifestAfter [modelsFile] swappedModels := by
  have hlisted : (manifestAfter [modelsFile, apisFile] swappedModels).entries =
      [apisFile, otherModelsFile, modelsFile] := by decide
  obtain ⟨-, hunique, hresponds⟩ := manifest_of_history [modelsFile, apisFile] swappedModels
  have hentered : EnteredAt (historyOf [modelsFile, apisFile] swappedModels) modelsFile 5 := by
    refine ⟨rfl, fun j hj => ?_, fun hlast => ?_⟩
    · have hbound : j < 6 := (List.getElem?_eq_some_iff.1 hj).1
      by_contra hlate
      obtain rfl : j = 5 := by omega
      cases hj
    · have hearlier := (manifest_of_history [modelsFile, apisFile] (swappedModels.take 3)).1
      exact absurd ((hearlier.listed modelsFile).2 hlast) (by decide)
  refine ⟨hlisted, fun i => ⟨fun hi => hunique _ _ _ hi hentered, fun hi => hi ▸ hentered⟩,
    (hresponds apisFile).again (by decide), ?_, ?_⟩
  · exact (hresponds otherModelsFile).others [apisFile] [modelsFile] hlisted
  · exact ((manifest_of_history [modelsFile] swappedModels).2.2 _).missing (by decide)

end ClientGen.Proofs
