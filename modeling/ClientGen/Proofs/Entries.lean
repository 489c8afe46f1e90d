import Mathlib.Data.List.Basic
import Mathlib.Tactic.Common
import ClientGen.Json.Value

/-!
# Entries by key

What a list of entries holds under a key, and what it holds once others are written over it: a key
keeps its place and takes the last value written for it, and no other key sees the change.
-/

namespace ClientGen.Proofs

variable {α : Type} {entries own more : Entries α}

lemma mem_of_get?_eq_some {key : String} {value : α} (h : entries.get? key = some value) :
    (key, value) ∈ entries := by
  obtain ⟨⟨k, v⟩, hf, rfl⟩ := Option.map_eq_some_iff.1 h
  have hk : k = key := by simpa using List.find?_some hf
  exact hk ▸ List.mem_of_find?_eq_some hf

lemma get?_eq_none_iff {key : String} : entries.get? key = none ↔ key ∉ entries.keys := by
  simp only [Entries.get?, Entries.keys, Option.map_eq_none_iff, List.find?_eq_none, List.mem_map,
    beq_iff_eq, not_exists, not_and]

/-- With distinct keys, writing a key replaces its entry and no other. -/
lemma mem_put_iff (h : entries.keys.Nodup) {key k : String} {value v : α} :
    (k, v) ∈ entries.put key value ↔ k = key ∧ v = value ∨ k ≠ key ∧ (k, v) ∈ entries := by
  induction entries with
  | nil => simp [Entries.put]
  | cons e rest ih =>
    obtain ⟨k', v'⟩ := e
    have hrest := ih (List.nodup_cons.1 h).2
    have hk' : k' ∉ Entries.keys rest := (List.nodup_cons.1 h).1
    by_cases hk : k' = key
    · subst hk
      have hv : ∀ v, (k', v) ∉ rest := fun v hm => hk' (List.mem_map.2 ⟨_, hm, rfl⟩)
      simp only [Entries.put, beq_self_eq_true, if_true, List.mem_cons, Prod.mk.injEq]
      constructor
      · rintro (⟨rfl, rfl⟩ | hm)
        · exact .inl ⟨rfl, rfl⟩
        · exact .inr ⟨fun hkk => hv v (hkk ▸ hm), .inr hm⟩
      · rintro (⟨rfl, rfl⟩ | ⟨hne, ⟨rfl, -⟩ | hm⟩)
        · exact .inl ⟨rfl, rfl⟩
        · exact absurd rfl hne
        · exact .inr hm
    · have hb : (k' == key) = false := by simpa using hk
      simp only [Entries.put, hb, Bool.false_eq_true, if_false, List.mem_cons, Prod.mk.injEq, hrest]
      constructor
      · rintro (⟨rfl, rfl⟩ | ⟨rfl, rfl⟩ | ⟨hne, hm⟩)
        · exact .inr ⟨hk, .inl ⟨rfl, rfl⟩⟩
        · exact .inl ⟨rfl, rfl⟩
        · exact .inr ⟨hne, .inr hm⟩
      · rintro (⟨rfl, rfl⟩ | ⟨hne, ⟨rfl, rfl⟩ | hm⟩)
        · exact .inr (.inl ⟨rfl, rfl⟩)
        · exact .inl ⟨rfl, rfl⟩
        · exact .inr (.inr ⟨hne, hm⟩)

lemma map_put_of_get? {β : Type} {f : String × α → β} {key : String} {old value : α}
    (h : entries.get? key = some old) (hf : f (key, value) = f (key, old)) :
    (entries.put key value).map f = entries.map f := by
  induction entries with
  | nil => cases h
  | cons e rest ih =>
    obtain ⟨k, v⟩ := e
    by_cases hk : k = key
    · subst hk
      obtain rfl : v = old := by simpa [Entries.get?] using h
      simp [Entries.put, hf]
    · have hrest : Entries.get? rest key = some old := by simpa [Entries.get?, hk] using h
      simp [Entries.put, hk, ih hrest]

lemma put_of_get?_none {key : String} {value : α} (h : entries.get? key = none) :
    entries.put key value = entries ++ [(key, value)] := by
  induction entries with
  | nil => rfl
  | cons e rest ih =>
    obtain ⟨k, v⟩ := e
    have hk : k ≠ key := by
      rintro rfl
      exact absurd h (by simp [Entries.get?])
    have hrest : Entries.get? rest key = none := by simpa [Entries.get?, hk] using h
    simp [Entries.put, hk, ih hrest]

/-! ### Entries over others -/

lemma get?_put (entries : Entries α) (key other : String) (value : α) :
    (entries.put key value).get? other =
      if other = key then some value else entries.get? other := by
  split_ifs with h
  · rw [h, Entries.get?_put_self]
  · exact Entries.get?_put_of_ne entries value h

lemma get?_cons (e : String × α) (rest : Entries α) (key : String) :
    Entries.get? (e :: rest) key = if key = e.1 then some e.2 else rest.get? key := by
  by_cases h : key = e.1 <;> simp [Entries.get?, h, Ne.symm]

/-- Entries of distinct keys hide those below them and no others. -/
lemma get?_putAll (h : more.keys.Nodup) (key : String) :
    (entries.putAll more).get? key = (more.get? key).or (entries.get? key) := by
  induction more generalizing entries with
  | nil => rfl
  | cons e rest ih =>
    obtain ⟨hnew, hrest⟩ := List.nodup_cons.1 h
    have hput : entries.putAll (e :: rest) = (entries.put e.1 e.2).putAll rest := rfl
    rw [hput, ih hrest, get?_put, get?_cons]
    split_ifs with hkey
    · rw [hkey, get?_eq_none_iff.2 hnew, Option.none_or, Option.some_or]
    · rfl

lemma putAll_append (entries own more : Entries α) :
    (entries.putAll own).putAll more = entries.putAll (own ++ more) :=
  List.foldl_append.symm

lemma get?_of_mem (h : entries.keys.Nodup) {e : String × α} (he : e ∈ entries) :
    entries.get? e.1 = some e.2 := by
  induction entries with
  | nil => cases he
  | cons first rest ih =>
    obtain ⟨hnew, hrest⟩ := List.nodup_cons.1 h
    rw [get?_cons]
    rcases List.mem_cons.1 he with rfl | he
    · rw [if_pos rfl]
    · have hne : e.1 ≠ first.1 := by
        intro heq
        have hmem : e.1 ∈ Entries.keys rest := List.mem_map_of_mem he
        rw [heq] at hmem
        exact hnew hmem
      rw [if_neg hne, ih hrest he]

/-- Known keys keep their places, and the others follow in order. -/
lemma keys_putAll (h : more.keys.Nodup) :
    (entries.putAll more).keys = entries.keys ++ more.keys.filter (· ∉ entries.keys) := by
  induction more generalizing entries with
  | nil => exact (List.append_nil _).symm
  | cons e rest ih =>
    obtain ⟨hnew, hrest⟩ := List.nodup_cons.1 h
    have hput : entries.putAll (e :: rest) = (entries.put e.1 e.2).putAll rest := rfl
    have hkeys : Entries.keys (e :: rest) = e.1 :: Entries.keys rest := rfl
    rw [hput, ih hrest, Entries.keys_put, hkeys, List.filter_cons]
    by_cases hknown : e.1 ∈ entries.keys
    · simp only [hknown, if_true, not_true_eq_false, decide_false, Bool.false_eq_true, if_false]
    · have hothers : (Entries.keys rest).filter (· ∉ entries.keys ++ [e.1]) =
          (Entries.keys rest).filter (· ∉ entries.keys) := by
        refine List.filter_congr fun key hkey => ?_
        have hne : key ≠ e.1 := by
          rintro rfl
          exact hnew hkey
        simp [hne]
      simp only [hknown, if_false, hothers, not_false_eq_true, decide_true, if_true,
        List.append_assoc, List.singleton_append]

/-- Entries of distinct keys are told by their keys, in order, and by what they hold under them. -/
lemma entries_ext (h : own.keys.Nodup) (hkeys : own.keys = more.keys)
    (hget : ∀ key, own.get? key = more.get? key) : own = more := by
  induction own generalizing more with
  | nil => exact (List.map_eq_nil_iff.1 hkeys.symm).symm
  | cons e rest ih =>
    cases more with
    | nil => cases hkeys
    | cons e' rest' =>
      obtain ⟨hkey, hrest⟩ : e.1 = e'.1 ∧ Entries.keys rest = Entries.keys rest' :=
        List.cons_eq_cons.1 hkeys
      obtain ⟨hnew, hnodup⟩ : e.1 ∉ Entries.keys rest ∧ (Entries.keys rest).Nodup :=
        List.nodup_cons.1 h
      have hvalue : some e.2 = some e'.2 := by
        have hself := hget e.1
        rwa [get?_cons, get?_cons, if_pos rfl, if_pos hkey] at hself
      have htail : rest = rest' := by
        refine ih hnodup hrest fun key => ?_
        by_cases hk : key = e.1
        · rw [hk, get?_eq_none_iff.2 hnew, get?_eq_none_iff.2 (hrest ▸ hnew)]
        · have hother := hget key
          rwa [get?_cons, get?_cons, if_neg hk, if_neg (hkey ▸ hk)] at hother
      rw [Prod.ext hkey (Option.some.inj hvalue), htail]

end ClientGen.Proofs
