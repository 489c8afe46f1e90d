import Mathlib.Tactic.Common
import Mathlib.Data.List.TakeWhile
import ClientGen.Api.Build
import ClientGen.Api.Grouping

/-!
# Path templates and slashes

No placeholder crosses a slash, so a path may be normalized segment by segment. When neither the
syntax of the target nor its names contain a slash, normalizing keeps every slash where it is, and
the first segment of the normalized path is the normalized first segment.
-/

namespace ClientGen.Proofs

section Lists

variable {α : Type} {p : α → Bool} {x : α}

lemma takeWhile_append_stop (hx : p x = false) (xs rest : List α) :
    (xs ++ x :: rest).takeWhile p = xs.takeWhile p := by
  induction xs with
  | nil => simp [hx]
  | cons y ys ih => simp only [List.cons_append, List.takeWhile_cons, ih]

lemma dropWhile_append_stop (hx : p x = false) (xs rest : List α) :
    (xs ++ x :: rest).dropWhile p = xs.dropWhile p ++ x :: rest := by
  induction xs with
  | nil => simp [hx]
  | cons y ys ih =>
    simp only [List.cons_append, List.dropWhile_cons, ih]
    split <;> rfl

end Lists

/-! ### Slashes -/

lemma takeWhile_of_slash_notMem {cs : List Char} (h : '/' ∉ cs) :
    cs.takeWhile (· != '/') = cs := by
  rw [List.takeWhile_eq_self_iff]
  intro c hc
  simpa using ne_of_mem_of_not_mem hc h

lemma takeWhile_append_slash {cs : List Char} (h : '/' ∉ cs) (rest : List Char) :
    (cs ++ '/' :: rest).takeWhile (· != '/') = cs := by
  rw [takeWhile_append_stop (by simp), takeWhile_of_slash_notMem h]

lemma dropWhile_slash {cs : List Char} (h : cs.head? ≠ some '/') :
    cs.dropWhile (· == '/') = cs := by
  cases cs with
  | nil => rfl
  | cons c rest =>
    have hc : c ≠ '/' := fun hc => h (by rw [hc, List.head?_cons])
    exact List.dropWhile_cons_of_neg (by simpa using hc)

/-- A text has no slash, or a first one. -/
lemma slash_cases (cs : List Char) :
    '/' ∉ cs ∨ ∃ before after, '/' ∉ before ∧ cs = before ++ '/' :: after := by
  by_cases h : '/' ∈ cs
  · obtain ⟨before, after, rfl, hbefore⟩ := List.eq_append_cons_of_mem h
    exact .inr ⟨before, after, hbefore, rfl⟩
  · exact .inl h

/-! ### Segments -/

/-- A name that can stand between the braces of a placeholder. -/
structure PlaceholderName (name : List Char) : Prop where
  ne_nil : name ≠ []
  chars : ∀ c ∈ name, isPlaceholderChar c = true

/-- A placeholder is a name between braces. -/
lemma placeholder?_spec {cs name after : List Char} (h : placeholder? cs = some (name, after)) :
    cs = '{' :: name ++ '}' :: after ∧ PlaceholderName name := by
  unfold placeholder? at h
  split at h
  · rename_i rest
    split at h
    · rename_i after' hdrop
      dsimp only at h
      split at h
      · cases h
      · rename_i hempty
        obtain ⟨rfl, rfl⟩ := Prod.mk.inj (Option.some.inj h)
        refine ⟨?_, ⟨by simpa using hempty, fun c hc => List.mem_takeWhile_imp hc⟩⟩
        rw [← hdrop, List.cons_append, List.takeWhile_append_dropWhile]
    · cases h
  · cases h

lemma placeholder?_braces {name : List Char} (h : PlaceholderName name) (rest : List Char) :
    placeholder? ('{' :: name ++ '}' :: rest) = some (name, rest) := by
  have hclose : isPlaceholderChar '}' = false := by decide
  have hdrop : name.dropWhile isPlaceholderChar = [] := List.dropWhile_eq_nil_iff.2 h.chars
  have htake : name.takeWhile isPlaceholderChar = name := List.takeWhile_eq_self_iff.2 h.chars
  simp only [List.cons_append, placeholder?, dropWhile_append_stop hclose,
    takeWhile_append_stop hclose, hdrop, htake, List.nil_append]
  rw [if_neg (by simpa using h.ne_nil)]

/-- A character that no name holds and that closes none ends every search for a placeholder. -/
lemma placeholder?_append_stop {x : Char} (hx : isPlaceholderChar x = false) (hclose : x ≠ '}')
    (c : Char) (cs rest : List Char) :
    placeholder? (c :: cs ++ x :: rest) =
      (placeholder? (c :: cs)).map fun found => (found.1, found.2 ++ x :: rest) := by
  by_cases hc : c = '{'
  · subst hc
    simp only [List.cons_append, placeholder?, dropWhile_append_stop hx, takeWhile_append_stop hx]
    cases hdrop : cs.dropWhile isPlaceholderChar with
    | nil => simp [hclose]
    | cons b after =>
      by_cases hb : b = '}'
      · subst hb
        simp only [List.cons_append]
        split <;> rfl
      · simp [hb]
  · simp [placeholder?, hc]

lemma pathSegments_nil : pathSegments [] = [] := by
  rw [pathSegments]
  rfl

lemma pathSegments_of_placeholder {cs name after : List Char}
    (h : placeholder? cs = some (name, after)) :
    pathSegments cs = .placeholder name :: pathSegments after := by
  rw [pathSegments]
  split
  · rename_i h'
    rw [h] at h'
    obtain ⟨rfl, rfl⟩ := Prod.mk.inj (Option.some.inj h')
    rfl
  · rename_i h'
    rw [h] at h'
    cases h'

lemma pathSegments_cons {c : Char} {cs : List Char} (h : placeholder? (c :: cs) = none) :
    pathSegments (c :: cs) = .literal c :: pathSegments cs := by
  rw [pathSegments]
  split
  · rename_i h'
    rw [h] at h'
    cases h'
  · rfl

/-- Such a character begins a segment of its own. -/
lemma pathSegments_append_stop {x : Char} (hx : isPlaceholderChar x = false) (hclose : x ≠ '}')
    (cs rest : List Char) :
    pathSegments (cs ++ x :: rest) = pathSegments cs ++ pathSegments (x :: rest) := by
  fun_induction pathSegments cs with
  | case1 cs name after h _ ih =>
    cases cs with
    | nil => cases h
    | cons c cs =>
      rw [pathSegments_of_placeholder, ih, List.cons_append]
      rw [placeholder?_append_stop hx hclose, h, Option.map_some]
  | case2 => rfl
  | case3 c cs h ih =>
    rw [List.cons_append, pathSegments_cons, ih, List.cons_append]
    rw [← List.cons_append, placeholder?_append_stop hx hclose, h, Option.map_none]

/-- A slash ends a segment and begins the next one. -/
lemma pathSegments_append_slash (cs rest : List Char) :
    pathSegments (cs ++ '/' :: rest) =
      pathSegments cs ++ .literal '/' :: pathSegments rest := by
  rw [pathSegments_append_stop (by decide) (by decide), pathSegments_cons rfl]

lemma pathSegments_braces {name : List Char} (h : PlaceholderName name) (rest : List Char) :
    pathSegments ('{' :: name ++ '}' :: rest) = .placeholder name :: pathSegments rest :=
  pathSegments_of_placeholder (placeholder?_braces h rest)

lemma pathSegments_literals {cs : List Char} (h : '{' ∉ cs) (rest : List Char) :
    pathSegments (cs ++ rest) = cs.map .literal ++ pathSegments rest := by
  induction cs with
  | nil => rfl
  | cons c cs ih =>
    have hc : c ≠ '{' := fun hc => h (hc ▸ List.mem_cons_self)
    have hnone : placeholder? (c :: (cs ++ rest)) = none := by simp [placeholder?, hc]
    rw [List.cons_append, pathSegments_cons hnone, ih fun hmem => h (List.mem_cons_of_mem _ hmem)]
    rfl

/-- Literal characters come from the path. -/
lemma mem_of_literal_mem {cs : List Char} {c : Char} (h : .literal c ∈ pathSegments cs) :
    c ∈ cs := by
  fun_induction pathSegments cs with
  | case1 cs name after hfound _ ih =>
    obtain ⟨rfl, -⟩ := placeholder?_spec hfound
    rcases List.mem_cons.1 h with heq | hmem
    · cases heq
    · have hafter := ih hmem
      simp [hafter]
  | case2 => cases h
  | case3 c' cs _ ih =>
    rcases List.mem_cons.1 h with heq | hmem
    · cases heq
      exact List.mem_cons_self
    · exact List.mem_cons_of_mem _ (ih hmem)

/-- The placeholders of a path are the names between its braces. -/
theorem placeholder_mem_iff {cs name : List Char} :
    .placeholder name ∈ pathSegments cs ↔
      PlaceholderName name ∧ ∃ before after, cs = before ++ '{' :: name ++ '}' :: after := by
  constructor
  · intro h
    fun_induction pathSegments cs with
    | case1 cs name' after hfound _ ih =>
      obtain ⟨rfl, hspec⟩ := placeholder?_spec hfound
      rcases List.mem_cons.1 h with heq | hmem
      · obtain rfl := PathSegment.placeholder.inj heq
        exact ⟨hspec, [], after, rfl⟩
      · obtain ⟨hname, before, after', rfl⟩ := ih hmem
        exact ⟨hname, '{' :: name' ++ '}' :: before, after', by simp⟩
    | case2 => cases h
    | case3 c cs _ ih =>
      rcases List.mem_cons.1 h with heq | hmem
      · cases heq
      · obtain ⟨hname, before, after, rfl⟩ := ih hmem
        exact ⟨hname, c :: before, after, by simp⟩
  · rintro ⟨hname, before, after, rfl⟩
    rw [List.append_assoc, List.cons_append, pathSegments_append_stop (by decide) (by decide),
      ← List.cons_append, pathSegments_braces hname]
    simp

/-! ### Normalized paths -/

/-- A syntax and a renaming that bring no slash into a path and leave no placeholder empty. -/
structure SlashFree (s : PathSyntax) (rename : String → String) : Prop where
  before_ne : s.before ≠ ""
  before : '/' ∉ s.before.toList
  after : '/' ∉ s.after.toList
  rename : ∀ name : String, (∀ c ∈ name.toList, isPlaceholderChar c = true) →
    '/' ∉ (rename name).toList

variable {s : PathSyntax} {rename : String → String}

/-- The characters of a normalized path. -/
def normalized (s : PathSyntax) (rename : String → String) (cs : List Char) : List Char :=
  (pathSegments cs).flatMap (s.segment rename)

lemma normalize_eq (path : String) :
    s.normalize rename path = .ofList (normalized s rename path.toList) := rfl

lemma normalized_of_placeholder {cs name after : List Char} (h : placeholder? cs = some (name, after)) :
    normalized s rename cs =
      s.segment rename (.placeholder name) ++ normalized s rename after := by
  rw [normalized, pathSegments_of_placeholder h, List.flatMap_cons]
  rfl

lemma normalized_cons {c : Char} {cs : List Char} (h : placeholder? (c :: cs) = none) :
    normalized s rename (c :: cs) = c :: normalized s rename cs := by
  rw [normalized, pathSegments_cons h, List.flatMap_cons]
  rfl

lemma normalized_append_slash (cs rest : List Char) :
    normalized s rename (cs ++ '/' :: rest) =
      normalized s rename cs ++ '/' :: normalized s rename rest := by
  unfold normalized
  rw [pathSegments_append_slash, List.flatMap_append, List.flatMap_cons]
  rfl

lemma normalized_nil : normalized s rename [] = [] := by
  rw [normalized, pathSegments_nil, List.flatMap_nil]

lemma normalized_slash (cs : List Char) :
    normalized s rename ('/' :: cs) = '/' :: normalized s rename cs := by
  have h : normalized s rename ([] ++ '/' :: cs) = _ := normalized_append_slash [] cs
  rwa [normalized_nil] at h

namespace SlashFree

/-- Normalizing brings no slash into a text. -/
lemma slash_notMem (h : SlashFree s rename) {cs : List Char} (hcs : '/' ∉ cs) :
    '/' ∉ normalized s rename cs := by
  intro hmem
  obtain ⟨segment, hsegment, hslash⟩ := List.mem_flatMap.1 hmem
  cases segment with
  | literal c =>
    obtain rfl := List.mem_singleton.1 hslash
    exact hcs (mem_of_literal_mem hsegment)
  | placeholder name =>
    simp only [PathSyntax.segment, List.mem_append] at hslash
    rcases hslash with (hslash | hslash) | hslash
    · exact h.before hslash
    · refine h.rename (.ofList name) ?_ hslash
      rw [String.toList_ofList]
      exact (placeholder_mem_iff.1 hsegment).1.chars
    · exact h.after hslash

lemma normalized_eq_nil_iff (h : SlashFree s rename) {cs : List Char} :
    normalized s rename cs = [] ↔ cs = [] := by
  constructor
  · intro hnil
    cases cs with
    | nil => rfl
    | cons c rest =>
      cases hfound : placeholder? (c :: rest) with
      | none =>
        rw [normalized_cons hfound] at hnil
        cases hnil
      | some found =>
        rw [normalized_of_placeholder hfound] at hnil
        simp [PathSyntax.segment, h.before_ne] at hnil
  · rintro rfl
    exact normalized_nil

lemma head_normalized_ne (h : SlashFree s rename) {cs : List Char} (hcs : cs.head? ≠ some '/') :
    (normalized s rename cs).head? ≠ some '/' := by
  rcases slash_cases cs with hfree | ⟨before, after, hfree, rfl⟩
  · intro hhead
    exact h.slash_notMem hfree (List.mem_of_mem_head? hhead)
  · have hne : before ≠ [] := by
      rintro rfl
      exact hcs rfl
    have hnormal : normalized s rename before ≠ [] := mt h.normalized_eq_nil_iff.1 hne
    obtain ⟨c, rest, hcons⟩ := List.exists_cons_of_ne_nil hnormal
    rw [normalized_append_slash, hcons, List.cons_append, List.head?_cons]
    intro hhead
    apply h.slash_notMem hfree
    rw [hcons, Option.some.inj hhead]
    exact List.mem_cons_self

lemma takeWhile_normalized (h : SlashFree s rename) (cs : List Char) :
    (normalized s rename cs).takeWhile (· != '/') =
      normalized s rename (cs.takeWhile (· != '/')) := by
  rcases slash_cases cs with hfree | ⟨before, after, hfree, rfl⟩
  · rw [takeWhile_of_slash_notMem hfree, takeWhile_of_slash_notMem (h.slash_notMem hfree)]
  · rw [normalized_append_slash, takeWhile_append_slash hfree,
      takeWhile_append_slash (h.slash_notMem hfree)]

/-- The first segment of a normalized path is the normalized first segment. -/
lemma firstSegment (h : SlashFree s rename) (cs : List Char) :
    ((normalized s rename cs).dropWhile (· == '/')).takeWhile (· != '/') =
      normalized s rename ((cs.dropWhile (· == '/')).takeWhile (· != '/')) := by
  induction cs with
  | nil => simp [normalized_nil]
  | cons c cs ih =>
    by_cases hc : c = '/'
    · subst hc
      rw [normalized_slash, List.dropWhile_cons_of_pos rfl, List.dropWhile_cons_of_pos rfl, ih]
    · have hhead : (c :: cs).head? ≠ some '/' := by simpa using hc
      rw [dropWhile_slash hhead, dropWhile_slash (h.head_normalized_ne hhead),
        h.takeWhile_normalized]

/-- The resource of a normalized path is known from the segment that its operation is grouped by. -/
lemma resourcePathOf_normalize (h : SlashFree s rename) (path : String) :
    resourcePathOf (s.normalize rename path) =
      "/" ++ s.normalize rename (resourceSegment path) := by
  rw [resourcePathOf, resourceSegment, normalize_eq, normalize_eq, String.toList_ofList,
    String.toList_ofList, h.firstSegment]

end SlashFree

end ClientGen.Proofs
