import ClientGen.Proofs.PlaceholderNames

/-!
# Normalized paths read again

A normalized path can be normalized once more. What a target writes for a placeholder stands apart
from the characters around it: it opens with a character that ends every name, so a literal brace
before it opens no placeholder and one behind it closes none.
-/

namespace ClientGen.Proofs

variable {s : PathSyntax} {rename : String → String} {cs : List Char}

/-! ### Reading a normalized path -/

/-- What is written for a placeholder opens with a character that ends every name, and it is read as
`read` tells, whatever follows. -/
structure Rereads (s : PathSyntax) (rename : String → String)
    (read : List Char → List PathSegment) : Prop where
  opens : ∃ x xs, s.before.toList = x :: xs ∧ isPlaceholderChar x = false ∧ x ≠ '}'
  reads : ∀ name rest, PlaceholderName name →
    pathSegments (s.segment rename (.placeholder name) ++ rest) = read name ++ pathSegments rest

/-- A segment once it is normalized and read again. -/
def reread (read : List Char → List PathSegment) : PathSegment → List PathSegment
  | .literal c => [.literal c]
  | .placeholder name => read name

namespace Rereads

variable {read : List Char → List PathSegment}

/-- A name that is closed in the normalized path is closed in the path. -/
lemma closed (h : Rereads s rename read) {name after : List Char}
    (hname : ∀ c ∈ name, isPlaceholderChar c = true)
    (heq : normalized s rename cs = name ++ '}' :: after) :
    ∃ after', cs = name ++ '}' :: after' := by
  obtain ⟨x, xs, hbefore, hx, hclose⟩ := h.opens
  -- Each character of the name is a literal one of the path: what is written for a placeholder
  -- would put `x` in its place.
  induction name generalizing cs with
  | nil =>
    cases cs with
    | nil =>
      rw [normalized_nil] at heq
      cases heq
    | cons d ds =>
      cases hfound : placeholder? (d :: ds) with
      | none =>
        rw [normalized_cons hfound] at heq
        exact ⟨ds, by rw [(List.cons.inj heq).1]; rfl⟩
      | some found =>
        rw [normalized_of_placeholder hfound, PathSyntax.segment, hbefore] at heq
        exact absurd (List.cons.inj heq).1 hclose
  | cons c name ih =>
    cases cs with
    | nil =>
      rw [normalized_nil] at heq
      cases heq
    | cons d ds =>
      cases hfound : placeholder? (d :: ds) with
      | none =>
        rw [normalized_cons hfound] at heq
        obtain ⟨rfl, htail⟩ := List.cons.inj heq
        obtain ⟨after', rfl⟩ := ih (fun c hc => hname c (List.mem_cons_of_mem _ hc)) htail
        exact ⟨after', rfl⟩
      | some found =>
        rw [normalized_of_placeholder hfound, PathSyntax.segment, hbefore] at heq
        rw [(List.cons.inj heq).1, hname c List.mem_cons_self] at hx
        cases hx

/-- Normalizing what follows a literal character makes no placeholder of it. -/
lemma placeholder?_cons (h : Rereads s rename read) {c : Char}
    (hnone : placeholder? (c :: cs) = none) :
    placeholder? (c :: normalized s rename cs) = none := by
  cases hfound : placeholder? (c :: normalized s rename cs) with
  | none => rfl
  | some found =>
    obtain ⟨name, after⟩ := found
    obtain ⟨heq, hname⟩ := placeholder?_spec hfound
    obtain ⟨rfl, htail⟩ := List.cons.inj heq
    obtain ⟨after', rfl⟩ := h.closed hname.chars htail
    rw [← List.cons_append, placeholder?_braces hname] at hnone
    cases hnone

/-- A normalized path is read segment by segment. -/
theorem pathSegments_normalized (h : Rereads s rename read) (cs : List Char) :
    pathSegments (normalized s rename cs) = (pathSegments cs).flatMap (reread read) := by
  fun_induction pathSegments cs with
  | case1 cs name after hfound _ ih =>
    obtain ⟨-, hname⟩ := placeholder?_spec hfound
    rw [normalized_of_placeholder hfound, h.reads name _ hname, ih, List.flatMap_cons]
    rfl
  | case2 => rw [normalized_nil, pathSegments_nil]; rfl
  | case3 c cs hnone ih =>
    rw [normalized_cons hnone, pathSegments_cons (h.placeholder?_cons hnone), ih,
      List.flatMap_cons]
    rfl

/-- If what is written for a placeholder is written again as it is, so is the whole path. -/
theorem normalized_normalized (h : Rereads s rename read)
    (hstable : ∀ name, PlaceholderName name →
      (read name).flatMap (s.segment rename) = s.segment rename (.placeholder name))
    (cs : List Char) :
    normalized s rename (normalized s rename cs) = normalized s rename cs := by
  have hsegment : ∀ segment ∈ pathSegments cs,
      (reread read segment).flatMap (s.segment rename) = s.segment rename segment := by
    intro segment hmem
    cases segment with
    | literal c => rfl
    | placeholder name => exact hstable name (placeholder_mem_iff.1 hmem).1
  calc normalized s rename (normalized s rename cs)
      = (pathSegments cs).flatMap fun segment =>
          (reread read segment).flatMap (s.segment rename) := by
        rw [normalized, h.pathSegments_normalized, List.flatMap_assoc]
    _ = normalized s rename cs := List.flatMap_congr hsegment

end Rereads

/-! ### A syntax of braces -/

/-- A segment with its name changed. -/
def renamed (rename : String → String) : PathSegment → PathSegment
  | .literal c => .literal c
  | .placeholder name => .placeholder (rename (.ofList name)).toList

section Braces

variable
  (hrename : ∀ name : String, PlaceholderName name.toList → PlaceholderName (rename name).toList)

include hrename

lemma rereads_braces :
    Rereads ⟨"\x7b", "\x7d"⟩ rename
      fun name => [.placeholder (rename (.ofList name)).toList] := by
  have hbefore : "\x7b".toList = ['{'] := rfl
  have hafter : "\x7d".toList = ['}'] := rfl
  refine ⟨⟨'{', [], hbefore, by decide, by decide⟩, fun name rest hname => ?_⟩
  have hnew : PlaceholderName (rename (.ofList name)).toList :=
    hrename _ (by rwa [String.toList_ofList])
  rw [PathSyntax.segment, hbefore, hafter, List.singleton_append, List.append_assoc,
    List.singleton_append, pathSegments_braces hnew, List.singleton_append]

lemma pathSegments_normalized_braces (cs : List Char) :
    pathSegments (normalized ⟨"\x7b", "\x7d"⟩ rename cs) =
      (pathSegments cs).map (renamed rename) := by
  rw [(rereads_braces hrename).pathSegments_normalized, List.map_eq_flatMap]
  refine List.flatMap_congr fun segment _ => ?_
  cases segment <;> rfl

lemma normalized_braces_twice
    (hidem : ∀ name : String, PlaceholderName name.toList → rename (rename name) = rename name)
    (cs : List Char) :
    normalized ⟨"\x7b", "\x7d"⟩ rename (normalized ⟨"\x7b", "\x7d"⟩ rename cs) =
      normalized ⟨"\x7b", "\x7d"⟩ rename cs := by
  refine (rereads_braces hrename).normalized_normalized (fun name hname => ?_) cs
  have hagain : rename (rename (.ofList name)) = rename (.ofList name) :=
    hidem _ (by rwa [String.toList_ofList])
  rw [List.flatMap_singleton, PathSyntax.segment, PathSyntax.segment, String.ofList_toList, hagain]

end Braces

/-! ### A syntax without braces -/

/-- Every character that is written for a placeholder is read as itself. -/
def Braceless (s : PathSyntax) (rename : String → String) : Prop :=
  Rereads s rename fun name => (s.segment rename (.placeholder name)).map .literal

namespace Braceless

lemma of_brace_notMem
    (hopens : ∃ x xs, s.before.toList = x :: xs ∧ isPlaceholderChar x = false ∧ x ≠ '}')
    (hfree : ∀ name, PlaceholderName name → '{' ∉ s.segment rename (.placeholder name)) :
    Braceless s rename :=
  ⟨hopens, fun name rest hname => pathSegments_literals (hfree name hname) rest⟩

lemma normalized_twice (h : Braceless s rename) (cs : List Char) :
    normalized s rename (normalized s rename cs) = normalized s rename cs := by
  refine h.normalized_normalized (fun name _ => ?_) cs
  rw [List.flatMap_map]
  exact List.flatMap_singleton' _

lemma placeholder_notMem (h : Braceless s rename) (cs name : List Char) :
    .placeholder name ∉ pathSegments (normalized s rename cs) := by
  rw [h.pathSegments_normalized]
  intro hmem
  obtain ⟨segment, -, hmem⟩ := List.mem_flatMap.1 hmem
  cases segment with
  | literal c => cases List.mem_singleton.1 hmem
  | placeholder name' =>
    obtain ⟨c, -, hc⟩ := List.mem_map.1 hmem
    cases hc

end Braceless

/-! ### Built-in profiles -/

variable {p : Profile}

/-- Profiles that write no braces leave literal characters only. -/
lemma braceless_builtin (hp : p ∈ Registry.builtin.profiles) (hn : p.name ≠ Swift.profile.name)
    (c : Config) :
    ∃ rename, p.normalizePath (p.configure c) = (p.configure c).spec.path.normalize rename ∧
      Braceless (p.configure c).spec.path rename := by
  have hsyntax : (∃ x xs, p.spec.path.before.toList = x :: xs ∧ isPlaceholderChar x = false ∧
      x ≠ '}') ∧ '{' ∉ p.spec.path.before.toList ∧ '{' ∉ p.spec.path.after.toList := by
    rcases mem_builtin_iff.1 hp with rfl | rfl | rfl | rfl
    · exact absurd rfl hn
    all_goals exact ⟨⟨'\\', ['('], rfl, by decide, by decide⟩, by decide, by decide⟩
  obtain ⟨hopens, hbefore, hafter⟩ := hsyntax
  have hliteral : ∀ rename : String → String,
      (∀ name : String, PlaceholderName name.toList → PlaceholderName (rename name).toList) →
      Braceless (p.configure c).spec.path rename := by
    intro rename hrename
    rw [path_configure hp]
    refine .of_brace_notMem hopens fun name hname hmem => ?_
    have hnew := hrename (.ofList name) (by rwa [String.toList_ofList])
    rw [PathSyntax.segment, List.mem_append, List.mem_append] at hmem
    rcases hmem with (hmem | hmem) | hmem
    · exact hbefore hmem
    · exact absurd (hnew.chars _ hmem) (by decide)
    · exact hafter hmem
  have hvar := hliteral _ fun _ => placeholderName_varName (marks_builtin hp c)
  rcases mem_builtin_iff.1 hp with rfl | rfl | rfl | rfl
  · exact absurd rfl hn
  · exact ⟨id, rfl, hliteral id fun _ h => h⟩
  · exact ⟨_, rfl, hvar⟩
  · exact ⟨_, rfl, hvar⟩

/-- Normalizing a normalized path changes nothing. Only `swift` writes placeholders again: the same
ones between the same characters, under the names of their parameters. -/
theorem normalizePath_normalizePath (hp : p ∈ Registry.builtin.profiles) (c : Config)
    (path : String) :
    p.normalizePath (p.configure c) (p.normalizePath (p.configure c) path) =
        p.normalizePath (p.configure c) path ∧
      (p.name ≠ Swift.profile.name → ∀ before name after, PlaceholderName name →
        (p.normalizePath (p.configure c) path).toList ≠ before ++ '{' :: name ++ '}' :: after) ∧
      (p.name = Swift.profile.name →
        pathSegments (p.normalizePath (p.configure c) path).toList =
          (pathSegments path.toList).map (renamed (p.paramName (p.configure c)))) := by
  by_cases hn : p.name = Swift.profile.name
  · obtain rfl : p = Swift.profile := by
      rcases mem_builtin_iff.1 hp with rfl | rfl | rfl | rfl
      · rfl
      all_goals exact absurd hn (by decide)
    have hmarks := marks_builtin hp c
    have hrename : ∀ name : String, PlaceholderName name.toList →
        PlaceholderName ((Swift.profile.configure c).varName name).toList :=
      fun _ => placeholderName_varName hmarks
    have hparam : Swift.profile.paramName = Target.varName := rfl
    have hpath : ∀ path, Swift.profile.normalizePath (Swift.profile.configure c) path =
        .ofList (normalized ⟨"\x7b", "\x7d"⟩ (Swift.profile.configure c).varName path.toList) :=
      fun _ => rfl
    refine ⟨?_, fun h => absurd rfl h, fun _ => ?_⟩
    · rw [hpath, hpath, String.toList_ofList, normalized_braces_twice hrename]
      exact fun name hname => varName_varName hmarks hname.chars
    · rw [hpath, String.toList_ofList, hparam, pathSegments_normalized_braces hrename]
  · obtain ⟨rename, hpath, hbraceless⟩ := braceless_builtin hp hn c
    rw [hpath, normalize_eq, normalize_eq]
    refine ⟨?_, fun _ before name after hname heq => ?_, fun h => absurd h hn⟩
    · rw [String.toList_ofList, hbraceless.normalized_twice]
    · rw [String.toList_ofList] at heq
      exact hbraceless.placeholder_notMem _ name (placeholder_mem_iff.2 ⟨hname, before, after, heq⟩)

/-- A stray brace, a name of two words and a reserved one. -/
def strayPath : String := "/pets/\x7b\x7bpet_id\x7d/\x7bclass\x7d.json"

def strayPathSwift : String := "/pets/\x7b\x7bpetId\x7d/\x7b_class\x7d.json"

theorem normalizePath_strayPath :
    Swift.profile.normalizePath (Swift.profile.configure {}) strayPath = strayPathSwift ∧
      Swift.profile.normalizePath (Swift.profile.configure {}) strayPathSwift = strayPathSwift ∧
      pathSegments strayPathSwift.toList = (pathSegments strayPath.toList).map
        (renamed (Swift.profile.paramName (Swift.profile.configure {}))) ∧
      Plain.profile.normalizePath (Plain.profile.configure {}) strayPath =
        "/pets/\x7b\\(petId)/\\(_class).json" ∧
      ∀ before name after, PlaceholderName name →
        "/pets/\x7b\\(petId)/\\(_class).json".toList ≠ before ++ '{' :: name ++ '}' :: after := by
  have hswift : Swift.profile.normalizePath (Swift.profile.configure {}) strayPath =
      strayPathSwift := by decide +kernel
  have hplain : Plain.profile.normalizePath (Plain.profile.configure {}) strayPath =
      "/pets/\x7b\\(petId)/\\(_class).json" := by decide +kernel
  obtain ⟨hagain, -, hsegments⟩ :=
    normalizePath_normalizePath (p := Swift.profile) (mem_builtin_iff.2 (by simp)) {} strayPath
  obtain ⟨-, hfree, -⟩ :=
    normalizePath_normalizePath (p := Plain.profile) (mem_builtin_iff.2 (by simp)) {} strayPath
  rw [hswift] at hagain hsegments
  rw [hplain] at hfree
  exact ⟨hswift, hagain, hsegments rfl, hplain, hfree (by decide)⟩

end ClientGen.Proofs
