import Mathlib.Data.List.Basic
import ClientGen.Proofs.PathTemplates

/-!
# Readings of a path

A path is read in one way only: texts without placeholders, and between them placeholders with their
names. Normalizing puts the names into the syntax of the target and keeps each text as it is; a brace
is stray when it stands in one of the texts.
-/

namespace ClientGen.Proofs

variable {s : PathSyntax} {rename : String → String} {cs : List Char}

/-- A path taken apart: the text before the first placeholder, then each name with the text behind
its placeholder. -/
structure PathReading where
  start : List Char
  rest : List (List Char × List Char)
deriving DecidableEq

namespace PathReading

/-- The texts between the placeholders. -/
def texts (r : PathReading) : List (List Char) := r.start :: r.rest.map (·.2)

/-- The path that is read so. -/
def spelling (r : PathReading) : List Char :=
  r.start ++ r.rest.flatMap fun part => '{' :: part.1 ++ '}' :: part.2

/-- The texts with the names in the syntax of a target between them. -/
def write (s : PathSyntax) (rename : String → String) (r : PathReading) : List Char :=
  r.start ++ r.rest.flatMap fun part =>
    s.before.toList ++ (rename (.ofList part.1)).toList ++ s.after.toList ++ part.2

def segments (r : PathReading) : List PathSegment :=
  r.start.map .literal ++ r.rest.flatMap fun part => .placeholder part.1 :: part.2.map .literal

/-- Neighbouring literal characters make a text. -/
def ofSegments : List PathSegment → PathReading
  | [] => ⟨[], []⟩
  | .literal c :: more => ⟨c :: (ofSegments more).start, (ofSegments more).rest⟩
  | .placeholder name :: more => ⟨[], (name, (ofSegments more).start) :: (ofSegments more).rest⟩

lemma ofSegments_literals (text : List Char) (more : List PathSegment) :
    ofSegments (text.map .literal ++ more) =
      ⟨text ++ (ofSegments more).start, (ofSegments more).rest⟩ := by
  induction text with
  | nil => rfl
  | cons c text ih => rw [List.map_cons, List.cons_append, ofSegments, ih]; rfl

lemma ofSegments_segments (r : PathReading) : ofSegments r.segments = r := by
  obtain ⟨start, rest⟩ := r
  induction rest generalizing start with
  | nil =>
    rw [segments, List.flatMap_nil, ofSegments_literals, ofSegments, List.append_nil]
  | cons part rest ih =>
    have hrest := ih part.2
    simp only [segments] at hrest ⊢
    rw [ofSegments_literals, List.flatMap_cons, List.cons_append, ofSegments, hrest,
      List.append_nil]

lemma flatMap_segments (r : PathReading) :
    r.segments.flatMap (s.segment rename) = r.write s rename := by
  have htext : ∀ text : List Char,
      (text.map PathSegment.literal).flatMap (s.segment rename) = text := by
    intro text
    rw [List.flatMap_map]
    exact List.flatMap_singleton' _
  rw [segments, write, List.flatMap_append, htext, List.flatMap_assoc]
  refine congrArg (r.start ++ ·) (List.flatMap_congr fun part _ => ?_)
  rw [List.flatMap_cons, htext]
  rfl

/-- A character stands literally in a path if it stands in one of the texts. -/
lemma literal_mem_segments_iff {r : PathReading} {c : Char} :
    .literal c ∈ r.segments ↔ ∃ text ∈ r.texts, c ∈ text := by
  rw [segments, texts, List.mem_append, List.exists_mem_cons_iff]
  simp only [List.mem_map, List.mem_flatMap, List.mem_cons, PathSegment.literal.injEq, reduceCtorEq,
    false_or, exists_eq_right, exists_exists_and_eq_and]

end PathReading

/-- No placeholder stands in a text. -/
def Unbraced (text : List Char) : Prop :=
  ∀ before name after, PlaceholderName name → text ≠ before ++ '{' :: name ++ '}' :: after

/-- A way to take a path apart at its placeholders. -/
structure Reads (cs : List Char) (r : PathReading) : Prop where
  spelled : cs = r.spelling
  names : ∀ part ∈ r.rest, PlaceholderName part.1
  texts : ∀ text ∈ r.texts, Unbraced text

lemma Unbraced.pathSegments_eq {text : List Char} (h : Unbraced text) :
    pathSegments text = text.map .literal := by
  fun_induction pathSegments text with
  | case1 text name after hfound _ _ =>
    obtain ⟨rfl, hname⟩ := placeholder?_spec hfound
    exact absurd rfl (h [] name after hname)
  | case2 => rfl
  | case3 c text _ ih =>
    rw [ih fun before name after hname heq => h (c :: before) name after hname (by rw [heq]; rfl)]
    rfl

/-- However a path is taken apart, its segments are found. -/
theorem Reads.pathSegments_eq {r : PathReading} (h : Reads cs r) :
    pathSegments cs = r.segments := by
  obtain ⟨start, rest⟩ := r
  obtain ⟨rfl, hnames, htexts⟩ := h
  induction rest generalizing start with
  | nil =>
    have hstart := (htexts start List.mem_cons_self).pathSegments_eq
    simpa [PathReading.spelling, PathReading.segments] using hstart
  | cons part rest ih =>
    have hstart := (htexts start List.mem_cons_self).pathSegments_eq
    have hrest := ih part.2 (fun q hq => hnames q (List.mem_cons_of_mem _ hq))
      fun text htext => htexts text (List.mem_cons_of_mem _ htext)
    have hpart := pathSegments_braces (hnames part List.mem_cons_self)
      (PathReading.spelling ⟨part.2, rest⟩)
    -- The brace in front of the name ends the text before it.
    have hcut := pathSegments_append_stop (x := '{') (by decide) (by decide) start
      (part.1 ++ '}' :: PathReading.spelling ⟨part.2, rest⟩)
    have hspelling : PathReading.spelling ⟨start, part :: rest⟩ =
        start ++ '{' :: (part.1 ++ '}' :: PathReading.spelling ⟨part.2, rest⟩) := by
      simp [PathReading.spelling]
    rw [List.cons_append] at hpart
    rw [hspelling, hcut, hstart, hpart, hrest]
    simp [PathReading.segments]

lemma reads_pathSegments (cs : List Char) : Reads cs (.ofSegments (pathSegments cs)) := by
  fun_induction pathSegments cs with
  | case1 cs name after hfound _ ih =>
    obtain ⟨rfl, hname⟩ := placeholder?_spec hfound
    obtain ⟨hspelled, hnames, htexts⟩ := ih
    refine ⟨?_, List.forall_mem_cons.2 ⟨hname, hnames⟩, List.forall_mem_cons.2 ⟨?_, htexts⟩⟩
    · conv_lhs => rw [hspelled]
      simp [PathReading.ofSegments, PathReading.spelling]
    · intro before name' after' _ heq
      have hlength : 0 = (before ++ '{' :: name' ++ '}' :: after').length :=
        congrArg List.length heq
      simp at hlength
  | case2 =>
    refine ⟨rfl, by simp [PathReading.ofSegments], ?_⟩
    simp [PathReading.ofSegments, PathReading.texts, Unbraced]
  | case3 c cs hnone ih =>
    obtain ⟨hspelled, hnames, htexts⟩ := ih
    obtain ⟨hstart, hrest⟩ := List.forall_mem_cons.1 htexts
    refine ⟨congrArg (c :: ·) hspelled, hnames, List.forall_mem_cons.2 ⟨?_, hrest⟩⟩
    intro before name after hname heq
    cases before with
    | cons b before => exact hstart before name after hname (List.cons.inj heq).2
    | nil =>
      -- The text would open with a placeholder that the path has at the same place.
      obtain ⟨rfl, hopen⟩ := List.cons.inj heq
      have hpath : '{' :: cs = '{' :: name ++ '}' :: (after ++
          (PathReading.ofSegments (pathSegments cs)).rest.flatMap
            fun part => '{' :: part.1 ++ '}' :: part.2) := by
        conv_lhs => rw [hspelled, PathReading.spelling, hopen]
        simp
      rw [hpath, placeholder?_braces hname] at hnone
      cases hnone

/-- A path has exactly one reading. Normalizing writes the texts of that reading, with the names in
the syntax of the target between them; so it changes no path without a placeholder, and a slash
between two paths may be put there before or after. A path has a stray brace just when one of its
texts has a brace. -/
theorem normalize_reading (s : PathSyntax) (rename : String → String) (path : String) :
    ∃ r : PathReading, (Reads path.toList r ∧ ∀ other, Reads path.toList other → other = r) ∧
      (s.normalize rename path).toList = r.write s rename ∧
      (hasStrayBrace path = true ↔ ∃ text ∈ r.texts, '{' ∈ text ∨ '}' ∈ text) ∧
      (r.rest = [] → s.normalize rename path = path) ∧
      ∀ other, s.normalize rename (path ++ "/" ++ other) =
        s.normalize rename path ++ "/" ++ s.normalize rename other := by
  have hreads := reads_pathSegments path.toList
  have hsegments := hreads.pathSegments_eq
  have hwrite : (s.normalize rename path).toList =
      (PathReading.ofSegments (pathSegments path.toList)).write s rename := by
    rw [normalize_eq, String.toList_ofList, normalized, hsegments, PathReading.flatMap_segments,
      PathReading.ofSegments_segments]
  refine ⟨.ofSegments (pathSegments path.toList), ⟨hreads, fun other hother => ?_⟩, hwrite, ?_, ?_,
    fun other => ?_⟩
  · rw [hother.pathSegments_eq, PathReading.ofSegments_segments]
  · have hstray : hasStrayBrace path = true ↔
        .literal '{' ∈ pathSegments path.toList ∨ .literal '}' ∈ pathSegments path.toList := by
      rw [hasStrayBrace, List.any_eq_true]
      constructor
      · rintro ⟨segment, hmem, hbrace⟩
        cases segment with
        | literal c =>
          rcases (Bool.or_eq_true _ _).mp hbrace with hc | hc
          · exact .inl (beq_iff_eq.1 hc ▸ hmem)
          · exact .inr (beq_iff_eq.1 hc ▸ hmem)
        | placeholder name => cases hbrace
      · rintro (hmem | hmem)
        · exact ⟨_, hmem, rfl⟩
        · exact ⟨_, hmem, rfl⟩
    rw [hstray, hsegments, PathReading.ofSegments_segments, PathReading.literal_mem_segments_iff,
      PathReading.literal_mem_segments_iff]
    simp only [and_or_left, exists_or]
  · intro hrest
    have hspelled := hreads.spelled
    rw [PathReading.spelling, hrest] at hspelled
    rw [PathReading.write, hrest] at hwrite
    exact String.toList_inj.1 (hwrite.trans hspelled.symm)
  · have hpath : (path ++ "/" ++ other).toList = path.toList ++ '/' :: other.toList := by
      simp [String.toList_append]
    rw [← String.toList_inj, normalize_eq, normalize_eq, normalize_eq, hpath,
      normalized_append_slash]
    simp [String.toList_append]

end ClientGen.Proofs
