import ClientGen.Proofs.PropertyTypes

/-!
# Readings of a written type

A list and a map are written in brackets around what they hold, and a map names the type of its keys
in front of it. The name of that type may also be a token of its own, so `[String]` is a list and
`[String:]` a map. A token without brackets and colons can always be told from the containers around
it: the text of a type has one reading, and that gives back the containers and the token.
-/

namespace ClientGen.Proofs

/-- Stands in a written type only for its containers. -/
def isTypeMark (ch : Char) : Bool := ch == '[' || ch == ']' || ch == ':'

/-- A type without containers, as far as its text shows. -/
def IsBare (token : String) : Prop := ∀ ch ∈ token.toList, isTypeMark ch = false

instance (token : String) : Decidable (IsBare token) :=
  List.decidableBAll (isTypeMark · = false) token.toList

/-- What a map has behind its bracket. -/
def mapKey : List Char := "String:".toList

/-- What opens a container. -/
def opening : Container → List Char
  | .scalar => []
  | .list => ['[']
  | .map => '[' :: mapKey

/-- The text of containers around a token, outermost first. -/
def bracketed (kinds : List Container) (token : List Char) : List Char :=
  kinds.flatMap opening ++ token ++ List.replicate kinds.length ']'

/-- The containers that are opened behind the first `skip` characters, and the text inside them. -/
def openings (skip : Nat) : List Char → List Container × List Char
  | [] => ([], [])
  | ch :: rest =>
    match skip with
    | n + 1 => openings n rest
    | 0 =>
      if ch == '[' then
        if mapKey.isPrefixOf rest then
          let (kinds, inside) := openings mapKey.length rest
          (.map :: kinds, inside)
        else
          let (kinds, inside) := openings 0 rest
          (.list :: kinds, inside)
      else ([], ch :: rest)

/-- Reads a type: the containers and the token inside, if every container is closed again. -/
def readType? (text : String) : Option (List Container × String) :=
  let (kinds, inside) := openings 0 text.toList
  let token := ((List.replicate kinds.length ']').isSuffixOf? inside).map String.ofList
  (token.filter (IsBare ·)).map (kinds, ·)

section

variable {kinds : List Container} {after inside : List Char} {token : String}

/-! ### Openings -/

lemma openings_skip (before after : List Char) :
    openings before.length (before ++ after) = openings 0 after := by
  induction before with
  | nil => rfl
  | cons ch rest ih => rw [List.length_cons, List.cons_append, openings, ih]

lemma openings_of_ne {ch : Char} (h : ch ≠ '[') (rest : List Char) :
    openings 0 (ch :: rest) = ([], ch :: rest) := by
  rw [openings, if_neg (by simpa using h)]

lemma openings_map (after : List Char) :
    openings 0 (opening .map ++ after) =
      (.map :: (openings 0 after).1, (openings 0 after).2) := by
  have hkey : mapKey.isPrefixOf (mapKey ++ after) = true :=
    List.isPrefixOf_iff_prefix.2 (List.prefix_append ..)
  rw [opening, List.cons_append, openings, if_pos (beq_self_eq_true _), if_pos hkey, openings_skip]

lemma openings_list (h : ¬mapKey <+: after) :
    openings 0 (opening .list ++ after) =
      (.list :: (openings 0 after).1, (openings 0 after).2) := by
  rw [opening, List.singleton_append, openings, if_pos (beq_self_eq_true _),
    if_neg (mt List.isPrefixOf_iff_prefix.1 h)]

/-- A token and the brackets behind it open nothing. -/
lemma openings_of_isBare (hbare : IsBare token) (n : ℕ) :
    openings 0 (token.toList ++ List.replicate n ']') =
      ([], token.toList ++ List.replicate n ']') := by
  have hmem : '[' ∉ token.toList ++ List.replicate n ']' := by
    intro hopen
    rcases List.mem_append.1 hopen with hopen | hopen
    · exact absurd (hbare _ hopen) (by decide)
    · exact absurd (List.eq_of_mem_replicate hopen) (by decide)
  cases h : token.toList ++ List.replicate n ']' with
  | nil => rfl
  | cons ch rest =>
    rw [h] at hmem
    exact openings_of_ne (List.ne_and_not_mem_of_not_mem_cons hmem).1.symm rest

/-- What a list holds does not begin like the key of a map: either it is a container itself, or a
token without a colon. -/
lemma mapKey_not_start (hkinds : .scalar ∉ kinds) (hbare : IsBare token) (n : ℕ) :
    ¬mapKey <+: kinds.flatMap opening ++ (token.toList ++ List.replicate n ']') := by
  intro hprefix
  cases kinds with
  | nil =>
    have hcolon : ':' ∈ token.toList ++ List.replicate n ']' :=
      hprefix.subset (by decide : ':' ∈ mapKey)
    rcases List.mem_append.1 hcolon with hcolon | hcolon
    · exact absurd (hbare _ hcolon) (by decide)
    · exact absurd (List.eq_of_mem_replicate hcolon) (by decide)
  | cons kind kinds =>
    have hopens : (opening kind).head? = some '[' := by
      cases kind with
      | scalar => exact absurd List.mem_cons_self hkinds
      | list | map => rfl
    obtain ⟨after, hafter⟩ := List.head?_eq_some_iff.1 hopens
    rw [List.flatMap_cons, hafter, mapKey] at hprefix
    exact absurd (List.cons_prefix_cons.1 hprefix).1 (by decide)

lemma openings_bracketed (hkinds : .scalar ∉ kinds) (hbare : IsBare token) (n : ℕ) :
    openings 0 (kinds.flatMap opening ++ (token.toList ++ List.replicate n ']')) =
      (kinds, token.toList ++ List.replicate n ']') := by
  induction kinds with
  | nil => exact openings_of_isBare hbare n
  | cons kind kinds ih =>
    obtain ⟨hkind, hrest⟩ := List.ne_and_not_mem_of_not_mem_cons hkinds
    rw [List.flatMap_cons, List.append_assoc]
    cases kind with
    | scalar => exact absurd rfl hkind
    | list => rw [openings_list (mapKey_not_start hrest hbare n), ih hrest]
    | map => rw [openings_map, ih hrest]

/-- Whatever is read as an opening stands in the text. -/
lemma eq_of_openings (skip : ℕ) (cs : List Char) (h : openings skip cs = (kinds, inside)) :
    cs.drop skip = kinds.flatMap opening ++ inside ∧ .scalar ∉ kinds := by
  induction cs generalizing skip kinds with
  | nil =>
    obtain ⟨rfl, rfl⟩ := Prod.mk.inj h
    simp
  | cons ch rest ih =>
    cases skip with
    | succ n => exact ih n h
    | zero =>
      rw [openings] at h
      split_ifs at h with hopen hkey
      · obtain ⟨rfl, rfl⟩ := Prod.mk.inj h
        obtain ⟨hrest, hkinds⟩ := ih mapKey.length rfl
        obtain ⟨after, rfl⟩ := List.isPrefixOf_iff_prefix.1 hkey
        rw [List.drop_left] at hrest
        refine ⟨?_, List.not_mem_cons_of_ne_of_not_mem (by decide) hkinds⟩
        rw [List.drop_zero, List.flatMap_cons, List.append_assoc, ← hrest, beq_iff_eq.1 hopen]
        rfl
      · obtain ⟨rfl, rfl⟩ := Prod.mk.inj h
        obtain ⟨hrest, hkinds⟩ := ih 0 rfl
        rw [List.drop_zero] at hrest
        refine ⟨?_, List.not_mem_cons_of_ne_of_not_mem (by decide) hkinds⟩
        rw [List.drop_zero, List.flatMap_cons, List.append_assoc, ← hrest, beq_iff_eq.1 hopen]
        rfl
      · obtain ⟨rfl, rfl⟩ := Prod.mk.inj h
        exact ⟨rfl, List.not_mem_nil⟩

/-! ### Readings -/

/-- A text is read as containers around a token just when they are written so. -/
theorem readType?_eq_some_iff {text : String} :
    readType? text = some (kinds, token) ↔
      .scalar ∉ kinds ∧ IsBare token ∧ text.toList = bracketed kinds token.toList := by
  have hread : ∀ {kinds' : List Container} {inside : List Char},
      openings 0 text.toList = (kinds', inside) →
        (readType? text = some (kinds, token) ↔
          kinds' = kinds ∧ IsBare token ∧
            inside = token.toList ++ List.replicate kinds.length ']') := by
    intro kinds' inside hopen
    simp only [readType?, hopen, Option.map_eq_some_iff, Option.filter_eq_some_iff,
      List.isSuffixOf?_eq_some_iff_append_eq, decide_eq_true_eq, Prod.mk.injEq]
    constructor
    · rintro ⟨_, ⟨⟨inner, rfl, rfl⟩, hbare⟩, rfl, rfl⟩
      exact ⟨rfl, hbare, by rw [String.toList_ofList]⟩
    · rintro ⟨rfl, hbare, rfl⟩
      exact ⟨token, ⟨⟨token.toList, rfl, String.ofList_toList⟩, hbare⟩, rfl, rfl⟩
  constructor
  · intro h
    obtain ⟨hkinds', hbare, hinside⟩ := (hread rfl).1 h
    obtain ⟨htext, hkinds⟩ := eq_of_openings 0 text.toList rfl
    rw [hkinds'] at htext hkinds
    rw [List.drop_zero, hinside, ← List.append_assoc] at htext
    exact ⟨hkinds, hbare, htext⟩
  · rintro ⟨hkinds, hbare, htext⟩
    rw [bracketed, List.append_assoc] at htext
    exact (hread (htext ▸ openings_bracketed hkinds hbare kinds.length)).2 ⟨rfl, hbare, rfl⟩

end

/-! ### Types of a table -/

variable {table : TypeTable} {modelName : String → String} {s t : SchemaType}

lemma scalar_notMem_containers (t : SchemaType) : .scalar ∉ t.containers := by
  induction t with
  | primitive | model => exact List.not_mem_nil
  | list _ ih | map _ ih => simpa [SchemaType.containers] using ih

lemma bracketed_cons (kind : Container) (kinds : List Container) (token : List Char) :
    bracketed (kind :: kinds) token = opening kind ++ bracketed kinds token ++ [']'] := by
  simp [bracketed, List.replicate_succ']

lemma toList_mapOpening : "[String:".toList = opening .map := by decide

/-- A type is written as its containers around the type of its innermost token. -/
lemma toList_resolve (h : table.containers = Swift.containers) (t : SchemaType) :
    (table.resolve modelName t).toList =
      bracketed t.containers (table.resolve modelName t.innermost).toList := by
  induction t with
  | primitive | model => simp [SchemaType.containers, SchemaType.innermost, bracketed]
  | list element ih =>
    rw [TypeTable.resolve, h, listOf_swift, String.toList_append, String.toList_append, ih]
    exact (bracketed_cons .list ..).symm
  | map value ih =>
    rw [TypeTable.resolve, h, mapOf_swift, String.toList_append, String.toList_append, ih,
      toList_mapOpening]
    exact (bracketed_cons .map ..).symm

lemma readType?_resolve (h : table.containers = Swift.containers)
    (ht : IsBare (table.resolve modelName t.innermost)) :
    readType? (table.resolve modelName t) =
      some (t.containers, table.resolve modelName t.innermost) :=
  readType?_eq_some_iff.2 ⟨scalar_notMem_containers t, ht, toList_resolve h t⟩

/-- With lists and maps in brackets, the text of a type reads as its containers around the type of
its innermost token, if that is bare. So two such types have one text just when they have the same
containers in the same order around the same token. -/
theorem resolve_reading (h : table.containers = Swift.containers)
    (hs : IsBare (table.resolve modelName s.innermost))
    (ht : IsBare (table.resolve modelName t.innermost)) :
    readType? (table.resolve modelName s) =
        some (s.containers, table.resolve modelName s.innermost) ∧
      (table.resolve modelName s = table.resolve modelName t ↔
        s.containers = t.containers ∧
          table.resolve modelName s.innermost = table.resolve modelName t.innermost) := by
  have hread := readType?_resolve h hs
  refine ⟨hread, fun heq => ?_, fun ⟨hkinds, htoken⟩ => ?_⟩
  · rw [heq, readType?_resolve h ht] at hread
    obtain ⟨hkinds, htoken⟩ := Prod.mk.inj (Option.some.inj hread)
    exact ⟨hkinds.symm, htoken.symm⟩
  · rw [← String.toList_inj, toList_resolve h s, toList_resolve h t, hkinds, htoken]

/-- The token of the keys also stands inside the containers; a list of it and a map of nothing
differ by a colon. -/
theorem resolve_reading_strings :
    Swift.types.containers = Swift.containers ∧
      IsBare (Swift.types.resolve id (.primitive "string")) ∧
      IsBare (Swift.types.resolve id (.model "String")) ∧
      IsBare (Swift.types.resolve id (.model "")) ∧
      readType? (Swift.types.resolve id (.map (.list (.primitive "string")))) =
        some ([.map, .list], "String") ∧
      Swift.types.resolve id (.map (.list (.primitive "string"))) =
        Swift.types.resolve id (.map (.list (.model "String"))) ∧
      Swift.types.resolve id (.list (.primitive "string")) ≠
        Swift.types.resolve id (.map (.model "")) := by
  have hstring : IsBare (Swift.types.resolve id (.primitive "string")) := by decide
  have hnamed : IsBare (Swift.types.resolve id (.model "String")) := by decide
  have hempty : IsBare (Swift.types.resolve id (.model "")) := by decide
  have htoken : Swift.types.resolve id (.primitive "string") = "String" := by decide
  obtain ⟨hread, hsame⟩ := resolve_reading (s := .map (.list (.primitive "string")))
    (t := .map (.list (.model "String"))) rfl hstring hnamed
  obtain ⟨-, hother⟩ := resolve_reading (s := .list (.primitive "string"))
    (t := .map (.model "")) rfl hstring hempty
  refine ⟨rfl, hstring, hnamed, hempty, ?_, hsame.2 ⟨rfl, by decide⟩, fun heq => ?_⟩
  · rw [hread, ← htoken]
    rfl
  · exact absurd (hother.1 heq).1 (by decide)

/-- A token that is written in brackets itself reads as a container. -/
example : LoopBack.types.resolve id (.primitive "binary") =
    LoopBack.types.resolve id (.list (.model "UInt8")) := by decide

end ClientGen.Proofs
