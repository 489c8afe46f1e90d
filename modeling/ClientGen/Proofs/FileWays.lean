import ClientGen.Proofs.PathNames

/-!
# Ways through a file tree

A path passes some places before the one it leads to, and each of them has to be a folder. The places
above the last one are among them, so a file is written into folders that are there; a path that goes
up passes others too. Distinct places have distinct paths.
-/

namespace ClientGen.Proofs

/-! ### Places of files -/

/-- A place that a path may lead to: at the start or the root, further up from the start, or below
another place by a name of its own. -/
inductive Resolved : FilePlace → Prop
  | start : Resolved []
  | root : Resolved ["/"]
  | up {place : FilePlace} (hp : Resolved place) (h : ∀ name ∈ place, name = "..") :
    Resolved (place ++ [".."])
  | child {place : FilePlace} (hp : Resolved place) {name : String} (h : isOwn name = true)
    (hslash : '/' ∉ name.toList) : Resolved (place ++ [name])

lemma step_up {place : FilePlace} (h : ∀ name ∈ place, name = "..") :
    place.step ".." = place ++ [".."] := by
  cases hlast : place.getLast? with
  | none => simp [FilePlace.step, isStay, hlast]
  | some last =>
    obtain rfl := h last (List.mem_of_getLast? hlast)
    simp [FilePlace.step, isStay, hlast]

lemma step_own {name : String} (h : isOwn name = true) (place : FilePlace) :
    place.step name = place ++ [name] := by
  rw [isOwn, Bool.and_eq_true, Bool.not_eq_true'] at h
  rw [FilePlace.step, h.1, if_neg Bool.false_ne_true, if_neg]
  simpa using h.2

lemma step_back {last : String} (h : isOwn last = true) (hslash : '/' ∉ last.toList)
    (upper : FilePlace) : (upper ++ [last]).step ".." = upper := by
  rw [FilePlace.step, if_neg (by decide), if_pos (by decide), List.getLast?_concat,
    List.dropLast_concat]
  split
  case h_1 hlast => cases hlast
  case h_2 hlast =>
    obtain rfl := Option.some.inj hlast
    cases h
  case h_3 hlast =>
    obtain rfl := Option.some.inj hlast
    exact absurd (by decide) hslash
  case h_4 => rfl

/-- What one more name makes of a place. -/
inductive StepsTo (place : FilePlace) (name : String) : FilePlace → Prop
  | stay : StepsTo place name place
  | up (h : ∀ name ∈ place, name = "..") : StepsTo place name (place ++ [".."])
  | back {upper : FilePlace} {last : String} (h : place = upper ++ [last]) (hp : Resolved upper) :
    StepsTo place name upper
  | down (h : isOwn name = true) : StepsTo place name (place ++ [name])

lemma Resolved.stepsTo {place : FilePlace} (h : Resolved place) (name : String) :
    StepsTo place name (place.step name) := by
  cases hstay : isStay name with
  | true =>
    rw [FilePlace.step, if_pos hstay]
    exact .stay
  | false =>
    by_cases hname : name = ".."
    · subst hname
      cases h with
      | start => exact .up (by simp)
      | root => exact .stay
      | up hp hall =>
        rename_i upper
        have hall' : ∀ name ∈ upper ++ [".."], name = ".." := by
          intro name hname
          rcases List.mem_append.1 hname with hname | hname
          · exact hall name hname
          · exact List.mem_singleton.1 hname
        rw [step_up hall']
        exact .up hall'
      | child hp hown hslash =>
        rw [step_back hown hslash]
        exact .back rfl hp
    · have hown : isOwn name = true := by simp [isOwn, hstay, hname]
      rw [step_own hown]
      exact .down hown

lemma Resolved.step {place : FilePlace} (h : Resolved place) {name : String}
    (hname : '/' ∉ name.toList) : Resolved (place.step name) := by
  generalize hnext : place.step name = next
  have hsteps := hnext ▸ h.stepsTo name
  cases hsteps with
  | stay => exact h
  | up hall => exact .up h hall
  | back _ hp => exact hp
  | down hown => exact .child h hown hname

lemma resolved_foldl {names : List String} (h : ∀ name ∈ names, '/' ∉ name.toList)
    {place : FilePlace} (hp : Resolved place) : Resolved (names.foldl .step place) := by
  induction names generalizing place with
  | nil => exact hp
  | cons name rest ih =>
    exact ih (fun n hn => h n (List.mem_cons_of_mem _ hn)) (hp.step (h name List.mem_cons_self))

lemma resolved_start (path : String) : Resolved (.start path) := by
  rw [FilePlace.start]
  split_ifs
  · exact .root
  · exact .start

lemma slash_notMem_of_mem_pathNames {name path : String} (h : name ∈ pathNames path) :
    '/' ∉ name.toList := by
  obtain ⟨piece, hpiece, rfl⟩ := List.mem_map.1 h
  rw [String.toList_ofList]
  intro hslash
  obtain ⟨-, hnot⟩ := mem_of_mem_splitOnP hpiece hslash
  cases hnot

lemma resolved_placeOf (path : String) : Resolved (placeOf path) :=
  resolved_foldl (fun _ => slash_notMem_of_mem_pathNames) (resolved_start path)

/-! ### Paths of places -/

lemma path_concat {place : FilePlace} (hne : place ≠ []) (hroot : place ≠ ["/"]) (name : String) :
    FilePlace.path (place ++ [name]) = place.path ++ "/" ++ name := by
  have hconcat : ∀ {names : List String}, names ≠ [] →
      "/".intercalate (names ++ [name]) = "/".intercalate names ++ "/" ++ name := by
    intro names hnames
    rw [String.intercalate_append_of_ne_nil hnames (List.cons_ne_nil _ _),
      String.intercalate_singleton]
  cases place with
  | nil => exact absurd rfl hne
  | cons first rest =>
    by_cases hfirst : first = "/"
    · subst hfirst
      have hrest : rest ≠ [] := by
        rintro rfl
        exact hroot rfl
      simp only [List.cons_append, FilePlace.path, hconcat hrest, String.append_assoc]
    · have hpath : ∀ names, FilePlace.path (first :: names) = "/".intercalate (first :: names) := by
        intro names
        rw [FilePlace.path]
        rintro _ ⟨⟩
        exact hfirst rfl
      rw [List.cons_append, hpath, hpath, ← List.cons_append, hconcat (List.cons_ne_nil _ _)]

lemma placeOf_append_name {before name : String} (hne : before ≠ "") (hname : '/' ∉ name.toList) :
    placeOf (before ++ "/" ++ name) = (placeOf before).step name := by
  rw [placeOf, start_append_slash hne, pathNames_append_slash, pathNames_of_notMem hname,
    List.foldl_append]
  rfl

lemma placeOf_path_concat {place : FilePlace} (hplace : placeOf place.path = place) {name : String}
    (hname : '/' ∉ name.toList) : placeOf (FilePlace.path (place ++ [name])) = place.step name := by
  by_cases hne : place = []
  · subst hne
    have hstart : FilePlace.start name = [] := by
      rw [FilePlace.start, if_neg]
      exact fun h => hname (List.mem_of_head? (beq_iff_eq.1 h))
    have hpath : FilePlace.path [name] = name := by
      rw [FilePlace.path, String.intercalate_singleton]
      rintro names ⟨rfl, -⟩
      exact hname (by decide)
    rw [List.nil_append, hpath, placeOf, hstart, pathNames_of_notMem hname]
    rfl
  by_cases hroot : place = ["/"]
  · subst hroot
    have hpath : FilePlace.path (["/"] ++ [name]) = "" ++ "/" ++ name := by
      simp [FilePlace.path]
    have hstart : FilePlace.start ("" ++ "/" ++ name) = ["/"] := by
      simp [FilePlace.start, String.toList_append]
    rw [hpath, placeOf, hstart, pathNames_append_slash, pathNames_of_notMem hname]
    rfl
  · rw [path_concat hne hroot, placeOf_append_name ?_ hname, hplace]
    intro hempty
    rw [hempty] at hplace
    exact hne hplace.symm

/-- The path of a place leads to it. -/
theorem placeOf_path {place : FilePlace} (h : Resolved place) : placeOf place.path = place := by
  induction h with
  | start => rfl
  | root => decide
  | up hp hall ih =>
    rw [placeOf_path_concat ih (by decide), step_up hall]
  | child hp hown hslash ih =>
    rw [placeOf_path_concat ih hslash, step_own hown]

/-- Paths that lead to distinct places give these distinct paths. -/
lemma placeOf_eq_of_path_eq {path other : String}
    (h : (placeOf path).path = (placeOf other).path) : placeOf path = placeOf other := by
  rw [← placeOf_path (resolved_placeOf path), h, placeOf_path (resolved_placeOf other)]

/-! ### Ways -/

/-- The places from which names lead on, one after the other. -/
def passed (place : FilePlace) : List String → List FilePlace
  | [] => []
  | name :: rest => place :: passed (place.step name) rest

/-- The places that a path passes before the one it leads to. -/
def way (path : String) : List FilePlace := passed (.start path) (pathNames path)

lemma follow?_eq_some_iff {t : FileTree} {names : List String} {place last : FilePlace} :
    t.follow? place names = some last ↔
      (∀ q ∈ passed place names, t.isFolder q = true) ∧
      (∀ name ∈ names, FileTree.fits name = true) ∧ last = names.foldl .step place := by
  induction names generalizing place with
  | nil => simp only [FileTree.follow?, passed, Option.some.injEq, List.not_mem_nil, false_implies,
      implies_true, true_and, List.foldl_nil, eq_comm]
  | cons name rest ih =>
    simp only [FileTree.follow?, passed, List.forall_mem_cons, List.foldl_cons]
    split_ifs with h
    · rw [Bool.and_eq_true] at h
      rw [ih]
      simp only [h.1, h.2, true_and]
    · simp_all

/-- A path leads somewhere just when all places on its way are folders. -/
lemma find?_eq_some_iff {t : FileTree} {path : String} {place : FilePlace} :
    t.find? path = some place ↔
      FileTree.isPath path = true ∧ (∀ q ∈ way path, t.isFolder q = true) ∧
      (∀ name ∈ pathNames path, FileTree.fits name = true) ∧ place = placeOf path := by
  rw [FileTree.find?, Option.ite_none_right_eq_some, follow?_eq_some_iff]
  rfl

lemma mem_passed_or_eq (place : FilePlace) (names : List String) :
    place ∈ passed place names ∨ place = names.foldl .step place := by
  cases names with
  | nil => exact .inr rfl
  | cons name rest => exact .inl List.mem_cons_self

/-- Names lead down by one name at a time, so all places above the last one are passed, but for those
above the first. -/
lemma prefix_or_mem_passed {names : List String} (h : ∀ name ∈ names, '/' ∉ name.toList)
    {place : FilePlace} (hp : Resolved place) {q : FilePlace}
    (hq : q <+: names.foldl FilePlace.step place) :
    q <+: place ∨ q ∈ passed place names ∨ q = names.foldl FilePlace.step place := by
  induction names generalizing place with
  | nil => exact .inl hq
  | cons name rest ih =>
    have hnext : Resolved (place.step name) := hp.step (h name List.mem_cons_self)
    rcases ih (fun n hn => h n (List.mem_cons_of_mem _ hn)) hnext hq with hq | hq | hq
    · have hself : q = place.step name →
          q ∈ passed place (name :: rest) ∨
            q = (name :: rest).foldl FilePlace.step place := by
        rintro rfl
        exact (mem_passed_or_eq _ rest).imp_left (List.mem_cons_of_mem _)
      generalize hstep : place.step name = next at hq hself
      have hsteps := hstep ▸ hp.stepsTo name
      cases hsteps with
      | stay => exact .inl hq
      | up => exact (List.prefix_concat_iff.1 hq).elim (fun h => .inr (hself h)) .inl
      | back hplace => exact .inl (hq.trans (hplace ▸ List.prefix_append ..))
      | down => exact (List.prefix_concat_iff.1 hq).elim (fun h => .inr (hself h)) .inl
    · exact .inr (.inl (List.mem_cons_of_mem _ hq))
    · exact .inr (.inr hq)

lemma isFolder_of_prefix_start (t : FileTree) {path : String} {q : FilePlace}
    (h : q <+: FilePlace.start path) : t.isFolder q = true := by
  have habove : q.isAbove = true := by
    refine List.all_eq_true.2 fun name hname => ?_
    have hmem := h.subset hname
    rw [FilePlace.start] at hmem
    split_ifs at hmem
    · simp [List.mem_singleton.1 hmem]
    · cases hmem
  rw [FileTree.isFolder, habove, Bool.true_or]

/-- All places above this one are folders. -/
def Stands (t : FileTree) (place : FilePlace) : Prop :=
  ∀ q, q <+: place → q ≠ place → t.isFolder q = true

lemma stands_of_find? {t : FileTree} {path : String} {place : FilePlace}
    (h : t.find? path = some place) : Stands t place := by
  obtain ⟨-, hway, -, rfl⟩ := find?_eq_some_iff.1 h
  intro q hq hne
  rcases prefix_or_mem_passed (fun _ => slash_notMem_of_mem_pathNames) (resolved_start path) hq
    with hq | hq | hq
  · exact isFolder_of_prefix_start t hq
  · exact hway q hq
  · exact absurd hq hne

/-- Where a path turns off from the line to its end, the folders are there. -/
def Straight (t : FileTree) (path : String) : Prop :=
  ∀ q ∈ way path, q <+: placeOf path ∨ t.isFolder q = true

lemma prefix_of_mem_passed {names : List String} (h : ".." ∉ names) {place q : FilePlace}
    (hq : q ∈ passed place names) : q <+: names.foldl FilePlace.step place := by
  induction names generalizing place with
  | nil => cases hq
  | cons name rest ih =>
    rcases List.mem_cons.1 hq with rfl | hq
    · rw [foldl_step h]
      exact List.prefix_append ..
    · exact ih (List.ne_and_not_mem_of_not_mem_cons h).2 hq

/-- A path that never goes up is straight in every tree. -/
theorem straight_of_up_notMem {path : String} (h : ".." ∉ pathNames path) (t : FileTree) :
    Straight t path :=
  fun _ hq => .inl (prefix_of_mem_passed h hq)

/-! ### Writing -/

/-- More folders, and the same files. -/
structure Grows (t grown : FileTree) : Prop where
  files : grown.files = t.files
  folders : ∀ q, t.isFolder q = true → grown.isFolder q = true

lemma Grows.refl (t : FileTree) : Grows t t := ⟨rfl, fun _ => id⟩

lemma grows_makeWay (t : FileTree) (place : FilePlace) (names : List String) :
    Grows t (t.makeWay place names).1 := by
  induction names generalizing t place with
  | nil => exact .refl t
  | cons name rest ih =>
    simp only [FileTree.makeWay]
    split_ifs
    · exact ih ..
    · exact .refl t
    · obtain ⟨hfiles, hfolders⟩ := ih { t with folders := t.folders ++ [(place.step name).path] }
        (place.step name)
      refine ⟨hfiles, fun q hq => hfolders q ?_⟩
      rw [FileTree.isFolder, Bool.or_eq_true, List.contains_iff_mem] at hq ⊢
      exact hq.imp_right (List.mem_append_left _)

lemma grows_makeParents (t : FileTree) (path : String) : Grows t (t.makeParents path).1 := by
  simp only [FileTree.makeParents]
  split_ifs
  · exact grows_makeWay ..
  · exact .refl t

/-- Writing makes folders, and then the file at its place unless that is a folder. -/
lemma write_cases (t : FileTree) (path content : String) :
    ∃ grown, Grows t grown ∧
      (t.write path content = (grown, false) ∨
        grown.find? path = some (placeOf path) ∧ grown.isFolder (placeOf path) = false ∧
        t.write path content = (grown.setContent (placeOf path) content, true)) := by
  have hgrows := grows_makeParents t path
  rw [FileTree.write]
  cases hmade : t.makeParents path with
  | mk grown last =>
    rw [hmade] at hgrows
    refine ⟨grown, hgrows, ?_⟩
    cases last with
    | none => exact .inl rfl
    | some last =>
      dsimp only
      cases htarget : grown.target? path with
      | none => exact .inl rfl
      | some place =>
        rw [FileTree.target?, Option.filter_eq_some_iff, Bool.and_eq_true,
          Bool.not_eq_true'] at htarget
        obtain rfl := placeOf_of_find? htarget.1
        exact .inr ⟨htarget.1, htarget.2.2, rfl⟩

lemma isFile_eq (t : FileTree) (place : FilePlace) :
    t.isFile place = (t.files.get? place.path).isSome := by
  rw [FileTree.isFile, Entries.hasKey, Entries.get?, Option.isSome_map, List.isSome_find?]

/-- Every file stands in folders. -/
def Grounded (t : FileTree) : Prop :=
  ∀ path, t.isFile (placeOf path) = true → Stands t (placeOf path)

lemma Grounded.of_grows {t grown : FileTree} (h : Grounded t) (hgrows : Grows t grown) :
    Grounded grown := by
  intro path hfile q hq hne
  rw [FileTree.isFile, hgrows.files] at hfile
  exact hgrows.folders q (h path hfile q hq hne)

lemma Grounded.setContent {t : FileTree} (h : Grounded t) {path : String}
    (hstands : Stands t (placeOf path)) (content : String) :
    Grounded (t.setContent (placeOf path) content) := by
  intro other hfile
  by_cases hother : (placeOf other).path = (placeOf path).path
  · rw [placeOf_eq_of_path_eq hother]
    exact hstands
  · rw [isFile_eq, FileTree.setContent, Entries.get?_put_of_ne _ _ hother, ← isFile_eq] at hfile
    exact h other hfile

/-- A file is seen by a straight path if the path could lead to it in some other tree. -/
lemma exists?_of_straight {t other : FileTree} {path : String}
    (hfind : other.find? path = some (placeOf path))
    (hfolder : other.isFolder (placeOf path) = false) (hfile : t.isFile (placeOf path) = true)
    (hstands : Stands t (placeOf path)) (hstraight : Straight t path) :
    t.exists? path = true := by
  obtain ⟨hpath, hway, hfits, -⟩ := find?_eq_some_iff.1 hfind
  have hthere : ∀ q ∈ way path, t.isFolder q = true := by
    intro q hq
    refine (hstraight q hq).elim (fun habove => hstands q habove ?_) id
    rintro rfl
    rw [hway _ hq] at hfolder
    cases hfolder
  have hfound : t.find? path = some (placeOf path) := find?_eq_some_iff.2 ⟨hpath, hthere, hfits, rfl⟩
  rw [FileTree.exists?, hfound, Option.any_some, hfile, Bool.true_or]

end ClientGen.Proofs
