import Mathlib.Data.List.TakeWhile
import ClientGen.FileTree
import ClientGen.Proofs.Places
import ClientGen.Proofs.Words

/-!
# Names along a path

A path is contained if it does not start at the root and has no name `..`. Joined to any folder it
leads from the place of that folder only further down. Whether a file of a folder is contained
depends on the folder alone, as long as the file itself is.
-/

namespace ClientGen.Proofs

/-! ### Names between slashes -/

lemma pathNames_append_slash (before after : String) :
    pathNames (before ++ "/" ++ after) = pathNames before ++ pathNames after := by
  have hsplit := List.splitOnP_append_cons (p := (· == '/')) before.toList after.toList
    (beq_self_eq_true '/')
  have hlist : (before ++ "/" ++ after).toList = before.toList ++ '/' :: after.toList := by
    simp [String.toList_append]
  rw [pathNames, hlist, hsplit, List.map_append]
  rfl

lemma pathNames_of_notMem {file : String} (h : '/' ∉ file.toList) : pathNames file = [file] := by
  have hsplit : file.toList.splitOnP (· == '/') = [file.toList] := by
    refine List.splitOnP_eq_singleton fun ch hch => ?_
    simpa using ne_of_mem_of_not_mem hch h
  rw [pathNames, hsplit, List.map_singleton, String.ofList_toList]

/-- Slashes at the end of a path add empty names only. -/
lemma mem_pathNames_append_slashes {name : String} (hname : name ≠ "") {slashes : List Char}
    (h : ∀ ch ∈ slashes, ch = '/') (cs : List Char) :
    name ∈ pathNames (.ofList (cs ++ slashes)) ↔ name ∈ pathNames (.ofList cs) := by
  cases slashes with
  | nil => rw [List.append_nil]
  | cons slash rest =>
    obtain rfl := h slash List.mem_cons_self
    have hnone : name ∉ pathNames (.ofList rest) := by
      intro hmem
      rw [pathNames, String.toList_ofList] at hmem
      obtain ⟨piece, hpiece, rfl⟩ := List.mem_map.1 hmem
      cases piece with
      | nil => exact hname rfl
      | cons ch _ =>
        obtain ⟨hch, hslash⟩ := mem_of_mem_splitOnP hpiece List.mem_cons_self
        rw [h ch (List.mem_cons_of_mem _ hch)] at hslash
        cases hslash
    have hcut : String.ofList (cs ++ '/' :: rest) = .ofList cs ++ "/" ++ .ofList rest := by
      rw [← String.toList_inj]
      simp [String.toList_append]
    rw [hcut, pathNames_append_slash, List.mem_append]
    exact or_iff_left hnone

/-- A path is a name, or a path, a slash and a last name. -/
lemma lastSlash_cases (path : String) :
    '/' ∉ path.toList ∨ ∃ before last, '/' ∉ last.toList ∧ path = before ++ "/" ++ last := by
  by_cases h : '/' ∈ path.toList
  · right
    obtain ⟨after, before, hsplit, hafter⟩ := List.eq_append_cons_of_mem (List.mem_reverse.2 h)
    refine ⟨.ofList before.reverse, .ofList after.reverse, by simpa using hafter, ?_⟩
    have hpath := congrArg List.reverse hsplit
    rw [List.reverse_reverse, List.reverse_append, List.reverse_cons] at hpath
    rw [← String.toList_inj, hpath]
    simp [String.toList_append]
  · exact .inl h

/-! ### Places that paths lead to -/

/-- The place that a path names, if all folders on the way are there. -/
def placeOf (path : String) : FilePlace := (pathNames path).foldl .step (.start path)

lemma placeOf_of_find? {tree : FileTree} {path : String} {place : FilePlace}
    (h : tree.find? path = some place) : place = placeOf path := by
  have hfollow : ∀ (names : List String) (start : FilePlace),
      tree.follow? start names = some place → place = names.foldl .step start := by
    intro names
    induction names with
    | nil =>
      intro start h
      exact (Option.some.inj h).symm
    | cons name rest ih =>
      intro start h
      rw [FileTree.follow?] at h
      split_ifs at h
      exact ih _ h
  rw [FileTree.find?] at h
  split_ifs at h
  exact hfollow _ _ h

/-- Without `..`, names lead only further down. -/
lemma foldl_step {names : List String} (h : ".." ∉ names) (place : FilePlace) :
    names.foldl FilePlace.step place = place ++ names.filter fun name => !isStay name := by
  induction names generalizing place with
  | nil => simp
  | cons name rest ih =>
    obtain ⟨hname, hrest⟩ := List.ne_and_not_mem_of_not_mem_cons h
    rw [List.foldl_cons, ih hrest, FilePlace.step]
    cases hstay : isStay name with
    | true => simp [hstay]
    | false => simp [hstay, hname.symm]

/-! ### Contained paths -/

/-- A path that does not start at the root and never goes up. -/
def IsContained (path : String) : Prop := path.toList.head? ≠ some '/' ∧ ".." ∉ pathNames path

lemma up_mem_pathNames_iff {path : String} :
    ".." ∈ pathNames path ↔ ['.', '.'] ∈ path.toList.splitOnP (· == '/') := by
  have hup : ".." = String.ofList ['.', '.'] := rfl
  rw [pathNames, hup]
  exact List.mem_map_of_injective fun _ _ => String.ofList_inj.1

/-- Characters are compared, which needs no text for each name. -/
instance : DecidablePred IsContained := fun path =>
  decidable_of_iff
    (path.toList.head? ≠ some '/' ∧ ['.', '.'] ∉ path.toList.splitOnP (· == '/'))
    (by rw [IsContained, up_mem_pathNames_iff])

lemma placeOf_of_isContained {path : String} (h : IsContained path) :
    placeOf path = (pathNames path).filter fun name => !isStay name := by
  have hstart : FilePlace.start path = [] := by simp [FilePlace.start, h.1]
  rw [placeOf, hstart, foldl_step h.2, List.nil_append]

lemma start_append_slash {before : String} (hne : before ≠ "") (after : String) :
    FilePlace.start (before ++ "/" ++ after) = FilePlace.start before := by
  obtain ⟨ch, rest, hcs⟩ := List.exists_cons_of_ne_nil (mt String.toList_eq_nil_iff.1 hne)
  simp [FilePlace.start, String.toList_append, hcs]

/-- The names of a path after a slash are followed from the place before it. -/
lemma placeOf_append_slash {before : String} (hne : before ≠ "") {path : String}
    (h : IsContained path) : placeOf (before ++ "/" ++ path) = placeOf before ++ placeOf path := by
  rw [placeOf, start_append_slash hne, pathNames_append_slash, List.foldl_append, foldl_step h.2,
    placeOf_of_isContained h]
  rfl

/-- A contained path leads from any folder to a place below it. -/
theorem placeOf_joinPath {path : String} (h : IsContained path) (base : String) :
    placeOf (joinPath base path) = placeOf base ++ placeOf path := by
  unfold joinPath
  have hrelative : (path.toList.head? == some '/') = false := by simpa using h.1
  rw [hrelative, Bool.false_or]
  split_ifs with hempty hslash
  · have hbase : base = "" := by simpa using hempty
    rw [hbase]
    rfl
  · -- The base has a slash of its own, behind which stands an empty name.
    obtain ⟨cs, hcs⟩ := List.getLast?_eq_some_iff.1 (beq_iff_eq.1 hslash)
    have hbase : base = .ofList cs ++ "/" ++ "" := by
      rw [← String.toList_inj, hcs]
      simp [String.toList_append]
    by_cases hroot : cs = []
    · subst hroot
      obtain rfl : base = "/" := hbase
      have hstart : FilePlace.start ("/" ++ path) = ["/"] := by
        simp [FilePlace.start, String.toList_append]
      have hnames : pathNames ("/" ++ path) = "" :: pathNames path :=
        pathNames_append_slash "" path
      rw [placeOf, hstart, hnames, List.foldl_cons, foldl_step h.2, placeOf_of_isContained h]
      rfl
    · have hne : String.ofList cs ≠ "" := by simpa using hroot
      have hstop : placeOf base = placeOf (.ofList cs) := by
        rw [hbase, placeOf_append_slash hne (by decide)]
        exact List.append_nil _
      rw [hstop, hbase, String.append_empty, placeOf_append_slash hne h]
  · exact placeOf_append_slash (by simpa using hempty) h

/-- A slash after an empty text makes a path that starts at the root. -/
lemma isContained_append_slash_iff {before after : String} (hafter : ".." ∉ pathNames after) :
    IsContained (before ++ "/" ++ after) ↔ before ≠ "" ∧ IsContained before := by
  have hnames : ".." ∉ pathNames (before ++ "/" ++ after) ↔ ".." ∉ pathNames before := by
    rw [pathNames_append_slash, List.mem_append, or_iff_left hafter]
  unfold IsContained
  rw [hnames]
  cases hcs : before.toList with
  | nil =>
    obtain rfl := String.toList_eq_nil_iff.1 hcs
    simp [String.toList_append]
  | cons ch rest =>
    have hne : before ≠ "" := by
      rintro rfl
      cases hcs
    simp [String.toList_append, hcs, hne]

/-- A file is contained in its folder just when the folder is contained. -/
theorem isContained_joinFolder_iff {file : String} (hne : file ≠ "") (hfile : IsContained file)
    (folder : String) : IsContained (joinFolder folder file) ↔ IsContained folder := by
  rw [joinFolder_eq hne]
  by_cases hempty : folder = ""
  · subst hempty
    exact iff_of_true hfile (by decide)
  -- The folder without the slashes at its end.
  let kept := (folder.toList.reverse.dropWhile (· == '/')).reverse
  let slashes := (folder.toList.reverse.takeWhile (· == '/')).reverse
  have hcs : folder.toList = kept ++ slashes := by
    rw [← List.reverse_append, List.takeWhile_append_dropWhile, List.reverse_reverse]
  have hslashes : ∀ ch ∈ slashes, ch = '/' := by
    intro ch hch
    simpa using List.mem_takeWhile_imp (List.mem_reverse.1 hch)
  have hstart : folderStart folder = .ofList kept ++ "/" := by
    rw [folderStart, if_neg (by simpa using hempty)]
  have hnames : ".." ∈ pathNames folder ↔ ".." ∈ pathNames (.ofList kept) := by
    have hfolder : folder = .ofList (kept ++ slashes) := by rw [← hcs, String.ofList_toList]
    rw [hfolder]
    exact mem_pathNames_append_slashes (by decide) hslashes kept
  rw [hstart, isContained_append_slash_iff hfile.2]
  unfold IsContained
  rw [hnames, hcs]
  cases hkept : kept with
  | nil =>
    have hhead : slashes.head? = some '/' := by
      cases hsl : slashes with
      | nil =>
        rw [hkept, hsl] at hcs
        exact absurd (String.toList_eq_nil_iff.1 hcs) hempty
      | cons slash rest => rw [hslashes slash (hsl ▸ List.mem_cons_self), List.head?_cons]
    simp [hhead]
  | cons ch rest => simp

/-- What follows the last name of a path is part of that name. -/
lemma IsContained.append_ending {path ending : String} (hpath : IsContained path)
    (hslash : '/' ∉ ending.toList) {last : Char} (hlast : ending.toList.getLast? = some last)
    (hdot : last ≠ '.') : IsContained (path ++ ending) := by
  have hname : ∀ name : String, name ++ ending ≠ ".." := by
    intro name h
    have hend := congrArg (·.toList.getLast?) h
    rw [String.toList_append, List.getLast?_append, hlast] at hend
    exact hdot (Option.some.inj hend)
  have hslashes : ∀ {name : String}, '/' ∉ name.toList → '/' ∉ (name ++ ending).toList := by
    intro name h
    rw [String.toList_append, List.mem_append]
    exact not_or.2 ⟨h, hslash⟩
  constructor
  · by_cases hempty : path = ""
    · rw [hempty, String.empty_append]
      exact fun h => hslash (List.mem_of_head? h)
    · obtain ⟨ch, rest, hcs⟩ := List.exists_cons_of_ne_nil (mt String.toList_eq_nil_iff.1 hempty)
      simpa [String.toList_append, hcs] using hpath.1
  · rcases lastSlash_cases path with h | ⟨before, name, h, rfl⟩
    · rw [pathNames_of_notMem (hslashes h), List.mem_singleton]
      exact (hname path).symm
    · have hnames := hpath.2
      rw [pathNames_append_slash, List.mem_append, not_or] at hnames
      rw [String.append_assoc, pathNames_append_slash, pathNames_of_notMem (hslashes h),
        List.mem_append, List.mem_singleton]
      exact not_or.2 ⟨hnames.1, (hname name).symm⟩

end ClientGen.Proofs
