import ClientGen.OutputFiles
import ClientGen.Proofs.FileWays

/-!
# Written files

Output files are written one after the other, up to the first that cannot be written. Other files stay
as they are. A file that must not be replaced is looked for before the folders on its way are made, so
it is safe from straight paths only.
-/

namespace ClientGen.Proofs

open OutputFiles (isKept writeFrom)

variable {base : String} {t t' middle : FileTree} {f : OutputFile} {files before rest : List OutputFile}

/-- The path of the place to which a file goes below a folder. -/
def destination (base : String) (f : OutputFile) : String := (placeOf (joinPath base f.path)).path

/-- A file that leaves what stands at its destination. -/
def Spares (base : String) (t : FileTree) (f : OutputFile) : Prop :=
  f.overwrite = .ifMissing ∧ Straight t (joinPath base f.path)

/-! ### What files change -/

/-- Only the files of a list have changed a tree. -/
structure Changed (base : String) (files : List OutputFile) (t t' : FileTree) : Prop where
  folders : ∀ q, t.isFolder q = true → t'.isFolder q = true
  grounded : Grounded t → Grounded t'
  /-- What is no destination is as it was. -/
  others : ∀ key, (∀ f ∈ files, destination base f ≠ key) → t'.files.get? key = t.files.get? key
  /-- A file is as it was where all files that go there leave it. -/
  spared : Grounded t → ∀ key content, t.files.get? key = some content →
    (∀ f ∈ files, destination base f = key → Spares base t f) →
    t'.files.get? key = some content
  /-- No file takes the place of a folder. -/
  blocked : ∀ path, t.isFolder (placeOf path) = true →
    t'.files.get? (placeOf path).path = t.files.get? (placeOf path).path

lemma Changed.refl (base : String) (t : FileTree) : Changed base [] t t :=
  ⟨fun _ => id, id, fun _ _ => rfl, fun _ _ _ h _ => h, fun _ _ => rfl⟩

lemma Spares.of_changed (h : Changed base files t t') (hspares : Spares base t f) :
    Spares base t' f :=
  ⟨hspares.1, fun q hq => (hspares.2 q hq).imp_right (h.folders q)⟩

lemma Changed.trans (h : Changed base before t middle) (h' : Changed base rest middle t') :
    Changed base (before ++ rest) t t' where
  folders q hq := h'.folders q (h.folders q hq)
  grounded hg := h'.grounded (h.grounded hg)
  others key hkey := by
    rw [h'.others key fun f hf => hkey f (List.mem_append_right _ hf),
      h.others key fun f hf => hkey f (List.mem_append_left _ hf)]
  spared hg key content hcontent hspares := by
    have hmiddle := h.spared hg key content hcontent fun f hf =>
      hspares f (List.mem_append_left _ hf)
    exact h'.spared (h.grounded hg) key content hmiddle fun f hf hdest =>
      (hspares f (List.mem_append_right _ hf) hdest).of_changed h
  blocked path hfolder := by
    rw [h'.blocked path (h.folders _ hfolder), h.blocked path hfolder]

/-- A list of files has changed no more than a longer one. -/
lemma Changed.append_right (h : Changed base before t t') (rest : List OutputFile) :
    Changed base (before ++ rest) t t' where
  folders := h.folders
  grounded := h.grounded
  others key hkey := h.others key fun f hf => hkey f (List.mem_append_left _ hf)
  spared hg key content hcontent hspares :=
    h.spared hg key content hcontent fun f hf => hspares f (List.mem_append_left _ hf)
  blocked := h.blocked

lemma changed_of_grows (h : Grows t t') : Changed base [] t t' where
  folders := h.folders
  grounded hg := hg.of_grows h
  others key _ := by rw [h.files]
  spared _ key content hcontent _ := by rw [h.files, hcontent]
  blocked path _ := by rw [h.files]

/-- One file changes its destination at most, and only if it may, or does not see what is there. -/
lemma changed_write (hkept : isKept t base f = false) :
    Changed base [f] t (t.write (joinPath base f.path) f.content).1 := by
  obtain ⟨grown, hgrows, hwrite | ⟨hfind, hfolder, hwrite⟩⟩ :=
    write_cases t (joinPath base f.path) f.content
  · rw [hwrite]
    exact (changed_of_grows hgrows).append_right [f]
  rw [hwrite]
  have hother : ∀ key, destination base f ≠ key →
      (grown.setContent (placeOf (joinPath base f.path)) f.content).files.get? key =
        t.files.get? key := by
    intro key hkey
    rw [← hgrows.files]
    exact Entries.get?_put_of_ne _ _ (Ne.symm hkey)
  constructor
  case folders => exact hgrows.folders
  case grounded => exact fun hg => (hg.of_grows hgrows).setContent (stands_of_find? hfind) _
  case others => exact fun key hkey => hother key (hkey f List.mem_cons_self)
  case spared =>
    intro hg key content hcontent hspares
    by_cases hkey : destination base f = key
    · exfalso
      have hfile : t.isFile (placeOf (joinPath base f.path)) = true := by
        rw [isFile_eq]
        exact Option.isSome_of_eq_some (hkey ▸ hcontent)
      obtain ⟨hrule, hstraight⟩ := hspares f List.mem_cons_self hkey
      have hseen := exists?_of_straight hfind hfolder hfile (hg _ hfile) hstraight
      rw [isKept, hrule, hseen] at hkept
      cases hkept
    · rw [hother key hkey, hcontent]
  case blocked =>
    intro path hpath
    refine hother _ fun heq => ?_
    rw [placeOf_eq_of_path_eq heq, hgrows.folders _ hpath] at hfolder
    cases hfolder

/-! ### Passes -/

/-- A pass over files that ends, with what it did to each of them. -/
inductive Pass (base : String) : FileTree → List OutputFile → FileTree → WriteStats → Prop
  | done (t : FileTree) : Pass base t [] t {}
  | keep {t t' : FileTree} {f : OutputFile} {rest : List OutputFile} {s : WriteStats}
    (hkept : isKept t base f = true) (h : Pass base t rest t' s) :
    Pass base t (f :: rest) t'
      { s with skipped := s.skipped + 1, skippedPaths := f.path :: s.skippedPaths }
  | write {t middle t' : FileTree} {f : OutputFile} {rest : List OutputFile} {s : WriteStats}
    (hkept : isKept t base f = false)
    (hwrite : t.write (joinPath base f.path) f.content = (middle, true))
    (h : Pass base middle rest t' s) :
    Pass base t (f :: rest) t'
      { s with written := s.written + 1, writtenPaths := f.path :: s.writtenPaths }

/-- A pass that stops at a file: those before it are done, and nothing is tried behind it. -/
inductive Stopped (base : String) (t : FileTree) :
    List OutputFile → FileTree → Failure → Prop
  | stop {middle t' : FileTree} {f : OutputFile} {before : List OutputFile} {s : WriteStats}
    (rest : List OutputFile) (h : Pass base t before middle s) (hkept : isKept middle base f = false)
    (hwrite : middle.write (joinPath base f.path) f.content = (t', false)) :
    Stopped base t (before ++ f :: rest) t' (.write (joinPath base f.path))

lemma Pass.changed {s : WriteStats} (h : Pass base t files t' s) : Changed base files t t' := by
  induction h with
  | done t => exact .refl base t
  | @keep t _ f _ _ _ _ ih => exact ((Changed.refl base t).append_right [f]).trans ih
  | write hkept hwrite h ih =>
    have hstep := changed_write hkept
    rw [hwrite] at hstep
    exact hstep.trans ih

lemma Stopped.changed {failure : Failure} (h : Stopped base t files t' failure) :
    Changed base files t t' := by
  obtain ⟨rest, hpass, hkept, hwrite⟩ := h
  have hlast := changed_write hkept
  rw [hwrite] at hlast
  exact hpass.changed.trans (hlast.append_right rest)

lemma Pass.of_append {s : WriteStats} (h : Pass base t (before ++ rest) t' s) :
    ∃ middle s₁ s₂, Pass base t before middle s₁ ∧ Pass base middle rest t' s₂ := by
  induction before generalizing t s with
  | nil => exact ⟨t, {}, s, .done t, h⟩
  | cons f before ih =>
    cases h with
    | keep hkept h =>
      obtain ⟨middle, s₁, s₂, hbefore, hrest⟩ := ih h
      exact ⟨middle, _, s₂, .keep hkept hbefore, hrest⟩
    | write hkept hwrite h =>
      obtain ⟨middle, s₁, s₂, hbefore, hrest⟩ := ih h
      exact ⟨middle, _, s₂, .write hkept hwrite hbefore, hrest⟩

/-- The statistics have each file once, in order, and count as many as they list. -/
structure Accounts (files : List OutputFile) (s : WriteStats) : Prop where
  written : s.writtenPaths.Sublist (files.map (·.path))
  skipped : s.skippedPaths.Sublist (files.map (·.path))
  all : (s.writtenPaths ++ s.skippedPaths).Perm (files.map (·.path))
  writtenCount : s.written = s.writtenPaths.length
  skippedCount : s.skipped = s.skippedPaths.length

lemma Accounts.total_eq {s : WriteStats} (h : Accounts files s) : s.total = files.length := by
  rw [WriteStats.total, h.writtenCount, h.skippedCount, ← List.length_append, h.all.length_eq,
    List.length_map]

lemma Pass.accounts {s : WriteStats} (h : Pass base t files t' s) : Accounts files s := by
  induction h with
  | done t => exact ⟨.slnil, .slnil, .nil, rfl, rfl⟩
  | keep hkept h ih =>
    exact {
      written := ih.written.cons _
      skipped := ih.skipped.cons_cons _
      all := List.perm_middle.trans (ih.all.cons _)
      writtenCount := ih.writtenCount
      skippedCount := congrArg (· + 1) ih.skippedCount }
  | write hkept hwrite h ih =>
    exact {
      written := ih.written.cons_cons _
      skipped := ih.skipped.cons _
      all := ih.all.cons _
      writtenCount := congrArg (· + 1) ih.writtenCount
      skippedCount := ih.skippedCount }

/-- The statistics of files and of more files behind them. -/
def joined (s more : WriteStats) : WriteStats where
  written := s.written + more.written
  skipped := s.skipped + more.skipped
  writtenPaths := s.writtenPaths ++ more.writtenPaths
  skippedPaths := s.skippedPaths ++ more.skippedPaths

lemma joined_empty (s : WriteStats) : joined s {} = s := by
  simp [joined]

lemma empty_joined (s : WriteStats) : joined {} s = s := by
  simp [joined]

lemma joined_addSkipped (s more : WriteStats) (path : String) :
    joined (s.addSkipped path) more = joined s
      { more with skipped := more.skipped + 1, skippedPaths := path :: more.skippedPaths } := by
  simp [joined, WriteStats.addSkipped, Nat.add_assoc, Nat.add_comm 1]

lemma joined_addWritten (s more : WriteStats) (path : String) :
    joined (s.addWritten path) more = joined s
      { more with written := more.written + 1, writtenPaths := path :: more.writtenPaths } := by
  simp [joined, WriteStats.addWritten, Nat.add_assoc, Nat.add_comm 1]

lemma writeFrom_kept (hkept : isKept t base f = true) (done : WriteStats) :
    writeFrom base t done (f :: rest) = writeFrom base t (done.addSkipped f.path) rest :=
  if_pos hkept

lemma writeFrom_written (hkept : isKept t base f = false)
    (hwrite : t.write (joinPath base f.path) f.content = (middle, true)) (done : WriteStats) :
    writeFrom base t done (f :: rest) = writeFrom base middle (done.addWritten f.path) rest := by
  refine (if_neg (Bool.eq_false_iff.1 hkept)).trans ?_
  rw [hwrite]

lemma writeFrom_stopped (hkept : isKept t base f = false)
    (hwrite : t.write (joinPath base f.path) f.content = (t', false)) (done : WriteStats) :
    writeFrom base t done (f :: rest) = (t', .error (.write (joinPath base f.path))) := by
  refine (if_neg (Bool.eq_false_iff.1 hkept)).trans ?_
  rw [hwrite]

/-- Writing the files is a pass that ends or stops. -/
lemma writeFrom_cases (base : String) (t : FileTree) (done : WriteStats)
    (files : List OutputFile) :
    (∃ t' s, writeFrom base t done files = (t', .ok (joined done s)) ∧ Pass base t files t' s) ∨
    ∃ t' failure, writeFrom base t done files = (t', .error failure) ∧
      Stopped base t files t' failure := by
  induction files generalizing t done with
  | nil =>
    refine .inl ⟨t, {}, ?_, .done t⟩
    rw [joined_empty]
    rfl
  | cons f rest ih =>
    cases hkept : isKept t base f with
    | true =>
      rw [writeFrom_kept hkept]
      rcases ih t (done.addSkipped f.path) with
        ⟨t', s, hrun, h⟩ | ⟨t', _, hrun, ⟨rest, hpass, hfree, hstop⟩⟩
      · refine .inl ⟨t', _, ?_, .keep hkept h⟩
        rw [hrun, joined_addSkipped]
      · exact .inr ⟨t', _, hrun, .stop rest (.keep hkept hpass) hfree hstop⟩
    | false =>
      rcases hwrite : t.write (joinPath base f.path) f.content with ⟨middle, _ | _⟩
      · exact .inr ⟨middle, _, writeFrom_stopped hkept hwrite done, .stop rest (.done t) hkept hwrite⟩
      · rw [writeFrom_written hkept hwrite]
        rcases ih middle (done.addWritten f.path) with
          ⟨t', s, hrun, h⟩ | ⟨t', _, hrun, ⟨rest, hpass, hfree, hstop⟩⟩
        · refine .inl ⟨t', _, ?_, .write hkept hwrite h⟩
          rw [hrun, joined_addWritten]
        · exact .inr ⟨t', _, hrun, .stop rest (.write hkept hwrite hpass) hfree hstop⟩

lemma writeAll_cases (o : OutputFiles) (base : String) (t : FileTree) :
    (∃ t' s, o.writeAll base t = (t', .ok s) ∧ Pass base t o.files t' s) ∨
    ∃ t' failure, o.writeAll base t = (t', .error failure) ∧ Stopped base t o.files t' failure := by
  have hcases := writeFrom_cases base t {} o.files
  simp only [empty_joined] at hcases
  exact hcases

lemma changed_writeAll (o : OutputFiles) (base : String) (t : FileTree) :
    Changed base o.files t (o.writeAll base t).1 := by
  rcases writeAll_cases o base t with ⟨t', s, hrun, h⟩ | ⟨t', failure, hrun, h⟩
  all_goals
    rw [hrun]
    exact h.changed

/-! ### Contents after a pass -/

lemma get?_written (hwrite : t.write (joinPath base f.path) f.content = (t', true)) :
    t'.files.get? (destination base f) = some f.content := by
  obtain ⟨grown, -, hfail | ⟨-, -, hdone⟩⟩ := write_cases t (joinPath base f.path) f.content
  · rw [hwrite] at hfail
    cases hfail
  · rw [hwrite] at hdone
    obtain rfl := (Prod.mk.inj hdone).1
    exact Entries.get?_put_self ..

/-- The last file that may replace others stays. -/
lemma Pass.get?_last {s : WriteStats} (h : Pass base t (before ++ f :: rest) t' s)
    (hrule : f.overwrite = .always)
    (hlast : ∀ g ∈ rest, destination base g ≠ destination base f) :
    t'.files.get? (destination base f) = some f.content := by
  obtain ⟨middle, s₁, s₂, -, h⟩ := h.of_append
  cases h with
  | keep hkept h => simp [isKept, hrule] at hkept
  | write hkept hwrite h => rw [h.changed.others _ hlast, get?_written hwrite]

lemma isFolder_of_isKept (hkept : isKept t base f = true)
    (hfile : t.files.get? (destination base f) = none) :
    t.isFolder (placeOf (joinPath base f.path)) = true := by
  rw [isKept, Bool.and_eq_true, FileTree.exists?, Option.any_eq_true] at hkept
  obtain ⟨-, place, hplace, hthere⟩ := hkept
  obtain rfl := placeOf_of_find? hplace
  have hnone : t.isFile (placeOf (joinPath base f.path)) = false := by
    rw [isFile_eq]
    exact Option.isSome_eq_false_iff.2 (Option.isNone_iff_eq_none.2 hfile)
  rwa [hnone, Bool.false_or] at hthere

/-- A file that was there stays, and else the first one written, if no later one may replace it. Only
a folder at its place keeps the first one out. -/
lemma Pass.get?_first {s : WriteStats} (h : Pass base t (before ++ f :: rest) t' s)
    (hg : Grounded t) (hfirst : ∀ g ∈ before, destination base g ≠ destination base f)
    (hspares : ∀ g ∈ f :: rest, destination base g = destination base f → Spares base t g) :
    t'.files.get? (destination base f) =
        some ((t.files.get? (destination base f)).getD f.content) ∨
      t'.isFolder (placeOf (joinPath base f.path)) = true ∧
        t.files.get? (destination base f) = none ∧ t'.files.get? (destination base f) = none := by
  cases hold : t.files.get? (destination base f) with
  | some old =>
    refine .inl (h.changed.spared hg _ old hold fun g hmem hdest => ?_)
    rcases List.mem_append.1 hmem with hmem | hmem
    · exact absurd hdest (hfirst g hmem)
    · exact hspares g hmem hdest
  | none =>
    obtain ⟨middle, s₁, s₂, hbefore, hrest⟩ := h.of_append
    have hmiddle : middle.files.get? (destination base f) = none := by
      rw [hbefore.changed.others _ hfirst, hold]
    cases hrest with
    | keep hkept h =>
      have hfolder := isFolder_of_isKept hkept hmiddle
      exact .inr ⟨h.changed.folders _ hfolder, rfl, (h.changed.blocked _ hfolder).trans hmiddle⟩
    | write hkept hwrite h =>
      have hstep := hbefore.changed.trans (changed_write hkept)
      rw [hwrite] at hstep
      exact .inl (h.changed.spared (hstep.grounded hg) _ _ (get?_written hwrite) fun g hmem hdest =>
        (hspares g (List.mem_cons_of_mem _ hmem) hdest).of_changed hstep)

/-- Writing all files is a pass over them in order that ends, or stops at the first that cannot be
written. In either case a file that is no destination stays as it is, and so does one that was there if
each file that goes to its place leaves it. When the pass ends, it tells each path once, and a
destination holds the last file that goes there if that may replace others. Where none may, it holds
what was there, or else the first file that goes there, unless it is a folder. -/
theorem writeAll_outcome (o : OutputFiles) (base : String) (t : FileTree) :
    ∃ t' result, o.writeAll base t = (t', result) ∧ Changed base o.files t t' ∧
      ((∃ failure, result = .error failure ∧ Stopped base t o.files t' failure) ∨
        ∃ s, result = .ok s ∧ Pass base t o.files t' s ∧
          s.total = o.size ∧ Accounts o.files s ∧
          ∀ before f rest, o.files = before ++ f :: rest →
            (f.overwrite = .always → (∀ g ∈ rest, destination base g ≠ destination base f) →
              t'.files.get? (destination base f) = some f.content) ∧
            (Grounded t → (∀ g ∈ before, destination base g ≠ destination base f) →
              (∀ g ∈ f :: rest, destination base g = destination base f → Spares base t g) →
              t'.files.get? (destination base f) =
                  some ((t.files.get? (destination base f)).getD f.content) ∨
                t'.isFolder (placeOf (joinPath base f.path)) = true ∧
                  t.files.get? (destination base f) = none ∧
                  t'.files.get? (destination base f) = none)) := by
  rcases writeAll_cases o base t with ⟨t', s, hrun, h⟩ | ⟨t', failure, hrun, h⟩
  · refine ⟨t', .ok s, hrun, h.changed, .inr ⟨s, rfl, h, h.accounts.total_eq, h.accounts, ?_⟩⟩
    intro before f rest hfiles
    rw [hfiles] at h
    exact ⟨h.get?_last, h.get?_first⟩
  · exact ⟨t', .error failure, hrun, h.changed, .inl ⟨failure, rfl, h⟩⟩

/-- If no file may be replaced and no path goes up, every file that was there stays, also when the
pass stops. When it ends, each destination holds what was there, or else the first file that goes
there, unless it is a folder. -/
theorem writeAll_ifMissing {o : OutputFiles} (base : String) {t : FileTree} (hg : Grounded t)
    (hrule : ∀ f ∈ o.files, f.overwrite = .ifMissing)
    (hup : ∀ f ∈ o.files, ".." ∉ pathNames (joinPath base f.path)) :
    (∀ key content, t.files.get? key = some content →
        (o.writeAll base t).1.files.get? key = some content) ∧
      ∀ t' s, o.writeAll base t = (t', .ok s) → ∀ before f rest, o.files = before ++ f :: rest →
        (∀ g ∈ before, destination base g ≠ destination base f) →
        t'.files.get? (destination base f) =
            some ((t.files.get? (destination base f)).getD f.content) ∨
          t'.isFolder (placeOf (joinPath base f.path)) = true ∧
            t.files.get? (destination base f) = none ∧
            t'.files.get? (destination base f) = none := by
  have hspares : ∀ f ∈ o.files, Spares base t f := fun f hf =>
    ⟨hrule f hf, straight_of_up_notMem (hup f hf) t⟩
  refine ⟨fun key content hcontent => ?_, fun t' s hrun before f rest hfiles hfirst => ?_⟩
  · exact (changed_writeAll o base t).spared hg key content hcontent fun f hf _ => hspares f hf
  · rcases writeAll_cases o base t with ⟨_, _, hended, h⟩ | ⟨_, _, hstopped, -⟩
    · obtain ⟨rfl, -⟩ := Prod.mk.inj (hended.symm.trans hrun)
      rw [hfiles] at h hspares
      exact h.get?_first hg hfirst fun g hmem _ => hspares g (List.mem_append_right _ hmem)
    · rw [hstopped] at hrun
      cases (Prod.mk.inj hrun).2

instance (t : FileTree) (path : String) : Decidable (Straight t path) :=
  inferInstanceAs (Decidable (∀ q ∈ way path, q <+: placeOf path ∨ t.isFolder q = true))

instance (base : String) (t : FileTree) (f : OutputFile) : Decidable (Spares base t f) :=
  inferInstanceAs (Decidable (_ ∧ Straight t _))

/-- A file for a place that is there already, by a path through another folder, and two for a new
place. -/
def roundabout : OutputFiles := OutputFiles.setOverwrite
  ⟨[⟨"x/../a", "new", .supporting, .always⟩, ⟨"b", "first", .supporting, .always⟩,
    ⟨"./b", "second", .supporting, .always⟩]⟩ .ifMissing

/-- A tree with the file `a` and some folders. -/
def treeOf (folders : List String) : FileTree := (FileTree.write { folders } "a" "old").1

lemma grounded_treeOf (folders : List String) : Grounded (treeOf folders) := by
  obtain ⟨grown, hgrows, hwrite | ⟨hfind, -, hwrite⟩⟩ := write_cases { folders } "a" "old"
  all_goals have hstart : Grounded { folders } := fun path hfile => by cases hfile
  · rw [treeOf, hwrite]
    exact hstart.of_grows hgrows
  · rw [treeOf, hwrite]
    exact (hstart.of_grows hgrows).setContent (stands_of_find? hfind) _

/-- The file `a` stays if the path to it goes through a folder that is there. If the folder is made
first, the path is not straight, and the file is replaced. -/
theorem writeAll_outcome_roundabout :
    (∃ t' s, roundabout.writeAll "" (treeOf ["x"]) = (t', .ok s) ∧
      s = ⟨1, 2, ["b"], ["x/../a", "./b"]⟩ ∧
      t'.files.get? "a" = some "old" ∧ t'.files.get? "b" = some "first") ∧
    ¬Straight (treeOf []) "x/../a" ∧
    (treeOf []).files.get? "a" = some "old" ∧
    (roundabout.writeAll "" (treeOf [])).1.files.get? "a" = some "new" ∧
    (roundabout.writeAll "" (treeOf [])).2.toOption = some ⟨2, 1, ["x/../a", "b"], ["./b"]⟩ := by
  refine ⟨?_, by decide +kernel, by decide +kernel, by decide +kernel, by decide +kernel⟩
  obtain ⟨t', result, hrun, hchanged, houtcome⟩ := writeAll_outcome roundabout "" (treeOf ["x"])
  have hspares : ∀ f ∈ roundabout.files, Spares "" (treeOf ["x"]) f := by decide +kernel
  have hok : (roundabout.writeAll "" (treeOf ["x"])).2.toOption =
      some ⟨1, 2, ["b"], ["x/../a", "./b"]⟩ := by decide +kernel
  have hfree : (roundabout.writeAll "" (treeOf ["x"])).1.isFolder (placeOf "b") = false := by
    decide +kernel
  rw [hrun] at hok hfree
  rcases houtcome with ⟨failure, rfl, -⟩ | ⟨s, rfl, -, -, -, hdestinations⟩
  · cases hok
  refine ⟨t', s, hrun, Option.some.inj hok, ?_, ?_⟩
  · exact hchanged.spared (grounded_treeOf _) "a" "old" (by decide +kernel) fun f hf _ =>
      hspares f hf
  · have hb := (hdestinations [⟨"x/../a", "new", .supporting, .ifMissing⟩]
      ⟨"b", "first", .supporting, .ifMissing⟩ [⟨"./b", "second", .supporting, .ifMissing⟩] rfl).2
      (grounded_treeOf _) (by decide +kernel) fun f hf _ =>
        hspares f (List.mem_cons_of_mem _ hf)
    have hnone : (treeOf ["x"]).files.get?
        (destination "" ⟨"b", "first", .supporting, .ifMissing⟩) = none := by decide +kernel
    rw [hnone] at hb
    rcases hb with hb | ⟨hfolder, -⟩
    · exact hb
    · exact absurd hfolder (Bool.eq_false_iff.1 hfree)

end ClientGen.Proofs
