import Mathlib.Data.List.Basic
import Mathlib.Tactic.Common
import ClientGen.Layout

/-!
# Places of the output

A file goes below the folder of the sources or to the root, and one file at the root is named for
the project. Whatever the texts of folder and project are, distinct places have distinct paths: the
last letters of the files tell sources, files at the root and the file of the project apart.
-/

namespace ClientGen.Proofs

/-! ### Joined folders -/

/-- What stands before a file in a folder. -/
def folderStart (folder : String) : String :=
  if folder.isEmpty then ""
  else .ofList (folder.toList.reverse.dropWhile (· == '/')).reverse ++ "/"

lemma joinFolder_eq {child : String} (h : child ≠ "") (base : String) :
    joinFolder base child = folderStart base ++ child := by
  have hchild : child.isEmpty = false := by simpa using h
  unfold joinFolder folderStart
  rw [hchild, if_neg Bool.false_ne_true]
  split_ifs <;> simp

/-- A folder that ends in another character than a slash gets one. -/
lemma folderStart_of_getLast? {folder : String} {last : Char}
    (h : folder.toList.getLast? = some last) (hlast : last ≠ '/') :
    folderStart folder = folder ++ "/" := by
  have hne : folder.isEmpty = false := by
    rw [String.isEmpty_eq_false_iff]
    rintro rfl
    cases h
  have hdrop : folder.toList.reverse.dropWhile (· == '/') = folder.toList.reverse := by
    obtain ⟨rest, hrest⟩ := List.getLast?_eq_some_iff.1 h
    rw [hrest, List.reverse_append, List.reverse_singleton, List.singleton_append,
      List.dropWhile_cons_of_neg (by simpa using hlast)]
  rw [folderStart, hne, if_neg Bool.false_ne_true, hdrop, List.reverse_reverse, String.ofList_toList]

lemma folderStart_joinFolder {folder : String} {last : Char}
    (h : folder.toList.getLast? = some last) (hlast : last ≠ '/') (base : String) :
    folderStart (joinFolder base folder) = folderStart base ++ folder ++ "/" := by
  have hne : folder ≠ "" := by
    rintro rfl
    cases h
  rw [joinFolder_eq hne]
  refine folderStart_of_getLast? ?_ hlast
  rw [String.toList_append, List.getLast?_append, h]
  rfl

lemma joinFolder_joinFolder {folder file : String} {last : Char}
    (h : folder.toList.getLast? = some last) (hlast : last ≠ '/') (hfile : file ≠ "")
    (base : String) :
    joinFolder (joinFolder base folder) file = joinFolder base (folder ++ "/" ++ file) := by
  have hne : folder ++ "/" ++ file ≠ "" := by simp [hfile]
  rw [joinFolder_eq hfile, folderStart_joinFolder h hlast, joinFolder_eq hne, String.append_assoc,
    String.append_assoc, String.append_assoc]

/-! ### Places -/

/-- Where a file goes. -/
inductive Place
  /-- Below the folder of the sources. -/
  | source (file : String)
  | root (file : String)
  /-- At the root, named for the project. -/
  | project
deriving DecidableEq

namespace Place

def path (source project : String) : Place → String
  | .source file => joinFolder source file
  | .root file => file
  | .project => project ++ ".podspec"

/-- Sources end in `t`, and other files at the root neither so nor like the file of the project. -/
def Proper : Place → Prop
  | .source file => file.toList.getLast? = some 't'
  | .root file => file.toList.getLast? ≠ some 't' ∧ file.toList.getLast? ≠ some 'c'
  | .project => True

instance : DecidablePred Proper
  | .source _ => inferInstanceAs (Decidable (_ = _))
  | .root _ => inferInstanceAs (Decidable (_ ∧ _))
  | .project => .isTrue trivial

variable {source project : String}

lemma getLast?_path_source {file : String} (h : (Place.source file).Proper) :
    ((Place.source file).path source project).toList.getLast? = some 't' := by
  have hne : file ≠ "" := by
    rintro rfl
    cases h
  rw [path, joinFolder_eq hne, String.toList_append, List.getLast?_append, h]
  rfl

lemma getLast?_path_project :
    (Place.project.path source project).toList.getLast? = some 'c' := by
  rw [path, String.toList_append, List.getLast?_append]
  rfl

theorem path_injOn {q r : Place} (hq : q.Proper) (hr : r.Proper)
    (h : q.path source project = r.path source project) : q = r := by
  have hlast := congrArg (·.toList.getLast?) h
  cases q with
  | source file =>
    rw [getLast?_path_source hq] at hlast
    cases r with
    | source other =>
      have hfile : file ≠ "" := by
        rintro rfl
        cases hq
      have hother : other ≠ "" := by
        rintro rfl
        cases hr
      rw [path, path, joinFolder_eq hfile, joinFolder_eq hother, String.append_right_inj] at h
      rw [h]
    | root other => exact absurd hlast.symm hr.1
    | project =>
      rw [getLast?_path_project] at hlast
      cases hlast
  | root file =>
    cases r with
    | source other =>
      rw [getLast?_path_source hr] at hlast
      exact absurd hlast hq.1
    | root other => exact congrArg Place.root h
    | project =>
      rw [getLast?_path_project] at hlast
      exact absurd hlast hq.2
  | project =>
    rw [getLast?_path_project] at hlast
    cases r with
    | source other =>
      rw [getLast?_path_source hr] at hlast
      cases hlast
    | root other => exact absurd hlast.symm hr.2
    | project => rfl

lemma path_eq_iff {q r : Place} (hq : q.Proper) (hr : r.Proper) :
    q.path source project = r.path source project ↔ q = r :=
  ⟨path_injOn hq hr, congrArg _⟩

/-! ### Files of classes and of names -/

/-- The source of a name in a folder. -/
def below (folder name : String) : Place := .source (folder ++ "/" ++ (name ++ ".swift"))

def top (name : String) : Place := .source (name ++ ".swift")

/-- A file of a class, or one that could be taken for it. -/
def ofClass : Place → Bool
  | .source file => "Models/".toList.isPrefixOf file.toList || "APIs/".toList.isPrefixOf file.toList
  | _ => false

lemma proper_below (folder name : String) : (below folder name).Proper := by
  have hname : (name ++ ".swift").toList.getLast? = some 't' := by
    rw [String.toList_append, List.getLast?_append]
    rfl
  rw [below, Proper, String.toList_append, List.getLast?_append, hname]
  rfl

lemma below_inj {folder name other : String} :
    below folder name = below folder other ↔ name = other := by
  rw [below, below, source.injEq, String.append_right_inj, String.append_left_inj]

lemma ofClass_models (name : String) : (below "Models" name).ofClass = true := by
  have hstart : "Models/".toList <+: ("Models" ++ "/" ++ (name ++ ".swift")).toList := by
    rw [String.toList_append]
    exact List.prefix_append ..
  rw [below, ofClass, List.isPrefixOf_iff_prefix.2 hstart, Bool.true_or]

lemma ofClass_apis (name : String) : (below "APIs" name).ofClass = true := by
  have hstart : "APIs/".toList <+: ("APIs" ++ "/" ++ (name ++ ".swift")).toList := by
    rw [String.toList_append]
    exact List.prefix_append ..
  rw [below, ofClass, List.isPrefixOf_iff_prefix.2 hstart, Bool.or_true]

lemma below_models_ne_apis (name other : String) :
    below "Models" name ≠ below "APIs" other := by
  intro h
  have hhead := congrArg (·.toList.head?) (source.inj h)
  simp [String.toList_append] at hhead

end Place

end ClientGen.Proofs
