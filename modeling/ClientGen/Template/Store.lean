import ClientGen.Failure
import ClientGen.FileTree
import ClientGen.Template.Reader
import ClientGen.Template.Render

/-!
# Stores of templates

Named templates, all read before the first is rendered. A template of markup is known by the ending
of its name.
-/

namespace ClientGen

structure TemplateStore where
  templates : Entries (List Template.Part) := []

namespace TemplateStore

/-- Reads templates; a later one of the same name replaces the earlier. `place` is shown when one of
them is malformed. -/
def ofList (place : String) (sources : List (String × String)) : Except Failure TemplateStore :=
  sources.foldlM (fun store (name, source) =>
    match Template.parse source with
    | some parts => .ok ⟨store.templates.put name parts⟩
    | none => .error (.templateLoad place)) {}

def slashed (name : String) : String := name.map fun c => if c == '\\' then '/' else c

/-- The files below a folder, named by their paths from it, where a backslash counts as a slash. A
folder that is not there has none. -/
def ofFolder (tree : FileTree) (folder : String) : Except Failure TemplateStore :=
  let files := (tree.folder? folder).elim [] tree.below
  ofList folder (files.map fun (name, source) => (slashed name, source))

def contains (s : TemplateStore) (name : String) : Bool := s.templates.hasKey name

/-- Names of templates whose texts are escaped. -/
def isMarkup (name : String) : Bool :=
  [".html", ".htm", ".xml"].any fun ending => ending.toList.isSuffixOf name.toList

/-- Only an object can be the context of a template. -/
def render (s : TemplateStore) (name : String) (context : Json) : Except Failure String :=
  match s.templates.get? name, context with
  | some parts, .obj fields =>
    match Template.renderAll (isMarkup name) ⟨[], fields⟩ parts with
    | some text => .ok text
    | none => .error (.render name)
  | _, _ => .error (.render name)

end TemplateStore

end ClientGen
