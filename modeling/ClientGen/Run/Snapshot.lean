import ClientGen.Api.Json
import ClientGen.FileTree
import ClientGen.Json.Printer
import ClientGen.Run.Pipeline

/-!
# Snapshots

A plugin that remembers the state of a run after each phase and writes it to a folder, one JSON file
a phase.
-/

namespace ClientGen

structure Snapshot where
  phase : String
  api : Option Api
  diagnostics : List Diagnostic

def Diagnostic.toJson (d : Diagnostic) : Json :=
  .obj
    [("severity", .str d.severity.name), ("phase", .str d.phase), ("message", .str d.message),
     ("location", .ofText? d.location)]

def Snapshot.toJson (s : Snapshot) : Json :=
  .obj <|
    [("phase", .str s.phase)] ++ (s.api.map fun a => ("ir", a.toJson)).toList ++
      [("diagnostics", .arr (s.diagnostics.map Diagnostic.toJson))]

/-- The snapshots taken, and the files that hold them. -/
structure Album where
  taken : List Snapshot := []
  tree : FileTree := {}

/-- Writes a snapshot below `folder`; the folder is made first. -/
def Album.save (a : Album) (folder : String) (s : Snapshot) : Except (Failure × Album) Album :=
  match a.tree.makeFolders folder with
  | (tree, false) => .error (.write folder, { a with tree })
  | (tree, true) =>
    let path := joinPath folder (s.phase ++ ".json")
    match tree.write path s.toJson.pretty with
    | (tree, true) => .ok { taken := a.taken ++ [s], tree }
    | (tree, false) => .error (.write path, { a with tree })

def Plugin.snapshots (folder : String) : Plugin Album where
  after := fun phase s =>
    let snapshot : Snapshot := ⟨phase, s.run.api, s.run.diagnostics⟩
    match s.notes.save folder snapshot with
    | .ok notes => .ok { s with notes }
    | .error (failure, notes) => .error ⟨failure, { s with notes }⟩

end ClientGen
