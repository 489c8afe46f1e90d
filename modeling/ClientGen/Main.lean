import ClientGen.CommandLine.Execution

/-!
# The program

The arguments are run on a tree that holds what the command can look at: the files it reads, and
whatever stands where it would write. The files that differ afterwards are written.
-/

namespace ClientGen.CommandLine

/-- What stands at a path. -/
inductive Probe
  | missing
  | folder
  | file (content : String)

def probe (path : String) : IO Probe := do
  try
    let bytes ← IO.FS.readBinFile path
    return match String.fromUTF8? bytes with
      | some content => .file content
      | none => .missing
  catch
    | .inappropriateType .. => return .folder
    | _ => return .missing

/-- A tree with what stands at each of some paths. -/
def observe (tree : FileTree) (paths : List String) : IO FileTree :=
  paths.foldlM (fun tree path => do
    match ← probe path with
    | .missing => return tree
    | .folder => return (tree.makeFolders path).1
    | .file content => return (tree.write path content).1) tree

/-- The files that the arguments name as inputs. -/
def inputPaths (args : List String) : List String :=
  match Command.parse args with
  | .ok (.generate o) => o.input :: o.config.toList
  | _ => []

/-- The templates that the profile of the arguments asks for. -/
def templatePaths (args : List String) (tree : FileTree) : List String :=
  match Command.parse args with
  | .ok (.generate o) => o.templatePaths tree
  | _ => []

/-- A path and every folder above it, outermost first. -/
def pathsTo (path : String) : List String :=
  let names := pathNames path
  ((List.range names.length).map fun n => "/".intercalate (names.take (n + 1))).filter (!·.isEmpty)

def store (files : List (String × String)) : IO Unit :=
  files.forM fun (path, content) => do
    let folder := "/".intercalate (pathNames path).dropLast
    if !folder.isEmpty then IO.FS.createDirAll folder
    IO.FS.writeFile path content

end ClientGen.CommandLine

open ClientGen.CommandLine in
def main (args : List String) : IO UInt32 := do
  let tree ← observe {} (inputPaths args)
  let tree ← observe tree (templatePaths args tree)
  let planned := tree.changes (runArguments args tree).1
  let tree ← observe tree (planned.flatMap fun (path, _) => pathsTo path)
  let (after, shown) := runArguments args tree
  store (tree.changes after)
  IO.print shown.output
  shown.warnings.forM IO.eprintln
  if let some message := shown.message then IO.eprintln ("error: " ++ message)
  return shown.exit.toUInt32
