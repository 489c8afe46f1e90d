import ClientGen.FileTree
import ClientGen.Renderer

/-!
# Output files

The rendered files of a run wait in order until they are previewed or written. Each says whether it
may replace a file that is already there. Writing stops at the first file that cannot be written;
those before it stay.
-/

namespace ClientGen

inductive Overwrite
  | always
  | ifMissing
deriving DecidableEq, Repr

structure OutputFile where
  path : String
  content : String
  kind : EmissionKind
  overwrite : Overwrite := .always
deriving DecidableEq, Repr

/-- How many files of a pass were written and how many left alone, and their paths. -/
structure WriteStats where
  written : Nat := 0
  skipped : Nat := 0
  writtenPaths : List String := []
  skippedPaths : List String := []
deriving DecidableEq, Repr

namespace WriteStats

def total (s : WriteStats) : Nat := s.written + s.skipped

def addWritten (s : WriteStats) (path : String) : WriteStats :=
  { s with written := s.written + 1, writtenPaths := s.writtenPaths ++ [path] }

def addSkipped (s : WriteStats) (path : String) : WriteStats :=
  { s with skipped := s.skipped + 1, skippedPaths := s.skippedPaths ++ [path] }

end WriteStats

structure OutputFiles where
  files : List OutputFile := []
deriving DecidableEq, Repr

namespace OutputFiles

def register (o : OutputFiles) (f : OutputFile) : OutputFiles := ⟨o.files ++ [f]⟩

/-- Every emission rendered, up to the first failure. -/
def render (emissions : List Emission) (r : Renderer) : Except Failure OutputFiles := do
  let files ← emissions.mapM fun e => do
    let content ← r.render e.template e.context
    return { path := e.path, content, kind := e.kind }
  return ⟨files⟩

/-- One rule for all files. -/
def setOverwrite (o : OutputFiles) (overwrite : Overwrite) : OutputFiles :=
  ⟨o.files.map fun f => { f with overwrite }⟩

def ofKind (o : OutputFiles) (kind : EmissionKind) : List OutputFile :=
  o.files.filter (·.kind == kind)

def size (o : OutputFiles) : Nat := o.files.length

/-- A file that must not be replaced stays when something stands at its path. -/
def isKept (tree : FileTree) (base : String) (f : OutputFile) : Bool :=
  f.overwrite == .ifMissing && tree.exists? (joinPath base f.path)

/-- Writes the files below `base` one after the other: the tree that results, and the failure or
what happened to each file. -/
def writeFrom (base : String) (tree : FileTree) (stats : WriteStats) :
    List OutputFile → FileTree × Except Failure WriteStats
  | [] => (tree, .ok stats)
  | f :: rest =>
    if isKept tree base f then
      writeFrom base tree (stats.addSkipped f.path) rest
    else
      match tree.write (joinPath base f.path) f.content with
      | (tree, true) => writeFrom base tree (stats.addWritten f.path) rest
      | (tree, false) => (tree, .error (.write (joinPath base f.path)))

def writeAll (o : OutputFiles) (base : String) (tree : FileTree) :
    FileTree × Except Failure WriteStats :=
  writeFrom base tree {} o.files

end OutputFiles

end ClientGen
