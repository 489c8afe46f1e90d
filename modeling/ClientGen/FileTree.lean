import ClientGen.Json.Value

/-!
# File trees

The files that a run sees and writes, as a map from places to contents beside a set of folders. A
place is the list of names from the start, after dots are resolved; the map is kept by its path. A
path leads somewhere if every name but the last is a folder. Writing a file makes the folders above
it one after the other, and those made before a failure stay; it changes no other file.
-/

namespace ClientGen

/-- The names from the start to a file or folder. -/
abbrev FilePlace := List String

/-- A path as it is written: folder names between slashes. -/
def pathNames (path : String) : List String :=
  (path.toList.splitOnP (· == '/')).map .ofList

/-- A path below a folder; a path from the root stands for itself. -/
def joinPath (base path : String) : String :=
  if path.toList.head? == some '/' || base.isEmpty then path
  else if base.toList.getLast? == some '/' then base ++ path
  else base ++ "/" ++ path

/-- A name that stands for the folder itself. -/
def isStay (name : String) : Bool := name.isEmpty || name == "."

/-- A name that a file or folder of its own may have. -/
def isOwn (name : String) : Bool := !isStay name && name != ".."

namespace FilePlace

/-- One name further: a dot stays, two dots go up. -/
def step (place : FilePlace) (name : String) : FilePlace :=
  if isStay name then place
  else if name == ".." then
    match place.getLast? with
    | none | some ".." => place ++ [".."]
    | some "/" => place
    | some _ => place.dropLast
  else place ++ [name]

/-- Where a path starts; the root of all files is above every other place. -/
def start (path : String) : FilePlace := if path.toList.head? == some '/' then ["/"] else []

/-- The path that leads to a place. -/
def path : FilePlace → String
  | "/" :: names => "/" ++ "/".intercalate names
  | names => "/".intercalate names

/-- The start and the folders above it, which are always there. -/
def isAbove (place : FilePlace) : Bool := place.all fun name => name == ".." || name == "/"

end FilePlace

/-- A path of a place below the start. -/
def isInside (path : String) : Bool :=
  match pathNames path with
  | "" :: _ | ".." :: _ => false
  | _ => true

structure FileTree where
  files : Entries String := []
  folders : List String := []
deriving Inhabited

namespace FileTree

def content? (t : FileTree) (place : FilePlace) : Option String := t.files.get? place.path

def isFile (t : FileTree) (place : FilePlace) : Bool := t.files.hasKey place.path

def isFolder (t : FileTree) (place : FilePlace) : Bool :=
  place.isAbove || t.folders.contains place.path

/-- A file system refuses longer names. -/
def fits (name : String) : Bool := name.utf8ByteSize ≤ 255

/-- A file system refuses longer paths, and the null character anywhere. -/
def isPath (path : String) : Bool := path.utf8ByteSize ≤ 4095 && !path.toList.contains '\x00'

/-- The place to which names lead from another one, if everything on the way is a folder. -/
def follow? (t : FileTree) (place : FilePlace) : List String → Option FilePlace
  | [] => some place
  | name :: rest =>
    if t.isFolder place && fits name then follow? t (place.step name) rest else none

/-- Where a path leads. -/
def find? (t : FileTree) (path : String) : Option FilePlace :=
  if isPath path then t.follow? (.start path) (pathNames path) else none

def exists? (t : FileTree) (path : String) : Bool :=
  (t.find? path).any fun place => t.isFile place || t.isFolder place

/-- The content of the file at a path. -/
def read? (t : FileTree) (path : String) : Option String := (t.find? path).bind t.content?

/-- The folder at a path. -/
def folder? (t : FileTree) (path : String) : Option FilePlace := (t.find? path).filter t.isFolder

def setContent (t : FileTree) (place : FilePlace) (content : String) : FileTree :=
  { t with files := t.files.put place.path content }

/-- Makes the folders that are missing on the way along some names: the tree, and the last place
unless a file or a name too long stands in the way. -/
def makeWay (t : FileTree) (place : FilePlace) : List String → FileTree × Option FilePlace
  | [] => (t, some place)
  | name :: rest =>
    let next := place.step name
    if t.isFolder next then makeWay t next rest
    else if t.isFile next || !fits name then (t, none)
    else makeWay { t with folders := t.folders ++ [next.path] } next rest

/-- The names of the folder in which the last name of a path stands; names for the folder itself do
not count at the end. -/
def folderNames (path : String) : List String :=
  ((((pathNames path).reverse.dropWhile isStay).tail).dropWhile isStay).reverse

/-- Makes the folders above the last name of a path. -/
def makeParents (t : FileTree) (path : String) : FileTree × Option FilePlace :=
  let names := folderNames path
  if isPath ("/".intercalate names) then t.makeWay (.start path) names else (t, none)

/-- Makes a folder and those above it, and tells whether it is there. A path that ends in a dot
leads to a folder that is there before. -/
def makeFolders (t : FileTree) (path : String) : FileTree × Bool :=
  if !isPath path then (t, false)
  else
    match t.makeParents path, (pathNames path).reverse.dropWhile String.isEmpty with
    | (t, some place), name :: _ =>
      if isOwn name then
        let (t, made) := t.makeWay place [name]
        (t, made.isSome)
      else (t, (t.folder? path).isSome)
    | (t, made), _ => (t, made.isSome)

/-- The place of the file that writing to a path would make or replace. -/
def target? (t : FileTree) (path : String) : Option FilePlace :=
  (t.find? path).filter fun place =>
    ((pathNames path).getLast?.any isOwn) && !t.isFolder place

/-- The tree with the folders above a file, and whether the file could be written. -/
def write (t : FileTree) (path content : String) : FileTree × Bool :=
  match t.makeParents path with
  | (t, none) => (t, false)
  | (t, some _) =>
    match t.target? path with
    | some place => (t.setContent place content, true)
    | none => (t, false)

/-- The files below a folder, named by their paths from it. -/
def below (t : FileTree) (folder : FilePlace) : Entries String :=
  let start := if folder.isEmpty then [] else folder.path.toList ++ ['/']
  t.files.filterMap fun (path, content) => do
    let name : String := .ofList (← start.isPrefixOf? path.toList)
    if isInside name then return (name, content) else none

/-- The files that are new in `after` or have another content. -/
def changes (before after : FileTree) : Entries String :=
  after.files.filter fun (path, content) => before.files.get? path != some content

/-- The changed files below the start, by path and sorted by it. -/
def changesInside (before after : FileTree) : Entries String :=
  ((before.changes after).filter fun (path, _) => isInside path).mergeSort
    fun a b => !(b.1 < a.1)

end FileTree

end ClientGen
