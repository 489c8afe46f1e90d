import ClientGen.Document.Operation

/-!
# Documents

An API description: its header, the definitions of its models and its paths, all in the order in
which they are written.
-/

namespace ClientGen

structure Info where
  title : String := ""
  version : String := ""
  description : Option String := none
deriving Inhabited

structure Document where
  swagger : Option String := none
  info : Info := {}
  host : Option String := none
  basePath : Option String := none
  definitions : Entries Schema := []
  paths : Entries PathItem := []
deriving Inhabited

/-- A declared operation with the place where it stands. -/
structure OperationSite where
  path : String
  item : PathItem
  method : HttpMethod
  decl : OperationDecl

namespace Document

/-- Every declared operation: paths in order, the methods of each path in theirs. -/
def sites (d : Document) : List OperationSite :=
  d.paths.flatMap fun (path, item) =>
    item.operations.map fun (method, decl) => { path, item, method, decl }

def operationCount (d : Document) : Nat := (d.paths.map fun p => p.2.operations.length).foldr (· + ·) 0

theorem length_sites (d : Document) : d.sites.length = d.operationCount := by
  simp [sites, operationCount, List.length_flatMap, List.sum_eq_foldr]

end Document

end ClientGen
