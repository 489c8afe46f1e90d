import ClientGen.Api.Model
import ClientGen.Api.Operation

/-!
# The API of a generated client

Header, models and operation groups of one run, in the order of the document.
-/

namespace ClientGen

structure ApiMeta where
  title : String := ""
  version : String := ""
  description : Option String := none
  host : Option String := none
  basePath : Option String := none
deriving DecidableEq, Repr

structure Api where
  header : ApiMeta := {}
  models : List Model := []
  groups : List OperationGroup := []
deriving DecidableEq, Repr

namespace Api

def model? (api : Api) (name : String) : Option Model := api.models.find? (·.name == name)

def group? (api : Api) (className : String) : Option OperationGroup :=
  api.groups.find? (·.className == className)

def operations (api : Api) : List Operation := api.groups.flatMap (·.operations)

def operationCount (api : Api) : Nat := (api.groups.map (·.operations.length)).foldr (· + ·) 0

theorem length_operations (api : Api) : api.operations.length = api.operationCount := by
  simp [operations, operationCount, List.length_flatMap, List.sum_eq_foldr]

end Api

end ClientGen
